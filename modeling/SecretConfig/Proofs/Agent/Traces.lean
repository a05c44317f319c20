import SecretConfig.Proofs.Agent.Calls
import SecretConfig.Proofs.Session.Ending

set_option autoImplicit false

/-! # The session of an agent in a run

Every act of an agent is a step of its session, or changes tasks and makes and drops calls
(`Traced.act`). So the steps that the session takes in a run of the agent are a run of the session
(`Run.traced`), and what holds of all runs of a session holds of it. -/

namespace SecretConfig

namespace Agent

variable {start s s' : Agent} {history past : List Moment} {id caller : CallId} {call : Call}
  {trace : List Session.Moment} {out : Option (CallId × Call)} {session : Session}
  {events : List Event} {store : Store}

/-! ## Parts of an act -/

/-- The session has made a few more steps, in which calls were made and dropped. -/
def Continues (start : Agent) (trace : List Session.Moment) (s : Agent) : Prop :=
  ∃ calls, Traced start (calls ++ trace) none s ∧ ∀ m ∈ calls, m.label.isOutside = true

theorem Traced.continues (h : Traced start trace none s) : Continues start trace s :=
  ⟨[], h, fun _ hm => absurd hm List.not_mem_nil⟩

theorem Continues.trans {calls : List Session.Moment} (h : Continues start (calls ++ trace) s)
    (outside : ∀ m ∈ calls, m.label.isOutside = true) : Continues start trace s := by
  obtain ⟨more, traced, all⟩ := h
  refine ⟨more ++ calls, by rwa [List.append_assoc], ?_⟩
  intro m hm
  rcases List.mem_append.1 hm with hm | hm
  · exact all m hm
  · exact outside m hm

/-- The session has made one more step, in which a call was made or dropped. -/
theorem Traced.continues_cons {m : Session.Moment} (h : Traced start (m :: trace) none s)
    (outside : m.label.isOutside = true) : Continues start trace s := by
  refine ⟨[m], h, ?_⟩
  intro v hv
  obtain rfl := List.mem_singleton.1 hv
  exact outside

variable {task : Task} {goal : Goal} {stage : Stage}

/-- A task that does not wait for a call is not in line, whatever becomes of it. -/
theorem Traced.put (h : Traced start trace none s) (ht : s.task? id = some task)
    (idle : task.awaits? = none) (t : Task) :
    Traced start trace (t.awaits?.map (id, ·)) (s.setTask id t) := by
  have hidle : s.awaits? id = none := by
    unfold awaits?
    rw [ht]
    exact idle
  exact h.setTask ht (h.not_mem_callers hidle) nofun t

/-- A task goes to a stage in which it does not wait for a call. -/
theorem Traced.park (h : Traced start trace none s) (ht : s.task? id = some task)
    (idle : task.awaits? = none) (next : (Task.work goal stage).awaits? = none) :
    Traced start trace none (s.park id goal stage) := by
  have hput := h.put ht idle (.work goal stage)
  rwa [next] at hput

theorem Traced.finish (h : Traced start trace none s) (ht : s.task? id = some task)
    (idle : task.awaits? = none) (goal : Goal) (outcome : Outcome) :
    Traced start trace none (s.finish id goal outcome) :=
  h.park ht idle (by cases goal <;> rfl)

/-- A task goes to a stage in which it waits for a call, and makes it. -/
theorem Traced.enterAsking (h : Traced start trace none s) (ht : s.task? id = some task)
    (idle : task.awaits? = none) (next : (Task.work goal stage).awaits? = some call) :
    Continues start trace ((s.park id goal stage).ask id call) := by
  have hput := h.put ht idle (.work goal stage)
  rw [next] at hput
  obtain ⟨m, hlabel, traced⟩ := hput.ask
  exact traced.continues_cons (by rw [hlabel]; rfl)

theorem Traced.cancel (h : Traced start trace none s) (id : CallId) :
    Traced start trace none (s.cancel id) :=
  h.modify_same fun t _ => by
    cases t with
    | work goal stage => rfl
    | scheduler sched =>
        obtain ⟨policy, cancelled, seen, last, phase⟩ := sched
        cases phase with
        | renewing before reply | relogging reply => cases reply <;> rfl
        | looking | waiting | stopped => rfl

theorem Traced.enterStopping (h : Traced start trace none s) (ht : s.task? id = some task)
    (idle : task.awaits? = none) (goal : Goal) (scheduler : CallId) (grace : Duration) :
    Traced start trace none (s.enterStopping id goal scheduler grace) :=
  (h.park ht idle (by cases goal <;> rfl)).cancel scheduler

theorem Traced.enterClosing (h : Traced start trace none s) (ht : s.task? id = some task)
    (idle : task.awaits? = none) (scheduler : Option CallId) (revoke : Bool)
    (failure : Option Error) :
    Continues start trace (s.enterClosing id (.stop scheduler revoke failure) revoke) :=
  h.enterAsking ht idle rfl

theorem Traced.enterStop (h : Traced start trace none s) (ht : s.task? id = some task)
    (idle : task.awaits? = none) (scheduler : Option CallId) (revoke : Bool)
    (failure : Option Error) :
    Continues start trace (s.enterStop id scheduler revoke failure) := by
  cases scheduler with
  | none => exact h.enterClosing ht idle none revoke failure
  | some target => exact (h.enterStopping ht idle _ target stopGrace).continues

theorem Traced.enterQueue (h : Traced start trace none s) (ht : s.task? id = some task)
    (idle : task.awaits? = none) (goal : Goal) :
    Traced start trace none (s.enterQueue id goal) :=
  (h.park ht idle (by cases goal <;> rfl)).around rfl rfl rfl rfl rfl (Nat.le_refl _)

theorem Traced.withSource (h : Traced start trace none s) (source : Source) :
    Traced start trace none { s with source } :=
  h.around rfl rfl rfl rfl rfl (Nat.le_refl _)

theorem Traced.withStore (h : Traced start trace none s) (store : Store) :
    Traced start trace none { s with store } :=
  h.around rfl rfl rfl rfl rfl (Nat.le_refl _)

theorem Traced.finishSource (h : Traced start trace none s) (ht : s.task? id = some task)
    (idle : task.awaits? = none) (source : Source) (goal : Goal) (outcome : Outcome) :
    Traced start trace none (({ s with source } : Agent).finish id goal outcome) :=
  (h.withSource source).finish ht idle goal outcome

theorem Traced.finishStore (h : Traced start trace none s) (ht : s.task? id = some task)
    (idle : task.awaits? = none) (store : Store) (goal : Goal) (outcome : Outcome) :
    Traced start trace none (({ s with store } : Agent).finish id goal outcome) :=
  (h.withStore store).finish ht idle goal outcome

theorem Traced.record (h : Traced start trace none s) (records : List Metrics.Record) :
    Traced start trace none (s.record records) :=
  h.around rfl rfl rfl rfl rfl (Nat.le_refl _)

theorem Traced.finishBuild (h : Traced start trace none s) (ht : s.task? id = some task)
    (idle : task.awaits? = none) (goal : Goal) (result : Except Error (List Layer)) :
    Continues start trace (s.finishBuild id goal result) := by
  cases result with
  | ok ls =>
      cases goal with
      | refresh | load => exact (h.finishSource ht idle _ _ _).continues
      | _ => exact (h.finish ht idle _ _).continues
  | error e =>
      cases goal with
      | refresh => exact (h.finishSource ht idle _ _ _).continues
      | load scheduler revoke =>
          exact (h.withSource s.source.release).enterStop ht idle scheduler revoke (some e)
      | _ => exact (h.finish ht idle _ _).continues

theorem Traced.enterBuild (h : Traced start trace none s) (ht : s.task? id = some task)
    (idle : task.awaits? = none) (goal : Goal) (o : BuildOptions)
    (descriptors : List Descriptor) :
    Continues start trace (s.enterBuild id goal o descriptors) := by
  unfold Agent.enterBuild
  obtain ⟨planned, records⟩ := Build.plan s.registry o descriptors
  cases planned with
  | error e => exact (h.record records).finishBuild ht idle goal (.error e)
  | ok reads =>
      cases reads with
      | nil => exact (h.record records).finishBuild ht idle goal (.ok [])
      | cons r rest =>
          exact (h.record records).enterAsking ht idle (by cases goal <;> rfl)

theorem Traced.sendReads (h : Traced start trace none s) (ht : s.task? id = some task)
    (idle : task.awaits? = none) (goal : Goal) (o : BuildOptions) (t : Token)
    (reads : List PlannedRead) :
    Traced start trace none (s.sendReads id goal o t reads) := by
  have next (slots : List ReadSlot) : (Task.work goal (.reading o t slots)).awaits? = none := by
    cases goal <;> rfl
  have hstore := h.withStore
    (reads.foldl (fun store (r : PlannedRead) => store.recordRead r.plan.path) s.store)
  exact hstore.park ht idle (next _)

theorem Traced.perform (h : Traced start trace none s) (ht : s.task? id = some task)
    (idle : task.awaits? = none) (goal : Goal) :
    Traced start trace none (s.perform id goal) := by
  unfold Agent.perform
  split
  · split
    · exact h.finish ht idle _ _
    · exact h.finishStore ht idle _ _ _
  · split <;> exact h.finishStore ht idle _ _ _
  · split <;> exact h.finishStore ht idle _ _ _
  · split <;> exact h.finish ht idle _ _
  · split <;> exact h.finishStore ht idle _ _ _
  · exact h.finish ht idle _ _

theorem Traced.startScheduler (h : Traced start trace none s) (policy : RenewalPolicy) :
    Traced start trace none (s.startScheduler policy).1 :=
  h.append rfl

theorem Traced.loggedIn (h : Traced start trace none s) (ht : s.task? id = some task)
    (idle : task.awaits? = none) (goal : Goal) (policy : RenewalPolicy) (revoke : Bool)
    (reply : Reply) : Traced start trace none (s.loggedIn id goal policy revoke reply) := by
  unfold Agent.loggedIn
  split
  · split
    · have ht' : (s.startScheduler policy).1.task? id = some task := by
        rw [Agent.startScheduler, task?_append, ht]
        rfl
      exact (h.startScheduler policy).enterQueue ht' idle _
    · exact h.enterQueue ht idle _
  · exact h.finish ht idle _ _

theorem Traced.schedulerStopped (h : Traced start trace none s) (ht : s.task? id = some task)
    (idle : task.awaits? = none) (goal : Goal) :
    Continues start trace (s.schedulerStopped id goal) := by
  cases goal with
  | stop scheduler revoke failure => exact h.enterClosing ht idle scheduler revoke failure
  | _ => exact (h.finish ht idle _ _).continues

theorem task?_of_scheduler? {sched : Scheduler} (h : s.scheduler? id = some sched) :
    s.task? id = some (.scheduler sched) := by
  unfold Agent.scheduler? at h
  split at h
  · rename_i htask
    rw [htask, Option.some.inj h]
  · exact nomatch h

/-- A scheduler that is stopped at once leaves the session. -/
theorem Traced.abort (h : Traced start trace none s) {sched : Scheduler}
    (ht : s.task? id = some (.scheduler sched)) : Continues start trace (s.abort id) := by
  obtain ⟨idle, m, hlabel, traced⟩ := h.abandon id
  have own (caller : CallId) (call : Call)
      (he : (s.awaits? id).map (id, ·) = some (caller, call)) : caller = id := by
    obtain ⟨c, -, hp⟩ := Option.map_eq_some_iff.1 he
    exact (Prod.mk.inj hp).1.symm
  obtain ⟨stop, habort, hstop⟩ : ∃ f, s.abort id = (s.abandon id).modifyTask id f ∧
      f (.scheduler sched) = .scheduler { sched with phase := .stopped } := ⟨_, rfl, rfl⟩
  have hstopped := traced.modifyTask stop idle own
  rw [task?_abandon, ht, Option.map_some, hstop, ← habort] at hstopped
  exact hstopped.continues_cons (by rw [hlabel]; rfl)

theorem task?_abort {caller : CallId} (s : Agent) (other : caller ≠ id) :
    (s.abort id).task? caller = s.task? caller := by
  unfold Agent.abort
  rw [task?_modifyTask, if_neg other, task?_abandon]

theorem Traced.enter (h : Traced start trace none s) (ht : s.task? id = some task)
    (idle : task.awaits? = none) (goal : Goal) : Continues start trace (s.enter id goal) := by
  cases goal with
  | call c =>
      have hasks : Continues start trace ((s.park id (.call c) (.calling none)).ask id c) :=
        h.enterAsking ht idle rfl
      exact hasks
  | start policy revoke =>
      have hasks : Continues start trace
          ((s.park id (.start policy revoke) (.calling none)).ask id .login) :=
        h.enterAsking ht idle rfl
      exact hasks
  | layers o ds | properties o ds => exact h.enterBuild ht idle _ o ds
  | refresh | load => exact (h.enterQueue ht idle _).continues
  | stop scheduler revoke failure => exact h.enterStop ht idle scheduler revoke failure
  | stopScheduler scheduler grace => exact (h.enterStopping ht idle _ scheduler grace).continues
  | pause | login | renew | revoke | write => exact (h.park ht idle rfl).continues
  | read path t => exact ((h.withStore (s.store.recordRead path)).park ht idle rfl).continues

/-- A task gets the next identity, with a goal that it is about to take up. -/
def withTask (s : Agent) (goal : Goal) : Agent :=
  { s with
    tasks := s.tasks ++ [(s.nextId, .work goal (.waiting s.now))]
    nextId := s.nextId + 1 }

theorem task?_withTask (ht : s.task? id = some task) (goal : Goal) :
    (s.withTask goal).task? id = some task := by
  rw [withTask, task?_append, ht]
  rfl

theorem Traced.task?_nextId (h : Traced start trace none s) (goal : Goal) :
    (s.withTask goal).task? s.nextId = some (.work goal (.waiting s.now)) := by
  rw [withTask, task?_append, h.fresh s.nextId (Nat.le_refl _)]
  simp

theorem awaits?_waiting (goal : Goal) (readyAt : Instant) :
    (Task.work goal (.waiting readyAt)).awaits? = none := by
  cases goal <;> rfl

theorem Traced.withTask (h : Traced start trace none s) (goal : Goal) :
    Traced start trace none (s.withTask goal) :=
  h.append (awaits?_waiting goal s.now)

theorem Traced.spawn (h : Traced start trace none s) (goal : Goal) :
    Continues start trace (s.spawn goal).1 :=
  (h.withTask goal).enter (h.task?_nextId goal) (awaits?_waiting goal s.now) goal

theorem task?_filter (s : Agent) (id caller : CallId) :
    ({ s with tasks := s.tasks.filter fun e => e.1 ≠ id } : Agent).task? caller =
      if caller = id then none else s.task? caller := by
  simp only [task?, List.find?_filter]
  by_cases hc : caller = id
  · subst hc
    simp
  · rw [if_neg hc]
    congr 2
    funext e
    by_cases he : e.1 = caller <;> simp [he, hc]

theorem task?_drop (s : Agent) (id caller : CallId) :
    (s.drop id).task? caller = if caller = id then none else s.task? caller := by
  have hdrop := task?_filter (s.abandon id) id caller
  rw [task?_abandon] at hdrop
  exact hdrop

/-- The task of an identity that is not in line goes away. -/
theorem Traced.remove (h : Traced start trace out s) (idle : id ∉ s.session.callers)
    (own : ∀ caller call, out = some (caller, call) → caller = id) :
    Traced start trace none { s with tasks := s.tasks.filter fun e => e.1 ≠ id } where
  run := h.run
  clock := h.clock
  files := h.files
  fresh caller hcaller := by
    rw [task?_filter, h.fresh caller hcaller]
    split <;> rfl
  line caller call := by
    unfold awaits?
    rw [task?_filter]
    by_cases hc : caller = id
    · subst hc
      have hline : (caller, call) ∉ s.session.line :=
        fun hmem => idle (Session.mem_callers_of_mem_line hmem)
      simp [hline]
    · have hout : out ≠ some (caller, call) := fun he => hc (own caller call he)
      have hold := h.line caller call
      simp only [hout, or_false] at hold
      rw [if_neg hc]
      simpa [awaits?] using hold
  apart _ _ he := nomatch he
  sent := h.sent

theorem Traced.drop (h : Traced start trace none s) (id : CallId) :
    Continues start trace (s.drop id) := by
  obtain ⟨idle, m, hlabel, traced⟩ := h.abandon id
  have own (caller : CallId) (call : Call)
      (he : (s.awaits? id).map (id, ·) = some (caller, call)) : caller = id := by
    obtain ⟨c, -, hp⟩ := Option.map_eq_some_iff.1 he
    exact (Prod.mk.inj hp).1.symm
  have hdropped := (traced.remove idle own).withSource ((s.abandon id).source.drop id)
  exact hdropped.continues_cons (by rw [hlabel]; rfl)

/-- A task that goes on does not wait for a call. -/
theorem awaits?_of_resumeWork (step : s.resumeWork id goal stage = some s') :
    (Task.work goal stage).awaits? = none := by
  cases stage with
  | calling reply =>
      cases reply with
      | none => exact nomatch step
      | some reply => cases goal <;> rfl
  | obtaining o reads reply =>
      cases reply with
      | none => exact nomatch step
      | some reply => cases goal <;> rfl
  | closing reply =>
      cases reply with
      | none => exact nomatch step
      | some reply => cases goal <;> rfl
  | queued | reading | stopping | waiting | ended => cases goal <;> rfl

theorem Traced.resumeWork (h : Traced start trace none s)
    (ht : s.task? id = some (.work goal stage)) (step : s.resumeWork id goal stage = some s') :
    Continues start trace s' := by
  have idle := awaits?_of_resumeWork step
  cases stage with
  | calling reply =>
      cases reply with
      | none => exact nomatch step
      | some reply =>
          cases goal with
          | start policy revoke =>
              obtain rfl := Option.some.inj step
              exact (h.loggedIn ht idle _ policy revoke reply).continues
          | _ =>
              obtain rfl := Option.some.inj step
              exact (h.finish ht idle _ _).continues
  | queued =>
      simp only [Agent.resumeWork, Option.ite_none_right_eq_some, Option.some.injEq] at step
      obtain ⟨-, rfl⟩ := step
      exact h.enterBuild ht idle goal _ _
  | obtaining o reads reply =>
      cases reply with
      | none => exact nomatch step
      | some reply =>
          cases reply with
          | token t =>
              obtain rfl := Option.some.inj step
              exact (h.sendReads ht idle goal o t reads).continues
          | failed e =>
              obtain rfl := Option.some.inj step
              exact h.finishBuild ht idle goal (.error e)
          | closed | crashed =>
              obtain rfl := Option.some.inj step
              exact (h.finishSource ht idle _ _ _).continues
  | reading o t slots =>
      simp only [Agent.resumeWork, Option.ite_none_right_eq_some, Option.some.injEq] at step
      obtain ⟨-, rfl⟩ := step
      exact h.finishBuild ht idle goal _
  | stopping scheduler deadline =>
      simp only [Agent.resumeWork] at step
      split at step
      · obtain rfl := Option.some.inj step
        exact h.schedulerStopped ht idle goal
      · rename_i running
        simp only [Option.ite_none_right_eq_some, Option.some.injEq] at step
        obtain ⟨-, rfl⟩ := step
        cases hs : s.scheduler? scheduler with
        | none => simp [isStopped, hs] at running
        | some sched =>
            have hsched := task?_of_scheduler? hs
            have other : id ≠ scheduler := by
              rintro rfl
              exact nomatch ht.symm.trans hsched
            obtain ⟨calls, traced, outside⟩ := h.abort hsched
            exact (traced.schedulerStopped ((task?_abort s other).trans ht) idle goal).trans outside
  | closing reply =>
      cases reply with
      | none => exact nomatch step
      | some reply =>
          obtain rfl := Option.some.inj step
          exact (h.finish ht idle _ _).continues
  | waiting readyAt =>
      simp only [Agent.resumeWork, Option.ite_none_right_eq_some, Option.some.injEq] at step
      obtain ⟨-, rfl⟩ := step
      exact (h.perform ht idle goal).continues
  | ended => exact nomatch step

theorem Traced.turn (h : Traced start trace none s) {sched : Scheduler}
    {next : Scheduler × Option Call} (ht : s.task? id = some (.scheduler sched))
    (does : sched.Does s.now s.session next.1 next.2) : Continues start trace (s.turn id next) := by
  obtain ⟨sched', call⟩ := next
  obtain ⟨idle, hcall⟩ := does.awaits?_eq
  have hput := h.put ht idle (.scheduler sched')
  have hnext : (Task.scheduler sched').awaits? = call := hcall
  rw [hnext] at hput
  cases call with
  | none => exact Traced.continues hput
  | some c =>
      obtain ⟨m, hlabel, traced⟩ := hput.ask
      exact traced.continues_cons (by rw [hlabel]; rfl)

theorem Traced.stepTask (h : Traced start trace none s) (step : s.stepTask id = some s') :
    Continues start trace s' := by
  cases resumes_of_stepTask step with
  | works ht step => exact h.resumeWork ht step
  | turns ht turn after =>
      subst after
      exact h.turn ht (Scheduler.does_of_step turn s.now)

/-- A read that ends is one of a build, which takes note of what comes of it. -/
theorem park_of_stepRead {index : Nat} (step : s.stepRead id index = some s') :
    ∃ goal o t slots slots' records, s.task? id = some (.work goal (.reading o t slots)) ∧
      s' = (s.record records).park id goal (.reading o t slots') := by
  unfold Agent.stepRead at step
  split at step
  · rename_i goal o t slots ht
    split at step
    · split at step
      · exact nomatch step
      · obtain ⟨answer, -, rfl⟩ := Option.map_eq_some_iff.1 step
        exact ⟨goal, o, t, slots, _, _, ht, rfl⟩
    · exact nomatch step
  · exact nomatch step

theorem Traced.stepRead (h : Traced start trace none s) {index : Nat}
    (step : s.stepRead id index = some s') : Traced start trace none s' := by
  obtain ⟨goal, o, t, slots, slots', records, ht, rfl⟩ := park_of_stepRead step
  exact (h.record records).park ht (by cases goal <;> rfl) (by cases goal <;> rfl)

/-! ## Acts -/

/-- The request that the store answers. -/
def Act.answered? (s : Agent) : Act → Option PendingRequest
  | .move (.answer id) => s.requests.find? fun r => r.caller = id
  | _ => none

/-- The step of the session that the act is, other than that a call is made or dropped. -/
def Act.label? (s : Agent) (a : Act) : Option Session.Label :=
  match a with
  | .move (.proceed id) => some (.proceed id)
  | .move (.answer id) => (a.answered? s).map fun r => .answer id (s.store.answer r.request).1
  | .move (.expire id) => some (.expire id)
  | _ => none

theorem Act.isOutside_of_label? {a : Act} {l : Session.Label} (h : a.label? s = some l) :
    l.isOutside = false := by
  unfold Act.label? at h
  split at h
  · rw [← Option.some.inj h]
    rfl
  · obtain ⟨r, -, rfl⟩ := Option.map_eq_some_iff.1 h
    rfl
  · rw [← Option.some.inj h]
    rfl
  · exact nomatch h

/-- An act that is no step of the session answers nothing. -/
theorem Act.answered?_eq_none {a : Act} (none : a.label? s = Option.none) :
    a.answered? s = Option.none := by
  cases a with
  | move move =>
      cases move with
      | answer id => exact Option.map_eq_none_iff.1 none
      | _ => rfl
  | _ => rfl

/-- There is no answer to what was not asked. -/
theorem stepAnswer_eq_none (none : (Act.move (.answer id)).label? s = Option.none) :
    s.stepAnswer id = Option.none := by
  have unasked : (s.requests.find? fun r => r.caller = id) = Option.none :=
    Act.answered?_eq_none none
  simp [stepAnswer, unasked]

/-- An act that is a step of the session: replies reach the tasks, and only an answer changes the
store. -/
structure Act.Steps (a : Act) (s : Agent) (l : Session.Label) (events : List Event)
    (s' : Agent) : Prop where
  label : a.label? s = some l
  step : s.session.step s.now l = some (s'.session, events)
  task? : ∀ id, s'.task? id = (s.task? id).map (Task.takeReplies id events)
  store : s'.store = (a.answered? s).elim s.store fun r => (s.store.answer r.request).2

theorem steps_of_stepSession {a : Act} {l : Session.Label} (label : a.label? s = some l)
    (store_eq : store = (a.answered? s).elim s.store fun r => (s.store.answer r.request).2)
    {requests : List PendingRequest}
    (step : ({ s with store, requests } : Agent).stepSession l = some s') :
    ∃ events, a.Steps s l events s' ∧
      ({ s with session := s'.session, store, requests } : Agent).Absorbs events s' := by
  unfold Agent.stepSession at step
  obtain ⟨⟨session, events⟩, hstep, hs'⟩ := Option.map_eq_some_iff.1 step
  have absorbs : ({ s with session, store, requests } : Agent).Absorbs events s' :=
    hs' ▸ absorbs_foldl _ events
  obtain rfl : s'.session = session := absorbs.session
  exact ⟨events, ⟨label, hstep, absorbs.task?, absorbs.store.trans store_eq⟩, absorbs⟩

theorem Traced.proceed (h : Traced start trace none s)
    (step : s.stepSession (.proceed id) = some s') :
    ∃ events, (Act.move (.proceed id)).Steps s (.proceed id) events s' ∧
      Traced start (⟨s.session, s.now, .proceed id, s'.session, events⟩ :: trace) none s' := by
  obtain ⟨events, steps, absorbs⟩ := steps_of_stepSession (a := .move (.proceed id)) rfl rfl step
  exact ⟨events, steps, h.goesOn steps.step absorbs (fun _ hx => hx) nofun
    (List.filter_eq_self.2 fun _ _ => rfl).symm⟩

/-- An answer or the end of the waiting settles the request of its call. -/
theorem Traced.settle (h : Traced start trace none s) {a : Act} {l : Session.Label}
    (settles : l = .expire id ∨ ∃ answer, l = .answer id answer) (label : a.label? s = some l)
    (store_eq : store = (a.answered? s).elim s.store fun r => (s.store.answer r.request).2)
    (step : ({ s.forget id with store } : Agent).stepSession l = some s') :
    ∃ events, a.Steps s l events s' ∧
      Traced start (⟨s.session, s.now, l, s'.session, events⟩ :: trace) none s' := by
  obtain ⟨events, steps, absorbs⟩ := steps_of_stepSession label store_eq step
  have begins (x : CallId) : ¬ l.Begins x := by
    rcases settles with rfl | ⟨answer, rfl⟩ <;> exact fun hx => hx
  have drops (x : CallId) : l ≠ .drop x := by
    rcases settles with rfl | ⟨answer, rfl⟩ <;> exact nofun
  have kept : (s.forget id).requests = s.requests.filter fun r => !l.settles r.caller := by
    refine List.filter_congr fun r _ => ?_
    rcases settles with rfl | ⟨answer, rfl⟩ <;> simp [Session.Label.settles]
  exact ⟨events, steps, h.goesOn steps.step absorbs begins drops kept⟩

/-- An act is a step of the session, or makes and drops calls. -/
theorem Traced.act (h : Traced start trace none s) {a : Act} (step : s.act a = some s') :
    (∃ l events, a.Steps s l events s' ∧
      Traced start (⟨s.session, s.now, l, s'.session, events⟩ :: trace) none s') ∨
      a.label? s = none ∧ Continues start trace s' := by
  cases a with
  | spawn goal =>
      obtain rfl := Option.some.inj step
      exact .inr ⟨rfl, h.spawn goal⟩
  | startScheduler policy =>
      obtain rfl := Option.some.inj step
      exact .inr ⟨rfl, (h.startScheduler policy).continues⟩
  | drop id =>
      obtain rfl := Option.some.inj step
      exact .inr ⟨rfl, h.drop id⟩
  | move move =>
      cases move with
      | proceed id => exact .inl ⟨_, h.proceed step⟩
      | answer id =>
          obtain ⟨r, found, -, answered⟩ := stepSession_of_answer step
          exact .inl ⟨_, h.settle (.inr ⟨_, rfl⟩) (by simp [Act.label?, Act.answered?, found])
            (by simp [Act.answered?, found]) answered⟩
      | expire id =>
          obtain ⟨r, -, -, expired⟩ := stepSession_of_expire step
          exact .inl ⟨_, h.settle (a := .move (.expire id)) (.inl rfl) rfl rfl expired⟩
      | read id index => exact .inr ⟨rfl, (h.stepRead step).continues⟩
      | resume id => exact .inr ⟨rfl, h.stepTask step⟩
      | wake id cause =>
          obtain ⟨sched, next, ht, hwake, rfl⟩ := turn_of_wake step
          exact .inr ⟨rfl, h.turn ht (Scheduler.does_of_wake hwake)⟩
      | pass t =>
          obtain ⟨hle, rfl⟩ := eq_of_pass step
          have later : Traced start trace none { s with now := t } :=
            h.around rfl rfl rfl rfl rfl hle
          exact .inr ⟨rfl, later.continues⟩

/-! ## Every run -/

/-- An agent before anything has happened to it. -/
structure IsFresh (s : Agent) : Prop where
  session : s.session = { strategy := s.session.strategy, timeout := s.session.timeout }
  tasks : s.tasks = []
  requests : s.requests = []

/-- An agent over a store in memory, with the resolvers of the library, before its first act. -/
def overMemory (store : MemoryStore) : Agent :=
  { files := default
    store := .memory store
    registry := .standard
    session := { strategy := .appRole "approle" "role" (some ⟨"secret"⟩), timeout := 30000 } }

theorem isFresh_overMemory (store : MemoryStore) : (overMemory store).IsFresh := ⟨rfl, rfl, rfl⟩

theorem IsFresh.traced (fresh : start.IsFresh) : Traced start [] none start where
  run := by
    rw [fresh.session]
    exact .fresh
  clock _ hm := absurd hm List.not_mem_nil
  files := rfl
  fresh id _ := by simp [task?, fresh.tasks]
  line id call := by
    have hline : start.session.line = [] := by
      rw [fresh.session]
      rfl
    simp [awaits?, task?, fresh.tasks, hline]
  apart _ _ he := nomatch he
  sent := by
    rw [Agent.sent, fresh.requests, fresh.session]
    rfl

/-- The steps that the session of an agent takes in a run are a run of the session. -/
theorem Run.traced (run : Run start history s) (fresh : start.IsFresh) :
    ∃ trace, Traced start trace none s := by
  induction run with
  | start => exact ⟨[], fresh.traced⟩
  | next run step ih =>
      obtain ⟨trace, traced⟩ := ih
      rcases traced.act step with ⟨l, events, -, next⟩ | ⟨-, calls, next, -⟩
      · exact ⟨_, next⟩
      · exact ⟨_, next⟩

end Agent

end SecretConfig
