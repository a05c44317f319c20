import SecretConfig.Proofs.Agent.Course

set_option autoImplicit false

/-! # What a build does

A build stands where its course says from the moment at which it was asked for (`Run.course`): it
begins there (`course_spawn`), its own acts bring it on (`Course.read`, `Course.resumeWork`), and
all other acts leave it.

What it asks of the store are the reads that it sends, and no more (`Run.store_of_build`); and a
build that is over at once asks nobody for anything (`Run.silent_of_build`). -/

namespace SecretConfig

namespace Agent

variable {start s s' : Agent} {past later : List Moment} {m w : Moment} {id index : Nat}
  {goal : Goal} {o : BuildOptions} {ds : List Descriptor} {t : Token}
  {trace : List Session.Moment} {a : Act}

theorem enter_build (s : Agent) (id : CallId) (build : goal.build? = some (o, ds)) :
    s.enter id goal = s.enterBuild id goal o ds := by
  cases goal with
  | layers | properties =>
      obtain ⟨rfl, rfl⟩ := Prod.mk.inj (Option.some.inj build)
      rfl
  | _ => exact nomatch build

theorem finishBuild_eq (s : Agent) (id : CallId) (build : goal.build? = some (o, ds))
    (result : Except Error (List Layer)) :
    s.finishBuild id goal result = s.finish id goal (goal.conclusion result) := by
  cases goal with
  | layers | properties => cases result <;> rfl
  | _ => exact nomatch build

/-! ## What a build does itself -/

/-- What comes of a read that ends. -/
theorem answerTo_cases {r : ReadSlot} {answer : ReadAnswer}
    (h : s.answerTo o t r = some answer) :
    r.readyAt ≤ s.now ∧ answer = s.store.read r.read.plan.path t ∨
      s.now < r.readyAt ∧ r.deadline ≤ s.now ∧
        answer = .error (.timedOutAfter "read" o.readTimeout) := by
  unfold answerTo at h
  split at h
  · rename_i ready
    exact .inl ⟨ready, (Option.some.inj h).symm⟩
  · rename_i early
    simp only [Option.ite_none_right_eq_some, Option.some.injEq] at h
    exact .inr ⟨Nat.lt_of_not_le early, h.1, h.2.symm⟩

/-- A read that ends leaves its outcome, and the others as they are. -/
theorem slot_of_stepRead {slots : List ReadSlot}
    (ht : s.task? id = some (.work goal (.reading o t slots)))
    (step : s.stepRead id index = some s') :
    ∃ r answer, slots[index]? = some r ∧ r.outcome = none ∧ s.answerTo o t r = some answer ∧
      s' = (s.record [r.read.descriptor.record (r.read.layer o answer).2]).park id goal
        (.reading o t (slots.set index { r with outcome := some (r.read.layer o answer).1 })) := by
  simp only [stepRead, ht] at step
  split at step
  · rename_i r hr
    split at step
    · exact nomatch step
    · rename_i open'
      obtain ⟨answer, hanswer, rfl⟩ := Option.map_eq_some_iff.1 step
      exact ⟨r, answer, hr, by simpa using open', hanswer, rfl⟩
  · exact nomatch step

/-- A read of the build ends. -/
theorem Course.read (h : Course m goal o ds later s)
    (step : s.stepRead m.before.nextId index = some s') :
    Course m goal o ds (⟨s, .move (.read m.before.nextId index), s'⟩ :: later) s' := by
  -- only a build that waits for its reads has one that ends
  have absurd' {stage : Stage} (ht : s.task? m.before.nextId = some (.work goal stage))
      (other : ∀ o t slots, stage ≠ .reading o t slots) : False := by
    obtain ⟨goal', o', t', slots', -, -, hread, -⟩ := park_of_stepRead step
    exact other o' t' slots' (Task.work.inj (Option.some.inj (ht.symm.trans hread))).2
  cases h with
  | reading clear needed sent reads follows ht =>
      rename_i t v slots
      obtain ⟨r, answer, hr, -, hanswer, rfl⟩ := slot_of_stepRead ht step
      have ht' := task?_park
        (s := s.record [r.read.descriptor.record (r.read.layer o answer).2]) ht goal
        (.reading o t (slots.set index { r with outcome := some (r.read.layer o answer).1 }))
      refine .reading clear needed (sent.next rfl) ?_ ?_ ht'
      · rw [map_read_set hr, reads]
      · intro k r' hr'
        -- of the slots only the one of this read has changed
        by_cases hk : index = k
        · subst hk
          obtain ⟨hlt, -⟩ := List.getElem?_eq_some_iff.1 hr
          rw [List.getElem?_set_self hlt] at hr'
          obtain rfl := Option.some.inj hr'
          have before := follows index r hr
          refine ⟨before.readyAt, before.deadline, ?_⟩
          rintro result ⟨⟩
          refine ⟨_, answer, List.mem_cons_self, ⟨?_, ?_⟩, rfl⟩
          · simp [Moment.readEnd?, ht, hr, hanswer]
          · rw [← before.readyAt, ← before.deadline]
            exact answerTo_cases hanswer
        · rw [List.getElem?_set_ne hk] at hr'
          exact (follows k r' hr').next _
  | dropped _ _ ht =>
      simp only [stepRead, ht] at step
      exact nomatch step
  | blocked _ _ ht | idle _ _ _ ht | obtaining _ _ _ _ ht | denied _ _ _ _ _ _ ht
  | collected _ _ _ _ _ ht => exact (absurd' ht nofun).elim

/-- When all reads have ended, each has an answer of which its outcome was made. -/
theorem answers_of_slots {slots : List ReadSlot} {P : Nat → PlannedRead → ReadAnswer → Prop}
    (ended : ∀ r ∈ slots, r.outcome.isSome = true)
    (made : ∀ (index : Nat) r result, slots[index]? = some r → r.outcome = some result →
      ∃ answer, P index r.read answer ∧ result = (r.read.layer o answer).1) :
    ∃ answers : List ReadAnswer, answers.length = slots.length ∧
      (∀ (index : Nat) r answer, (slots.map ReadSlot.read)[index]? = some r →
        answers[index]? = some answer → P index r answer) ∧
      slots.filterMap ReadSlot.outcome =
        Build.results o (slots.map ReadSlot.read) answers := by
  -- `P` is about places, which are one less in the rest of the list
  induction slots generalizing P with
  | nil => exact ⟨[], rfl, by simp, rfl⟩
  | cons r rest ih =>
      obtain ⟨result, hresult⟩ := Option.isSome_iff_exists.1 (ended r List.mem_cons_self)
      obtain ⟨answer, hfirst, rfl⟩ := made 0 r result rfl hresult
      obtain ⟨answers, hlength, hrest, houtcomes⟩ :=
        ih (P := fun index => P (index + 1)) (fun r' hr' => ended r' (List.mem_cons_of_mem r hr'))
          fun index r' result' hr' => made (index + 1) r' result' hr'
      refine ⟨answer :: answers, by simp [hlength], ?_, ?_⟩
      · intro index r' answer' hr' hanswer'
        cases index with
        | zero =>
            obtain rfl := Option.some.inj hr'
            obtain rfl := Option.some.inj hanswer'
            exact hfirst
        | succ index => exact hrest index r' answer' hr' hanswer'
      · rw [List.filterMap_cons_some hresult, houtcomes]
        rfl

/-- A build that has got a token sends its reads. -/
theorem readsSent_of_token {reads : List PlannedRead}
    (ht : s.task? id = some (.work goal (.obtaining o reads (some (.token t))))) :
    Moment.readsSent ⟨s, .move (.resume id), s'⟩ id = reads.map (·, t) := by
  simp [Moment.readsSent, ht]

/-- Taking note of reads does not change how long a read takes. -/
theorem readDelay_recordReads (store : Store) (reads : List PlannedRead) (path : String) :
    (reads.foldl (fun store r => store.recordRead r.plan.path) store).readDelay path =
      store.readDelay path := by
  induction reads generalizing store with
  | nil => rfl
  | cons r rest ih =>
      rw [List.foldl_cons, ih]
      cases store <;> rfl

/-- The task of a build that has sent its reads. -/
theorem task?_sendReads {task : Task} (ht : s.task? id = some task) (goal : Goal)
    (o : BuildOptions) (t : Token) (reads : List PlannedRead) :
    (s.sendReads id goal o t reads).task? id = some (.work goal (.reading o t
      (reads.map fun r =>
        { read := r
          readyAt := s.now + s.store.readDelay r.plan.path
          deadline := s.now + o.readTimeout }))) := by
  unfold Agent.sendReads
  dsimp only
  simp only [readDelay_recordReads]
  exact task?_park (s := { s with store := _ }) ht goal _

/-- A build goes on from where it waits. -/
theorem Course.resumeWork (h : Course m goal o ds later s) (build : goal.build? = some (o, ds))
    {stage : Stage} (ht : s.task? m.before.nextId = some (.work goal stage))
    (step : s.resumeWork m.before.nextId goal stage = some s') :
    Course m goal o ds (⟨s, .move (.resume m.before.nextId), s'⟩ :: later) s' := by
  have stage_eq {stage' : Stage} (ht' : s.task? m.before.nextId = some (.work goal stage')) :
      stage = stage' := (Task.work.inj (Option.some.inj (ht.symm.trans ht'))).2
  cases h with
  | dropped _ _ ht' => cases ht.symm.trans ht'
  | blocked _ _ ht' | idle _ _ _ ht' | denied _ _ _ _ _ _ ht' | collected _ _ _ _ _ ht' =>
      obtain rfl := stage_eq ht'
      cases step
  | obtaining clear needed replied none ht' =>
      rename_i reply
      obtain rfl := stage_eq ht'
      cases reply with
      | none => cases step
      | some reply =>
          obtain ⟨failed, u, hu, replies⟩ := replied reply rfl
          have hreplied : ∃ u ∈ ⟨s, .move (.resume m.before.nextId), s'⟩ :: later ++ [m],
              u.Replies m.before.nextId reply := ⟨u, List.mem_cons_of_mem _ hu, replies⟩
          cases reply with
          | token t =>
              obtain rfl := Option.some.inj step
              -- the reads are sent at this moment, and none of them before
              refine .reading clear needed
                ⟨hreplied, List.mem_cons_self, readsSent_of_token ht', ?_⟩
                (by simp [Function.comp_def]) ?_ (task?_sendReads ht' goal o t _)
              · rw [readsSent, List.flatMap_cons, readsSent_of_token ht']
                exact (congrArg _ none).trans (List.append_nil _)
              · intro index r hr
                obtain ⟨planned, -, rfl⟩ := List.mem_map.1 (List.mem_of_getElem? hr)
                refine ⟨rfl, rfl, ?_⟩
                rintro _ ⟨⟩
          | closed => exact absurd rfl failed
          | failed e =>
              obtain rfl := Option.some.inj step
              have hended : (s.finishBuild m.before.nextId goal (.error e)).task?
                  m.before.nextId = some (.work goal (.ended s.now (Reply.failed e).outcome)) := by
                rw [finishBuild_eq s m.before.nextId build]
                exact task?_park ht' goal _
              refine .denied clear needed (fun _ => Reply.noConfusion) failed hreplied ?_ hended
              exact (readsSent_cons (by simp [Moment.readsSent, ht']) later).trans none
          | crashed fault =>
              obtain rfl := Option.some.inj step
              refine .denied clear needed (fun _ => Reply.noConfusion) failed hreplied ?_
                (task?_park (s := { s with source := _ }) ht' goal _)
              exact (readsSent_cons (by simp [Moment.readsSent, ht']) later).trans none
  | reading clear needed sent reads follows ht' =>
      rename_i t v slots
      obtain rfl := stage_eq ht'
      simp only [Agent.resumeWork, Option.ite_none_right_eq_some, Option.some.injEq,
        List.all_eq_true] at step
      obtain ⟨ended, rfl⟩ := step
      obtain ⟨answers, hlength, hanswered, houtcomes⟩ := answers_of_slots (o := o) ended
        (P := fun index r answer => ∃ u ∈ later, u.EndsRead v m.before.nextId index o r t answer)
        fun index r result hr hresult => by
          obtain ⟨u, answer, hu, ends, made⟩ := (follows index r hr).outcome result hresult
          exact ⟨answer, ⟨u, hu, ends⟩, made⟩
      rw [finishBuild_eq s m.before.nextId build, houtcomes, reads]
      rw [reads] at hanswered
      refine .collected clear needed (sent.next ?_) ?_ ?_ (task?_park ht' goal _)
      · simp [Moment.readsSent, ht']
      · rw [hlength, ← reads, List.length_map]
      · intro index r answer hr hanswer
        obtain ⟨u, hu, ends⟩ := hanswered index r answer hr hanswer
        exact ⟨u, List.mem_cons_of_mem _ hu, ends⟩

/-- A build that was over at once has sent no reads. -/
theorem Course.unsent (h : Course m goal o ds later s)
    (atOnce : ds.findSome? (m.before.registry.obstacle? o) ≠ none ∨ m.planned ds = []) :
    readsSent later m.before.nextId = [] := by
  cases h with
  | dropped gone unsent task => exact unsent atOnce
  | blocked obstacle unsent task | idle clear empty unsent task => exact unsent
  | obtaining clear needed | denied clear needed | reading clear needed | collected clear needed =>
      rcases atOnce with hblocked | hempty
      · exact absurd clear hblocked
      · exact absurd hempty needed

/-- The task of a build is no scheduler. -/
theorem Course.not_scheduler (h : Course m goal o ds later s) (sched : Scheduler) :
    s.task? m.before.nextId ≠ some (.scheduler sched) := by
  intro ht
  rcases h.task with hnone | ⟨stage, hwork⟩
  · exact nomatch hnone.symm.trans ht
  · exact nomatch hwork.symm.trans ht

/-- The task of a build keeps its goal. -/
theorem Course.goal_eq {goal' : Goal} {stage : Stage} (h : Course m goal o ds later s)
    (ht : s.task? m.before.nextId = some (.work goal' stage)) : goal' = goal := by
  rcases h.task with hnone | ⟨stage', hwork⟩
  · cases hnone.symm.trans ht
  · exact (Task.work.inj (Option.some.inj (ht.symm.trans hwork))).1

theorem Course.own (h : Course m goal o ds later s) (build : goal.build? = some (o, ds))
    (given : m.before.nextId < s.nextId) (own : a.IsOf m.before.nextId s)
    (step : s.act a = some s') : Course m goal o ds (⟨s, a, s'⟩ :: later) s' := by
  cases own.own step with
  | spawns new => exact absurd new (Nat.ne_of_lt given)
  | drops gone =>
      subst gone
      exact .dropped ⟨_, List.mem_cons_self, rfl⟩ (fun atOnce =>
        (readsSent_cons rfl later).trans (h.unsent atOnce)) (by rw [task?_drop, if_pos rfl])
  | reads reads => exact h.read reads
  | works ht resumes =>
      obtain rfl := h.goal_eq ht
      exact h.resumeWork build ht resumes
  | turns ht => exact absurd ht (h.not_scheduler _)

/-- A build that goes on asks nothing of the store but the reads that it sends. -/
theorem Course.store_of_resumeWork {stage : Stage} (h : Course m goal o ds later s)
    (build : goal.build? = some (o, ds))
    (ht : s.task? m.before.nextId = some (.work goal stage))
    (step : s.resumeWork m.before.nextId goal stage = some s') :
    s'.store =
      (Moment.readsSent ⟨s, .move (.resume m.before.nextId), s'⟩ m.before.nextId).foldl
        (fun store e => store.recordRead e.1.plan.path) s.store := by
  have stage_eq {stage' : Stage} (ht' : s.task? m.before.nextId = some (.work goal stage')) :
      stage = stage' := (Task.work.inj (Option.some.inj (ht.symm.trans ht'))).2
  cases h with
  | dropped gone none ht' => cases ht.symm.trans ht'
  | blocked _ _ ht' | idle _ _ _ ht' | denied _ _ _ _ _ _ ht' | collected _ _ _ _ _ ht' =>
      obtain rfl := stage_eq ht'
      cases step
  | obtaining clear needed replied none ht' =>
      obtain rfl := stage_eq ht'
      rename_i reply
      cases reply with
      | none => cases step
      | some reply =>
          cases reply with
          | token t =>
              obtain rfl := Option.some.inj step
              rw [readsSent_of_token ht, List.foldl_map]
              rfl
          | failed e =>
              obtain rfl := Option.some.inj step
              simp only [Moment.readsSent, ht, finishBuild_eq s _ build]
              rfl
          | closed | crashed =>
              obtain rfl := Option.some.inj step
              simp only [Moment.readsSent, ht]
              rfl
  | reading clear needed sent reads follows ht' =>
      obtain rfl := stage_eq ht'
      simp only [Agent.resumeWork, Option.ite_none_right_eq_some, Option.some.injEq] at step
      obtain ⟨-, rfl⟩ := step
      simp only [Moment.readsSent, ht, finishBuild_eq s _ build]
      rfl

/-- All that a build asks of the store are the reads that it sends. -/
theorem Course.store (h : Course m goal o ds later s) (build : goal.build? = some (o, ds))
    (given : m.before.nextId < s.nextId) (own : a.IsOf m.before.nextId s)
    (step : s.act a = some s') :
    s'.store = (Moment.readsSent ⟨s, a, s'⟩ m.before.nextId).foldl
      (fun store e => store.recordRead e.1.plan.path) s.store := by
  cases own.own step with
  | spawns new => exact absurd new (Nat.ne_of_lt given)
  | drops gone =>
      -- a call that is given up has only to do with the session
      obtain ⟨session, -, absorbs⟩ := absorbs_abandon s m.before.nextId
      rw [gone]
      exact absorbs.store
  | reads reads =>
      obtain ⟨goal', o', t, slots, slots', records, -, rfl⟩ := park_of_stepRead reads
      rfl
  | works ht resumes =>
      obtain rfl := h.goal_eq ht
      exact h.store_of_resumeWork build ht resumes
  | turns ht => exact absurd ht (h.not_scheduler _)

theorem Course.act (h : Course m goal o ds later s) (build : goal.build? = some (o, ds))
    (traced : Traced start trace none s) (given : m.before.nextId < s.nextId)
    (step : s.act a = some s') : Course m goal o ds (⟨s, a, s'⟩ :: later) s' := by
  rcases traced.act step with ⟨l, events, steps, -⟩ | ⟨outside, -⟩
  · exact h.steps traced steps
  · by_cases own : a.IsOf m.before.nextId s
    · exact h.own build given own step
    · exact h.others given outside own step

/-! ## How a build begins -/

/-- What a build does first. -/
theorem enterBuild_eq (s : Agent) (id : CallId) (goal : Goal) (o : BuildOptions)
    (ds : List Descriptor) :
    ∃ records, s.enterBuild id goal o ds =
      match ds.findSome? (s.registry.obstacle? o), ds.filterMap s.registry.read? with
      | some e, _ => (s.record records).finishBuild id goal (.error e)
      | none, [] => (s.record records).finishBuild id goal (.ok [])
      | none, reads =>
        ((s.record records).park id goal (.obtaining o reads none)).ask id .getToken := by
  have hplan := Build.plan_eq s.registry o ds
  unfold Agent.enterBuild
  generalize Build.plan s.registry o ds = plan at hplan ⊢
  obtain ⟨planned, records⟩ := plan
  obtain rfl : planned = _ := hplan
  refine ⟨records, ?_⟩
  cases ds.findSome? (s.registry.obstacle? o) with
  | some e => rfl
  | none => cases ds.filterMap s.registry.read? <;> rfl

/-- A build that has nothing to wait for asks nobody for anything. -/
structure Moment.IsSilent (m : Moment) : Prop where
  store : m.after.store = m.before.store
  session : m.after.session = m.before.session
  requests : m.after.requests = m.before.requests

theorem silent_of_finish {records : List Metrics.Record} {outcome : Outcome}
    (after : m.after =
      ((m.before.withTask goal).record records).finish m.before.nextId goal outcome) :
    m.IsSilent := by
  constructor <;> rw [after] <;> rfl

/-- A build that has something to read begins with a call for a token. -/
theorem course_ask (traced : Traced start trace none m.before) (act : m.act = .spawn goal)
    (needed : m.planned ds ≠ []) (clear : ds.findSome? (m.before.registry.obstacle? o) = none)
    (records : List Metrics.Record)
    (after : m.after = (((m.before.withTask goal).record records).park m.before.nextId goal
      (.obtaining o (m.planned ds) none)).ask m.before.nextId .getToken) :
    Course m goal o ds [] m.after := by
  obtain ⟨session, events, step, absorbs⟩ := absorbs_ask
    (((m.before.withTask goal).record records).park m.before.nextId goal
      (.obtaining o (m.planned ds) none)) m.before.nextId .getToken
  obtain ⟨reply, htake, hfrom⟩ := takeReplies_obtaining m.before.nextId events goal o
    (m.planned ds) none
  have ht : m.after.task? m.before.nextId =
      some (.work goal (.obtaining o (m.planned ds) reply)) := by
    have hparked := task?_park (s := (m.before.withTask goal).record records)
      (traced.task?_nextId goal) goal (.obtaining o (m.planned ds) none)
    rw [after, absorbs.task?, ← htake]
    exact congrArg (Option.map _) hparked
  refine .obtaining clear needed (fun r hr => ?_) rfl ht
  rcases hfrom with rfl | ⟨r', rfl, hmem⟩
  · cases hr
  · obtain rfl := Option.some.inj hr
    have step' : m.before.session.step m.before.now (.begin m.before.nextId .getToken) =
        some (session, events) := step
    have replies : m.Replies m.before.nextId r' := by
      simpa [Moment.Replies, Moment.sessionLabel?, act, step'] using hmem
    refine ⟨?_, m, List.mem_singleton.2 rfl, replies⟩
    rintro rfl
    -- a call that is made just now is not in line
    obtain ⟨revoke, hline⟩ := Session.mem_line_of_closed (Session.does_of_step step) hmem
    have waits := (traced.line _ _).2 (.inl hline)
    rw [awaits?, traced.fresh _ (Nat.le_refl _)] at waits
    cases waits

/-- A build begins, and may have its end at once. -/
theorem course_spawn (traced : Traced start trace none m.before) (act : m.act = .spawn goal)
    (build : goal.build? = some (o, ds)) (step : m.before.act m.act = some m.after) :
    Course m goal o ds [] m.after ∧
      (ds.findSome? (m.before.registry.obstacle? o) ≠ none ∨ m.planned ds = [] → m.IsSilent) := by
  have hnew := traced.task?_nextId goal
  rw [act] at step
  have hafter : m.after = (m.before.withTask goal).enter m.before.nextId goal :=
    (Option.some.inj step).symm
  obtain ⟨records, hbuild⟩ := enterBuild_eq (m.before.withTask goal) m.before.nextId goal o ds
  rw [enter_build _ _ build, hbuild] at hafter
  have hregistry : (m.before.withTask goal).registry = m.before.registry := rfl
  have hplanned : ds.filterMap m.before.registry.read? = m.planned ds := rfl
  rw [hregistry, hplanned] at hafter
  have finished (outcome : Outcome)
      (h : m.after =
        ((m.before.withTask goal).record records).finish m.before.nextId goal outcome) :
      m.after.task? m.before.nextId =
        some (.work goal (.ended m.before.now outcome)) := by
    rw [h]
    exact task?_park (s := (m.before.withTask goal).record records) hnew goal _
  cases hobstacle : ds.findSome? (m.before.registry.obstacle? o) with
  | some e =>
      simp only [hobstacle] at hafter
      rw [finishBuild_eq _ _ build] at hafter
      exact ⟨.blocked hobstacle rfl (finished _ hafter), fun _ => silent_of_finish hafter⟩
  | none =>
      cases hreads : m.planned ds with
      | nil =>
          simp only [hobstacle, hreads] at hafter
          rw [finishBuild_eq _ _ build] at hafter
          exact ⟨.idle hobstacle hreads rfl (finished _ hafter), fun _ => silent_of_finish hafter⟩
      | cons r rest =>
          simp only [hobstacle, hreads] at hafter
          rw [← hreads] at hafter
          have needed : m.planned ds ≠ [] := by
            rw [hreads]
            exact nofun
          refine ⟨course_ask traced act needed hobstacle records hafter, ?_⟩
          rintro (hblocked | hnil)
          · exact absurd rfl hblocked
          · exact nomatch hnil

/-- The identity of a build has been given by the time it runs. -/
theorem Run.given (run : Run start (later ++ m :: past) s) (act : m.act = .spawn goal) :
    m.before.nextId < s.nextId := by
  induction later generalizing s with
  | nil =>
      cases run with
      | next run step =>
          obtain rfl := act
          obtain rfl := Option.some.inj step
          exact (works_spawn _ goal).advances.nextId
  | cons w rest ih =>
      cases run with
      | next run step => exact Nat.lt_of_lt_of_le (ih run) (advances_of_act step).nextId

/-- **The course of a build.** A build stands in a run where its course says. -/
theorem Run.course (run : Run start (later ++ m :: past) s) (fresh : start.IsFresh)
    (act : m.act = .spawn goal) (build : goal.build? = some (o, ds)) :
    Course m goal o ds later s := by
  -- on the moments since the build was asked for, the latest first
  induction later generalizing s with
  | nil =>
      cases run with
      | next run step =>
          obtain ⟨trace, traced⟩ := run.traced fresh
          exact (course_spawn traced act build step).1
  | cons w rest ih =>
      cases run with
      | next run step =>
          obtain ⟨trace, traced⟩ := run.traced fresh
          exact (ih run).act build traced (run.given act) step

/-- A build that fails when its reads are planned, or has nothing to read, is silent. -/
theorem Run.silent_of_build (run : Run start (later ++ m :: past) s) (fresh : start.IsFresh)
    (act : m.act = .spawn goal) (build : goal.build? = some (o, ds))
    (atOnce : ds.findSome? (m.before.registry.obstacle? o) ≠ none ∨ m.planned ds = []) :
    m.IsSilent := by
  induction later generalizing s with
  | nil =>
      cases run with
      | next run step =>
          obtain ⟨trace, traced⟩ := run.traced fresh
          exact (course_spawn traced act build step).2 atOnce
  | cons w rest ih =>
      cases run with
      | next run step => exact ih run

/-- **What a build asks of the store.** The reads that it sends are all that a build asks of the
store. -/
theorem Run.store_of_build (run : Run start (later ++ m :: past) s) (fresh : start.IsFresh)
    (act : m.act = .spawn goal) (build : goal.build? = some (o, ds)) (hw : w ∈ later)
    (own : w.act.IsOf m.before.nextId w.before) :
    w.after.store = (w.readsSent m.before.nextId).foldl
      (fun store e => store.recordRead e.1.plan.path) w.before.store := by
  induction later generalizing s with
  | nil => exact nomatch hw
  | cons v rest ih =>
      cases run with
      | next run step =>
          rcases List.mem_cons.1 hw with rfl | hrest
          · exact (run.course fresh act build).store build (run.given act) own step
          · exact ih run hrest

end Agent

end SecretConfig
