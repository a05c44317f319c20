import SecretConfig.Proofs.Agent.Lifecycle

set_option autoImplicit false

/-! # What others leave of a task

A task changes when it goes on itself, and when a reply of the session reaches it. What the other
tasks do, and what is asked of the agent, leaves it as it is; only a scheduler may be cancelled or
stopped by others (`Task.Endures`). `Agent.Keeps` says so for an identity: its task endures, and an
identity without a task gets none, unless a scheduler is started under it.

`Agent.Works` says once what a task can do that works towards a goal: it goes to another stage,
makes a call, cancels or stops or starts a scheduler, and takes notes. Whatever it does is made of
these, so what they keep it keeps (`Works.keeps`, `Works.atWork`).

An act is a task's own (`Act.IsOf`), or a step of the session, or it keeps the task
(`keeps_of_act`). Proofs about one task need to look at the first two only, and `Act.Own` says once
what the first can be. -/

namespace SecretConfig

/-! ## Enduring others -/

/-- A scheduler after others had to do with it. -/
structure Scheduler.Endures (s s' : Scheduler) : Prop where
  policy : s'.policy = s.policy
  seen : s'.seen = s.seen
  lastAttempt : s'.lastAttempt = s.lastAttempt
  phase : s'.phase = s.phase ∨ s'.phase = .stopped

theorem Scheduler.Endures.refl (s : Scheduler) : s.Endures s := ⟨rfl, rfl, rfl, .inl rfl⟩

theorem Scheduler.Endures.trans {s₁ s₂ s₃ : Scheduler} (h : s₁.Endures s₂) (h' : s₂.Endures s₃) :
    s₁.Endures s₃ where
  policy := h'.policy.trans h.policy
  seen := h'.seen.trans h.seen
  lastAttempt := h'.lastAttempt.trans h.lastAttempt
  phase := by
    rcases h'.phase with hphase | hstopped
    · rw [hphase]
      exact h.phase
    · exact .inr hstopped

/-- A task after others had to do with it. -/
inductive Task.Endures : Task → Task → Prop
  | work (goal : Goal) (stage : Stage) : Endures (.work goal stage) (.work goal stage)
  | scheduler {s s' : Scheduler} (endures : s.Endures s') :
      Endures (.scheduler s) (.scheduler s')

theorem Task.Endures.refl (t : Task) : t.Endures t := by
  cases t with
  | work goal stage => exact .work goal stage
  | scheduler s => exact .scheduler (.refl s)

theorem Task.Endures.trans {t₁ t₂ t₃ : Task} (h : t₁.Endures t₂) (h' : t₂.Endures t₃) :
    t₁.Endures t₃ := by
  cases h with
  | work goal stage => exact h'
  | scheduler endures =>
      cases h' with
      | scheduler endures' => exact .scheduler (endures.trans endures')

/-- Work stays work with every reply. -/
theorem Task.takeReplies_work (id : CallId) (events : List Event) (goal : Goal) (stage : Stage) :
    ∃ stage', (work goal stage).takeReplies id events = .work goal stage' := by
  refine takeReplies_keeps (P := fun t => ∃ stage', t = .work goal stage') ⟨stage, rfl⟩ ?_ id events
  rintro _ reply ⟨stage', rfl⟩
  exact ⟨stage'.deliver reply, rfl⟩

theorem Task.Endures.eq_work {goal : Goal} {stage : Stage} {t : Task}
    (h : (Task.work goal stage).Endures t) : t = .work goal stage := by
  cases h
  rfl

/-- A call that is made is answered to its caller, if it is answered at once. -/
theorem Session.returned_of_begin {s s' : Session} {now : Instant} {id caller : CallId}
    {call : Call} {events : List Event} (h : s.Does now (.begin caller call) s' events)
    {reply : Reply} (returned : .returned id reply ∈ events) : id = caller := by
  cases h with
  | handOut | crashAtOnce =>
      obtain ⟨⟩ := List.mem_singleton.1 returned
      rfl
  | ask => exact nomatch returned
  | failLogin label | keep label | lose label | crashRenewing label | endRevocation label =>
      exact label.elim

namespace Agent

variable {s s' s₁ s₂ s₃ : Agent} {id caller : CallId} {goal : Goal} {stage : Stage}

/-- Neither the clock nor the count of identities goes back. -/
structure Advances (s s' : Agent) : Prop where
  now : s.now ≤ s'.now
  nextId : s.nextId ≤ s'.nextId

/-- What others leave of the task of an identity. -/
structure Keeps (s : Agent) (id : CallId) (s' : Agent) : Prop extends Advances s s' where
  task : ∀ t, s.task? id = some t → ∃ t', s'.task? id = some t' ∧ t.Endures t'
  started : ∀ t', s.task? id = none → s'.task? id = some t' →
    s.nextId ≤ id ∧ ∃ policy : RenewalPolicy, (Task.scheduler { policy }).Endures t'

theorem Keeps.of_task? (h : s'.task? id = s.task? id) (advances : s.Advances s') :
    s.Keeps id s' where
  toAdvances := advances
  task t ht := ⟨t, h.trans ht, .refl t⟩
  started _ hnone hsome := nomatch hnone.symm.trans (h.symm.trans hsome)

theorem Keeps.refl (s : Agent) (id : CallId) : s.Keeps id s :=
  .of_task? rfl ⟨Nat.le_refl _, Nat.le_refl _⟩

theorem Keeps.trans (h : s₁.Keeps id s₂) (h' : s₂.Keeps id s₃) : s₁.Keeps id s₃ where
  now := Nat.le_trans h.now h'.now
  nextId := Nat.le_trans h.nextId h'.nextId
  task t ht := by
    obtain ⟨t', ht', endures⟩ := h.task t ht
    obtain ⟨t'', ht'', endures'⟩ := h'.task t' ht'
    exact ⟨t'', ht'', endures.trans endures'⟩
  started t'' hnone hsome := by
    cases hmid : s₂.task? id with
    | none =>
        obtain ⟨hid, started⟩ := h'.started t'' hmid hsome
        exact ⟨Nat.le_trans h.nextId hid, started⟩
    | some t' =>
        obtain ⟨hid, policy, endures⟩ := h.started t' hnone hmid
        obtain ⟨u, hu, endures'⟩ := h'.task t' hmid
        obtain rfl := Option.some.inj (hsome.symm.trans hu)
        exact ⟨hid, policy, endures.trans endures'⟩

/-- A task of work is the same afterwards. -/
theorem Keeps.work (h : s.Keeps id s') (ht : s.task? id = some (.work goal stage)) :
    s'.task? id = some (.work goal stage) := by
  obtain ⟨t', ht', endures⟩ := h.task _ ht
  rw [ht', endures.eq_work]

/-- An identity that was given and has no task any more never gets one. -/
theorem Keeps.none (h : s.Keeps id s') (given : id < s.nextId) (ht : s.task? id = none) :
    s'.task? id = none := by
  cases ht' : s'.task? id with
  | none => rfl
  | some t' => exact absurd (h.started t' ht ht').1 (Nat.not_le.2 given)

/-! ## Single effects -/

theorem keeps_note (s : Agent) (id : CallId) (store : Store) (source : Source)
    (metrics : Metrics) : s.Keeps id { s with store, source, metrics } :=
  .of_task? rfl ⟨Nat.le_refl _, Nat.le_refl _⟩

theorem keeps_setTask (s : Agent) (other : id ≠ caller) (t : Task) :
    s.Keeps id (s.setTask caller t) :=
  .of_task? (by rw [setTask, task?_modifyTask, if_neg other]) ⟨Nat.le_refl _, Nat.le_refl _⟩

theorem keeps_ask (s : Agent) (other : id ≠ caller) (call : Call) :
    s.Keeps id (s.ask caller call) := by
  obtain ⟨session, events, step, absorbs⟩ := absorbs_ask s caller call
  have elsewhere (reply : Reply) : .returned id reply ∉ events := fun returned =>
    other (Session.returned_of_begin (Session.does_of_step step) returned)
  refine .of_task? ?_ ⟨Nat.le_of_eq absorbs.now.symm, Nat.le_of_eq absorbs.nextId.symm⟩
  rw [absorbs.task?]
  cases hs : ({ s with session } : Agent).task? id with
  | none => exact hs.symm
  | some t =>
      rw [Option.map_some, Task.takeReplies_of_not_returned elsewhere]
      exact hs.symm

theorem keeps_abandon (s : Agent) (id caller : CallId) : s.Keeps id (s.abandon caller) := by
  obtain ⟨session, -, absorbs⟩ := absorbs_abandon s caller
  exact .of_task? (task?_abandon s caller id)
    ⟨Nat.le_of_eq absorbs.now.symm, Nat.le_of_eq absorbs.nextId.symm⟩

/-- A task is changed in a way that it endures. -/
theorem keeps_modifyTask (s : Agent) (id caller : CallId) {f : Task → Task}
    (endures : ∀ t : Task, t.Endures (f t)) : s.Keeps id (s.modifyTask caller f) where
  now := Nat.le_refl _
  nextId := Nat.le_refl _
  task t ht := by
    rw [task?_modifyTask, ht]
    split
    · exact ⟨f t, rfl, endures t⟩
    · exact ⟨t, rfl, .refl t⟩
  started t' hnone hsome := by
    rw [task?_modifyTask, hnone] at hsome
    split at hsome <;> exact nomatch hsome

theorem keeps_cancel (s : Agent) (id target : CallId) : s.Keeps id (s.cancel target) := by
  refine s.keeps_modifyTask id target fun t => ?_
  cases t with
  | work goal stage => exact .work goal stage
  | scheduler sched => exact .scheduler ⟨rfl, rfl, rfl, .inl rfl⟩

theorem keeps_abort (s : Agent) (id target : CallId) : s.Keeps id (s.abort target) := by
  refine (s.keeps_abandon id target).trans (keeps_modifyTask _ id target fun t => ?_)
  cases t with
  | work goal stage => exact .work goal stage
  | scheduler sched => exact .scheduler ⟨rfl, rfl, rfl, .inr rfl⟩

theorem keeps_startScheduler (s : Agent) (id : CallId) (policy : RenewalPolicy) :
    s.Keeps id (s.startScheduler policy).1 where
  now := Nat.le_refl _
  nextId := Nat.le_succ s.nextId
  task t ht := by
    rw [startScheduler, task?_append, ht]
    exact ⟨t, rfl, .refl t⟩
  started t' hnone hsome := by
    rw [startScheduler, task?_append, hnone, Option.none_or, Option.ite_none_right_eq_some] at hsome
    obtain ⟨hid, hsome⟩ := hsome
    rw [← Option.some.inj hsome]
    exact ⟨Nat.le_of_eq hid, policy, .refl _⟩

/-! ## Work -/

/-- What the task of an identity does that works towards a goal. -/
inductive Works (caller : CallId) (s : Agent) : Agent → Prop
  | rest : Works caller s s
  /-- It takes notes, asks the store for a read, or has its turn at the source. -/
  | note {s' : Agent} (works : Works caller s s') (store : Store) (source : Source)
      (metrics : Metrics) : Works caller s { s' with store, source, metrics }
  /-- It goes to another stage. -/
  | park {s' : Agent} (works : Works caller s s') (goal : Goal) (stage : Stage) :
      Works caller s (s'.park caller goal stage)
  /-- It makes a call on the session. -/
  | ask {s' : Agent} (works : Works caller s s') (call : Call) :
      Works caller s (s'.ask caller call)
  | cancel {s' : Agent} (works : Works caller s s') (target : CallId) :
      Works caller s (s'.cancel target)
  | abort {s' : Agent} (works : Works caller s s') (target : CallId) :
      Works caller s (s'.abort target)
  | startScheduler {s' : Agent} (works : Works caller s s') (policy : RenewalPolicy) :
      Works caller s (s'.startScheduler policy).1

/-- Work keeps all tasks but its own. -/
theorem Works.keeps (h : Works caller s s') (other : id ≠ caller) : s.Keeps id s' := by
  induction h with
  | rest => exact .refl s id
  | note works store source metrics ih => exact ih.trans (keeps_note _ id store source metrics)
  | park works goal stage ih => exact ih.trans (keeps_setTask _ other _)
  | ask works call ih => exact ih.trans (keeps_ask _ other call)
  | cancel works target ih => exact ih.trans (keeps_cancel _ id target)
  | abort works target ih => exact ih.trans (keeps_abort _ id target)
  | startScheduler works policy ih => exact ih.trans (keeps_startScheduler _ id policy)

theorem Works.advances (h : Works caller s s') : s.Advances s' :=
  (h.keeps (Nat.succ_ne_self caller)).toAdvances

/-- The task of an identity works towards a goal. -/
def AtWork (s : Agent) (id : CallId) : Prop := ∃ goal stage, s.task? id = some (.work goal stage)

theorem Keeps.atWork (h : s.Keeps id s') (atWork : s.AtWork id) : s'.AtWork id := by
  obtain ⟨goal, stage, ht⟩ := atWork
  exact ⟨goal, stage, h.work ht⟩

/-- Work never ends up as a scheduler. -/
theorem Works.atWork (h : Works caller s s') (atWork : s.AtWork caller) : s'.AtWork caller := by
  induction h with
  | rest => exact atWork
  | note works store source metrics ih => exact (keeps_note _ caller store source metrics).atWork ih
  | park works goal stage ih =>
      obtain ⟨_, _, ht⟩ := ih
      exact ⟨goal, stage, task?_park ht goal stage⟩
  | ask works call ih =>
      obtain ⟨goal, stage, ht⟩ := ih
      obtain ⟨events, htake⟩ := (replied_ask _ caller call).task? ht
      obtain ⟨stage', hwork⟩ := Task.takeReplies_work caller events goal stage
      exact ⟨goal, stage', htake.trans (congrArg some hwork)⟩
  | cancel works target ih => exact (keeps_cancel _ caller target).atWork ih
  | abort works target ih => exact (keeps_abort _ caller target).atWork ih
  | startScheduler works policy ih => exact (keeps_startScheduler _ caller policy).atWork ih

/-! ### What work is made of -/

theorem Works.finish (h : Works caller s s') (goal : Goal) (outcome : Outcome) :
    Works caller s (s'.finish caller goal outcome) :=
  h.park goal _

theorem Works.enterStopping (h : Works caller s s') (goal : Goal) (target : CallId)
    (grace : Duration) : Works caller s (s'.enterStopping caller goal target grace) :=
  (h.park goal _).cancel target

theorem Works.enterClosing (h : Works caller s s') (goal : Goal) (revoke : Bool) :
    Works caller s (s'.enterClosing caller goal revoke) :=
  (h.park goal _).ask _

theorem Works.enterStop (h : Works caller s s') (scheduler : Option CallId) (revoke : Bool)
    (failure : Option Error) : Works caller s (s'.enterStop caller scheduler revoke failure) := by
  cases scheduler with
  | none => exact h.enterClosing _ revoke
  | some target => exact h.enterStopping _ target stopGrace

theorem Works.enterQueue (h : Works caller s s') (goal : Goal) :
    Works caller s (s'.enterQueue caller goal) :=
  (h.park goal .queued).note _ _ _

theorem Works.finishBuild (h : Works caller s s') (goal : Goal)
    (result : Except Error (List Layer)) :
    Works caller s (s'.finishBuild caller goal result) := by
  cases result with
  | ok ls =>
      cases goal with
      | refresh | load => exact (h.note _ _ _).finish _ _
      | _ => exact h.finish _ _
  | error e =>
      cases goal with
      | refresh => exact (h.note _ _ _).finish _ _
      | load scheduler revoke => exact (h.note _ _ _).enterStop scheduler revoke (some e)
      | _ => exact h.finish _ _

theorem Works.enterBuild (h : Works caller s s') (goal : Goal) (o : BuildOptions)
    (ds : List Descriptor) : Works caller s (s'.enterBuild caller goal o ds) := by
  unfold Agent.enterBuild
  obtain ⟨planned, records⟩ := Build.plan s'.registry o ds
  have recorded : Works caller s (s'.record records) := h.note _ _ _
  cases planned with
  | error e => exact recorded.finishBuild goal (.error e)
  | ok reads =>
      cases reads with
      | nil => exact recorded.finishBuild goal (.ok [])
      | cons r rest => exact (recorded.park goal _).ask .getToken

theorem Works.enter (h : Works caller s s') (goal : Goal) :
    Works caller s (s'.enter caller goal) := by
  cases goal with
  | call c =>
      have asked : Works caller s ((s'.park caller (.call c) (.calling none)).ask caller c) :=
        (h.park _ _).ask c
      exact asked
  | start policy revoke =>
      have asked : Works caller s
          ((s'.park caller (.start policy revoke) (.calling none)).ask caller .login) :=
        (h.park _ _).ask .login
      exact asked
  | layers o ds | properties o ds => exact h.enterBuild _ o ds
  | refresh | load => exact h.enterQueue _
  | stop scheduler revoke failure => exact h.enterStop scheduler revoke failure
  | stopScheduler target grace => exact h.enterStopping _ target grace
  | pause | login | renew | revoke | write => exact h.park _ _
  | read path t => exact (h.note (s'.store.recordRead path) _ _).park _ _

theorem Works.perform (h : Works caller s s') (goal : Goal) :
    Works caller s (s'.perform caller goal) := by
  have changed (store : Store) (goal : Goal) (outcome : Outcome) :
      Works caller s (({ s' with store } : Agent).finish caller goal outcome) :=
    (h.note store _ _).finish goal outcome
  unfold Agent.perform
  split
  · split
    · exact h.finish _ _
    · exact changed _ _ _
  · split <;> exact changed _ _ _
  · split <;> exact changed _ _ _
  · split <;> exact h.finish _ _
  · split <;> exact changed _ _ _
  · exact h.finish _ _

theorem Works.loggedIn (h : Works caller s s') (goal : Goal) (policy : RenewalPolicy)
    (revoke : Bool) (reply : Reply) :
    Works caller s (s'.loggedIn caller goal policy revoke reply) := by
  unfold Agent.loggedIn
  split
  · split
    · exact (h.startScheduler policy).enterQueue _
    · exact h.enterQueue _
  · exact h.finish _ _

theorem Works.schedulerStopped (h : Works caller s s') (goal : Goal) :
    Works caller s (s'.schedulerStopped caller goal) := by
  cases goal with
  | stop scheduler revoke failure => exact h.enterClosing _ revoke
  | _ => exact h.finish _ _

theorem works_of_resumeWork (step : s.resumeWork caller goal stage = some s') :
    Works caller s s' := by
  have begun : Works caller s s := .rest
  cases stage with
  | calling reply =>
      cases reply with
      | none => cases step
      | some reply =>
          cases goal with
          | start policy revoke =>
              obtain rfl := Option.some.inj step
              exact begun.loggedIn _ policy revoke reply
          | _ =>
              obtain rfl := Option.some.inj step
              exact begun.finish _ _
  | queued =>
      simp only [Agent.resumeWork, Option.ite_none_right_eq_some, Option.some.injEq] at step
      obtain ⟨-, rfl⟩ := step
      exact begun.enterBuild goal _ _
  | obtaining o reads reply =>
      cases reply with
      | none => cases step
      | some reply =>
          cases reply with
          | token t =>
              obtain rfl := Option.some.inj step
              exact (begun.note _ _ _).park goal _
          | failed e =>
              obtain rfl := Option.some.inj step
              exact begun.finishBuild goal (.error e)
          | closed | crashed =>
              obtain rfl := Option.some.inj step
              exact (begun.note _ _ _).finish goal _
  | reading o t slots =>
      simp only [Agent.resumeWork, Option.ite_none_right_eq_some, Option.some.injEq] at step
      obtain ⟨-, rfl⟩ := step
      exact begun.finishBuild goal _
  | stopping target deadline =>
      simp only [Agent.resumeWork] at step
      split at step
      · obtain rfl := Option.some.inj step
        exact begun.schedulerStopped goal
      · simp only [Option.ite_none_right_eq_some, Option.some.injEq] at step
        obtain ⟨-, rfl⟩ := step
        exact (begun.abort target).schedulerStopped goal
  | closing reply =>
      cases reply with
      | none => cases step
      | some reply =>
          obtain rfl := Option.some.inj step
          exact begun.finish goal _
  | waiting readyAt =>
      simp only [Agent.resumeWork, Option.ite_none_right_eq_some, Option.some.injEq] at step
      obtain ⟨-, rfl⟩ := step
      exact begun.perform goal
  | ended => cases step

theorem works_of_stepRead {index : Nat} (step : s.stepRead caller index = some s') :
    Works caller s s' := by
  obtain ⟨goal, o, t, slots, slots', records, -, rfl⟩ := park_of_stepRead step
  have recorded : Works caller s (s.record records) := Works.rest.note _ _ _
  exact recorded.park goal _

theorem works_spawn (s : Agent) (goal : Goal) :
    Works s.nextId (s.withTask goal) (s.spawn goal).1 :=
  Works.rest.enter goal

/-! ## Acts -/

theorem keeps_turn (s : Agent) (other : id ≠ caller) (next : Scheduler × Option Call) :
    s.Keeps id (s.turn caller next) := by
  obtain ⟨sched, call⟩ := next
  cases call with
  | none => exact s.keeps_setTask other _
  | some call => exact (s.keeps_setTask other _).trans (keeps_ask _ other call)

theorem keeps_stepTask (other : id ≠ caller) (step : s.stepTask caller = some s') :
    s.Keeps id s' := by
  cases resumes_of_stepTask step with
  | works task step => exact (works_of_resumeWork step).keeps other
  | turns task turn after =>
      subst after
      exact s.keeps_turn other _

theorem keeps_spawn (s : Agent) (other : id ≠ s.nextId) (goal : Goal) :
    s.Keeps id (s.spawn goal).1 := by
  have added : s.Keeps id (s.withTask goal) := {
    now := Nat.le_refl _
    nextId := Nat.le_succ s.nextId
    task := fun t ht => ⟨t, task?_withTask ht goal, .refl t⟩
    started := fun t' hnone hsome => by
      rw [withTask, task?_append, hnone, if_neg (Ne.symm other)] at hsome
      cases hsome }
  exact added.trans ((s.works_spawn goal).keeps other)

theorem keeps_drop (s : Agent) (other : id ≠ caller) : s.Keeps id (s.drop caller) := by
  obtain ⟨session, -, absorbs⟩ := absorbs_abandon s caller
  refine .of_task? ?_ ⟨Nat.le_of_eq absorbs.now.symm, Nat.le_of_eq absorbs.nextId.symm⟩
  rw [task?_drop, if_neg other]

/-- The act is what the task of an identity does itself, or what is done about that task. -/
def Act.IsOf (id : CallId) (s : Agent) : Act → Prop
  | .move (.resume caller) | .move (.wake caller _) | .move (.read caller _) | .drop caller =>
      id = caller
  | .spawn _ => id = s.nextId
  | _ => False

/-- **What others leave of a task.** An act that is no step of the session keeps the tasks that it
is not of. -/
theorem keeps_of_act {a : Act} (outside : a.label? s = none) (other : ¬ a.IsOf id s)
    (step : s.act a = some s') : s.Keeps id s' := by
  cases a with
  | spawn goal =>
      obtain rfl := Option.some.inj step
      exact s.keeps_spawn other goal
  | startScheduler policy =>
      obtain rfl := Option.some.inj step
      exact s.keeps_startScheduler id policy
  | drop caller =>
      obtain rfl := Option.some.inj step
      exact s.keeps_drop other
  | move move =>
      cases move with
      | proceed caller | expire caller => exact nomatch outside
      | answer caller => exact nomatch (stepAnswer_eq_none outside).symm.trans step
      | read caller index => exact (works_of_stepRead step).keeps other
      | resume caller => exact keeps_stepTask other step
      | wake caller cause =>
          obtain ⟨sched, next, -, -, rfl⟩ := turn_of_wake step
          exact s.keeps_turn other next
      | pass now =>
          obtain ⟨hle, rfl⟩ := eq_of_pass step
          exact .of_task? rfl ⟨hle, Nat.le_refl _⟩

theorem advances_of_stepSession {l : Session.Label} (step : s.stepSession l = some s') :
    s.Advances s' := by
  obtain ⟨session, events, -, absorbs⟩ := absorbs_of_stepSession step
  exact ⟨Nat.le_of_eq absorbs.now.symm, Nat.le_of_eq absorbs.nextId.symm⟩

theorem advances_of_act {a : Act} (step : s.act a = some s') : s.Advances s' := by
  cases a with
  | spawn goal =>
      obtain rfl := Option.some.inj step
      exact (s.keeps_spawn (Nat.succ_ne_self s.nextId) goal).toAdvances
  | startScheduler policy =>
      obtain rfl := Option.some.inj step
      exact (s.keeps_startScheduler 0 policy).toAdvances
  | drop caller =>
      obtain rfl := Option.some.inj step
      exact (s.keeps_drop (Nat.succ_ne_self caller)).toAdvances
  | move move =>
      cases move with
      | proceed caller => exact advances_of_stepSession step
      | answer caller =>
          obtain ⟨r, -, -, answered⟩ := stepSession_of_answer step
          have advances := advances_of_stepSession answered
          exact ⟨advances.now, advances.nextId⟩
      | expire caller =>
          obtain ⟨r, -, -, expired⟩ := stepSession_of_expire step
          have advances := advances_of_stepSession expired
          exact ⟨advances.now, advances.nextId⟩
      | read caller index => exact (works_of_stepRead step).advances
      | resume caller => exact (keeps_stepTask (Nat.succ_ne_self caller) step).toAdvances
      | wake caller cause =>
          obtain ⟨sched, next, -, -, rfl⟩ := turn_of_wake step
          exact (s.keeps_turn (Nat.succ_ne_self caller) next).toAdvances
      | pass now =>
          obtain ⟨hle, rfl⟩ := eq_of_pass step
          exact ⟨hle, Nat.le_refl _⟩

/-! ## A scheduler that goes on -/

/-- A call for the guard is not answered at once. -/
theorem ask_of_guarded (s : Agent) (id : CallId) {call : Call} (guarded : call ≠ .getToken) :
    (∀ caller, (s.ask id call).task? caller = s.task? caller) ∧
      (s.ask id call).session = s.session.acquire id call := by
  obtain ⟨session, events, step, absorbs⟩ := absorbs_ask s id call
  have hbegin : s.session.step s.now (.begin id call) = some (s.session.acquire id call, []) := by
    cases call with
    | getToken => exact absurd rfl guarded
    | login | renew | shutdown => rfl
  obtain ⟨rfl, rfl⟩ := Prod.mk.inj (Option.some.inj (hbegin.symm.trans step))
  refine ⟨fun caller => ?_, absorbs.session⟩
  have nothing : Task.takeReplies caller [] = fun t => t := rfl
  rw [absorbs.task?, nothing, Option.map_id']
  rfl

/-- The act is a turn of the scheduler of an identity, which goes on by itself or whose wait
ends. -/
inductive Act.Turns (s : Agent) (id : CallId) (sched : Scheduler)
    (next : Scheduler × Option Call) : Act → Prop
  | resumes (step : sched.step s.session = some next) : Turns s id sched next (.move (.resume id))
  | wakes {cause : Scheduler.Cause} (wake : sched.wake s.now s.session cause = some next) :
      Turns s id sched next (.move (.wake id cause))

theorem Act.Turns.does {a : Act} {sched sched' : Scheduler} {call : Option Call}
    (h : a.Turns s id sched (sched', call)) : sched.Does s.now s.session sched' call := by
  cases h with
  | resumes step => exact Scheduler.does_of_step step s.now
  | wakes wake => exact Scheduler.does_of_wake wake

/-- What a task does itself, and what is done about it. -/
inductive Act.Own (id : CallId) (s s' : Agent) : Act → Prop
  /-- It is asked for. -/
  | spawns {goal : Goal} (new : id = s.nextId) (begun : s' = (s.spawn goal).1) :
      Own id s s' (.spawn goal)
  /-- It is given up. -/
  | drops (gone : s' = s.drop id) : Own id s s' (.drop id)
  /-- One of its reads comes to its end. -/
  | reads {index : Nat} (step : s.stepRead id index = some s') :
      Own id s s' (.move (.read id index))
  /-- It works towards its goal. -/
  | works {goal : Goal} {stage : Stage} (task : s.task? id = some (.work goal stage))
      (step : s.resumeWork id goal stage = some s') : Own id s s' (.move (.resume id))
  /-- It is a scheduler and has a turn. -/
  | turns {a : Act} {sched : Scheduler} {next : Scheduler × Option Call}
      (task : s.task? id = some (.scheduler sched)) (turns : a.Turns s id sched next)
      (after : s' = s.turn id next) : Own id s s' a

/-- **What a task can do.** -/
theorem Act.IsOf.own {a : Act} (h : a.IsOf id s) (step : s.act a = some s') : a.Own id s s' := by
  cases a with
  | spawn goal => exact .spawns h (Option.some.inj step).symm
  | startScheduler policy => exact h.elim
  | drop caller =>
      obtain rfl : id = caller := h
      exact .drops (Option.some.inj step).symm
  | move move =>
      cases move with
      | proceed | answer | expire | pass => exact h.elim
      | read caller index =>
          obtain rfl : id = caller := h
          exact .reads step
      | resume caller =>
          obtain rfl : id = caller := h
          cases resumes_of_stepTask step with
          | works task step => exact .works task step
          | turns task turn after => exact .turns task (.resumes turn) after
      | wake caller cause =>
          obtain rfl : id = caller := h
          obtain ⟨sched, next, task, wake, after⟩ := turn_of_wake step
          exact .turns task (.wakes wake) after

/-- After a turn of a scheduler, a call that it makes is in line. -/
theorem task?_turn {sched sched' : Scheduler} {call : Option Call}
    (ht : s.task? id = some (.scheduler sched)) (does : sched.Does s.now s.session sched' call) :
    (s.turn id (sched', call)).task? id = some (.scheduler sched') ∧
      (s.turn id (sched', call)).session = call.elim s.session (s.session.acquire id) := by
  have hset : (s.setTask id (.scheduler sched')).task? id = some (.scheduler sched') :=
    task?_setTask ht
  cases call with
  | none => exact ⟨hset, rfl⟩
  | some call =>
      have guarded : call ≠ .getToken := by
        rcases does.call_eq with rfl | rfl <;> rintro ⟨⟩
      obtain ⟨tasks, session⟩ := ask_of_guarded (s.setTask id (.scheduler sched')) id guarded
      exact ⟨(tasks id).trans hset, session⟩

end Agent

end SecretConfig
