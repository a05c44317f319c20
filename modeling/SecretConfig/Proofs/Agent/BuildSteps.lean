import SecretConfig.Proofs.Agent.Recording
import SecretConfig.Proofs.Agent.Turns

set_option autoImplicit false

/-! # Steps of a build

A task builds once: it waits for its turn if it has to, plans its reads, sends them when it has got
a token, and ends them one by one. `Moment.BuildStep` says what an act of the task does to its
build, with what it records, for the builds that are asked for and for those of refreshes. All else
leaves the work of the task (`Traced.work?_of_not_isOf`), for replies are no part of that. -/

namespace SecretConfig

/-! ## Work, apart from replies -/

namespace Stage

/-- The stage without the reply that it may hold. -/
def bare : Stage → Stage
  | calling _ => calling none
  | obtaining o reads _ => obtaining o reads none
  | closing _ => closing none
  | other => other

/-- A build that has planned its reads waits for a token, or for the reads. -/
def isPlanned : Stage → Bool
  | obtaining _ _ _ | reading _ _ _ => true
  | _ => false

/-- A build is still to come: the task waits for its turn, or is a start that logs in. -/
def isEarly (goal : Goal) : Stage → Bool
  | queued => true
  | calling _ =>
    match goal with
    | .start _ _ => true
    | _ => false
  | _ => false

@[simp] theorem bare_deliver (stage : Stage) (reply : Reply) :
    (stage.deliver reply).bare = stage.bare := by
  cases stage <;> rfl

end Stage

/-- What a task is at work on: its goal and its stage, whatever replies it has got. -/
def Task.work? : Task → Option (Goal × Stage)
  | work goal stage => some (goal, stage.bare)
  | scheduler _ => none

theorem Task.work?_takeReplies (t : Task) (id : CallId) (events : List Event) :
    (t.takeReplies id events).work? = t.work? := by
  refine takeReplies_keeps (P := fun u => u.work? = t.work?) rfl ?_ id events
  intro u reply hu
  rw [← hu]
  cases u with
  | scheduler s => rfl
  | work goal stage => simp [deliver, work?]

namespace Agent

variable {start s s' : Agent} {history past later : List Moment} {m u : Moment} {id : CallId}
  {goal : Goal} {stage : Stage} {a : Act} {o : BuildOptions} {ds : List Descriptor} {t : Task}
  {trace : List Session.Moment}

/-- What the task of an identity is at work on. -/
def work? (s : Agent) (id : CallId) : Option (Goal × Stage) := (s.task? id).bind Task.work?

theorem work?_of_task? (ht : s.task? id = some (.work goal stage)) :
    s.work? id = some (goal, stage.bare) := by
  simp [work?, ht, Task.work?]

/-- A task is at work on one thing. -/
theorem work?_unique {goal' : Goal} {stage' : Stage} (h : s.work? id = some (goal, stage))
    (h' : s.work? id = some (goal', stage')) : goal = goal' ∧ stage = stage' :=
  Prod.mk.inj (Option.some.inj (h.symm.trans h'))

theorem work?_park (ht : s.task? id = some t) (goal : Goal) (stage : Stage) :
    (s.park id goal stage).work? id = some (goal, stage.bare) :=
  work?_of_task? (task?_park ht goal stage)

theorem Keeps.work?_eq (h : s.Keeps id s') : s'.work? id = s.work? id := by
  unfold work?
  cases ht : s.task? id with
  | none =>
      cases ht' : s'.task? id with
      | none => rfl
      | some t' =>
          obtain ⟨-, policy, endures⟩ := h.started t' ht ht'
          cases endures
          rfl
  | some t =>
      obtain ⟨t', ht', endures⟩ := h.task t ht
      rw [ht']
      cases endures <;> rfl

theorem work?_of_takeReplies {events : List Event}
    (h : s'.task? id = (s.task? id).map (Task.takeReplies id events)) :
    s'.work? id = s.work? id := by
  unfold work?
  rw [h]
  cases s.task? id with
  | none => rfl
  | some t => exact t.work?_takeReplies id events

@[simp] theorem work?_ask (s : Agent) (id caller : CallId) (call : Call) :
    (s.ask caller call).work? id = s.work? id := by
  obtain ⟨session, events, -, absorbs⟩ := absorbs_ask s caller call
  exact work?_of_takeReplies (absorbs.task? id)

/-- Who has nothing to do with a task leaves its work. -/
theorem Traced.work?_of_not_isOf (traced : Traced start trace none s) (other : ¬ a.IsOf id s)
    (step : s.act a = some s') : s'.work? id = s.work? id := by
  rcases traced.act step with ⟨l, events, steps, -⟩ | ⟨outside, -⟩
  · exact work?_of_takeReplies (steps.task? id)
  · exact (keeps_of_act outside other step).work?_eq

/-! ## Before and after builds -/

/-- The task of an identity has not begun to build, but may do so. -/
def Early (s : Agent) (id : CallId) : Prop :=
  s.nextId ≤ id ∨ ∃ goal stage, s.work? id = some (goal, stage) ∧ stage.isEarly goal = true

/-- The task of an identity neither builds nor will build. -/
structure Rests (s : Agent) (id : CallId) : Prop where
  given : id < s.nextId
  apart : ∀ goal stage, s.work? id = some (goal, stage) →
    stage.isPlanned = false ∧ stage.isEarly goal = false

/-- A task that is at work on something else than an early stage is not early. -/
theorem not_early_of_work? (given : id < s.nextId) (work : s.work? id = some (goal, stage))
    (late : stage.isEarly goal = false) : ¬ s.Early id := by
  rintro (new | ⟨goal', stage', hwork, early⟩)
  · exact absurd given (Nat.not_lt.2 new)
  · obtain ⟨rfl, rfl⟩ := work?_unique work hwork
    exact Bool.false_ne_true (late.symm.trans early)

theorem Rests.not_early (h : s.Rests id) : ¬ s.Early id := by
  rintro (new | ⟨goal, stage, hwork, early⟩)
  · exact absurd h.given (Nat.not_lt.2 new)
  · exact Bool.false_ne_true ((h.apart goal stage hwork).2.symm.trans early)

theorem Rests.of_work? (h : s.Rests id) (same : s'.work? id = s.work? id)
    (given : s.nextId ≤ s'.nextId) : s'.Rests id :=
  ⟨Nat.lt_of_lt_of_le h.given given, fun goal stage h' => h.apart goal stage (same ▸ h')⟩

theorem rests_park (given : id < s.nextId) (ht : s.task? id = some t) (goal : Goal) {stage : Stage}
    (planned : stage.bare.isPlanned = false) (early : stage.bare.isEarly goal = false) :
    (s.park id goal stage).Rests id := by
  refine ⟨given, fun goal' stage' h' => ?_⟩
  obtain ⟨rfl, rfl⟩ := work?_unique (work?_park ht goal stage) h'
  exact ⟨planned, early⟩

theorem rests_finish (given : id < s.nextId) (ht : s.task? id = some t) (goal : Goal)
    (outcome : Outcome) : (s.finish id goal outcome).Rests id :=
  rests_park given ht goal rfl rfl

theorem Rests.ask (h : s.Rests id) (caller : CallId) (call : Call) :
    (s.ask caller call).Rests id := by
  obtain ⟨session, events, -, absorbs⟩ := absorbs_ask s caller call
  exact h.of_work? (work?_ask s id caller call) (Nat.le_of_eq absorbs.nextId.symm)

theorem rests_enterClosing (given : id < s.nextId) (ht : s.task? id = some t) (goal : Goal)
    (revoke : Bool) : (s.enterClosing id goal revoke).Rests id :=
  (rests_park given ht goal rfl rfl).ask id _

theorem rests_enterStopping (given : id < s.nextId) (ht : s.task? id = some t) (goal : Goal)
    (target : CallId) (grace : Duration) : (s.enterStopping id goal target grace).Rests id :=
  have keeps := keeps_cancel (s.park id goal (.stopping target (s.now + grace))) id target
  (rests_park given ht goal rfl rfl).of_work? keeps.work?_eq keeps.nextId

theorem rests_enterStop (given : id < s.nextId) (ht : s.task? id = some t)
    (scheduler : Option CallId) (revoke : Bool) (failure : Option Error) :
    (s.enterStop id scheduler revoke failure).Rests id := by
  cases scheduler with
  | none => exact rests_enterClosing given ht _ revoke
  | some target => exact rests_enterStopping given ht _ target _

theorem rests_schedulerStopped (given : id < s.nextId) (ht : s.task? id = some t) (goal : Goal) :
    (s.schedulerStopped id goal).Rests id := by
  cases goal with
  | stop => exact rests_enterClosing given ht _ _
  | _ => exact rests_finish given ht _ _

theorem rests_finishBuild (given : id < s.nextId) (ht : s.task? id = some t) (goal : Goal)
    (result : Except Error (List Layer)) : (s.finishBuild id goal result).Rests id := by
  have sourced (source : Source) (goal : Goal) (outcome : Outcome) :
      (({ s with source } : Agent).finish id goal outcome).Rests id :=
    rests_finish (s := { s with source }) given ht goal outcome
  unfold finishBuild
  split
  case h_6 => exact rests_enterStop (s := { s with source := s.source.release }) given ht _ _ _
  case h_3 | h_4 | h_5 => exact sourced _ _ _
  all_goals exact rests_finish given ht _ _

theorem rests_perform (given : id < s.nextId) (ht : s.task? id = some t) (goal : Goal) :
    (s.perform id goal).Rests id := by
  have stored (store : Store) (outcome : Outcome) :
      (({ s with store } : Agent).finish id goal outcome).Rests id :=
    rests_finish (s := { s with store }) given ht goal outcome
  unfold perform
  split
  · split
    · exact rests_finish given ht _ _
    · exact stored _ _
  · split <;> exact stored _ _
  · split <;> exact stored _ _
  · split <;> exact rests_finish given ht _ _
  · split <;> exact stored _ _
  · exact rests_finish given ht _ _

/-- A task that is dropped rests. -/
theorem rests_drop (s : Agent) (given : id < s.nextId) : (s.drop id).Rests id := by
  obtain ⟨session, -, absorbs⟩ := absorbs_abandon s id
  refine ⟨Nat.lt_of_lt_of_le given (Nat.le_of_eq absorbs.nextId.symm), fun goal stage h => ?_⟩
  simp [work?, task?_drop] at h

/-! ## What a task does to its build -/

/-- A build plans its reads: it is asked for at this moment, or it is that of a refresh that has
its turn. -/
inductive Moment.Plans (m : Moment) : CallId → BuildOptions → List Descriptor → Prop
  | asked {goal : Goal} {o : BuildOptions} {ds : List Descriptor} (act : m.act = .spawn goal)
      (build : goal.build? = some (o, ds)) : Plans m m.before.nextId o ds
  | turn {id : CallId} {goal : Goal} (act : m.act = .move (.resume id))
      (waited : m.before.task? id = some (.work goal .queued)) :
      Plans m id m.before.source.options m.before.source.descriptors

/-- A build that has planned its reads is over, if there is an obstacle or nothing to read, and
otherwise asks for a token. -/
structure HasPlanned (s : Agent) (registry : Registry) (id : CallId) (o : BuildOptions)
    (ds : List Descriptor) : Prop where
  given : id < s.nextId
  atOnce : ds.findSome? (registry.obstacle? o) ≠ none ∨ ds.filterMap registry.read? = [] →
    s.Rests id
  obtains : ds.findSome? (registry.obstacle? o) = none → ds.filterMap registry.read? ≠ [] →
    ∃ goal, s.work? id = some (goal, .obtaining o (ds.filterMap registry.read?) none)

theorem Moment.Plans.early (plans : m.Plans id o ds) : m.before.Early id := by
  cases plans with
  | asked act => exact .inl (Nat.le_refl _)
  | turn act waited => exact .inr ⟨_, _, work?_of_task? waited, rfl⟩

theorem Traced.given (traced : Traced start trace none s) (ht : s.task? id = some t) :
    id < s.nextId :=
  Nat.lt_of_not_le fun new => nomatch (traced.fresh id new).symm.trans ht

theorem HasPlanned.not_early {registry : Registry} (h : s.HasPlanned registry id o ds) :
    ¬ s.Early id := by
  by_cases atOnce : ds.findSome? (registry.obstacle? o) ≠ none ∨ ds.filterMap registry.read? = []
  · exact (h.atOnce atOnce).not_early
  · obtain ⟨clear, needed⟩ := not_or.1 atOnce
    obtain ⟨goal, hwork⟩ := h.obtains (Classical.not_not.1 clear) needed
    exact not_early_of_work? h.given hwork rfl

/-- What an act of a task does to its build, and what it records. -/
inductive Moment.BuildStep (m : Moment) (id : CallId) : List Metrics.Record → Prop
  /-- The build is still to come. -/
  | early (silent : m.readEnd? id = none) (early : m.before.Early id) : BuildStep m id []
  /-- The build plans its reads, and records what it skips. -/
  | plans {o : BuildOptions} {ds : List Descriptor} (plans : m.Plans id o ds) :
      BuildStep m id (Build.plan m.before.registry o ds).2
  /-- The build has got a token, and sends its reads. -/
  | sends {goal : Goal} {o : BuildOptions} {t : Token} {slots : List ReadSlot}
      (silent : m.readEnd? id = none)
      (before : m.before.work? id = some (goal, .obtaining o (slots.map ReadSlot.read) none))
      (after : m.after.work? id = some (goal, .reading o t slots))
      (unread : ∀ r ∈ slots, r.outcome = none) : BuildStep m id []
  /-- A read of the build ends, and is recorded. -/
  | ends {goal : Goal} {o : BuildOptions} {t : Token} {slots : List ReadSlot} {index : Nat}
      {r : ReadSlot} {answer : ReadAnswer} {result : Except Error Layer}
      (ended : m.readEnd? id = some (index, r.read, answer))
      (before : m.before.work? id = some (goal, .reading o t slots))
      (after : m.after.work? id =
        some (goal, .reading o t (slots.set index { r with outcome := some result })))
      (slot : slots[index]? = some r) (unread : r.outcome = none) :
      BuildStep m id [r.read.descriptor.record (r.read.layer o answer).2]
  /-- There is no build any more. -/
  | rests (silent : m.readEnd? id = none) (rests : m.after.Rests id) : BuildStep m id []

/-- A build waits for the reads that it has sent. -/
theorem work?_sendReads (ht : s.task? id = some t) (goal : Goal) (o : BuildOptions)
    (token : Token) (reads : List PlannedRead) :
    ∃ slots : List ReadSlot, slots.map ReadSlot.read = reads ∧ (∀ r ∈ slots, r.outcome = none) ∧
      (s.sendReads id goal o token reads).work? id = some (goal, .reading o token slots) :=
  ⟨_, by simp [Function.comp_def], by simp, work?_of_task? (task?_sendReads ht goal o token reads)⟩

theorem buildStep_of_resumeWork (given : id < s.nextId)
    (ht : s.task? id = some (.work goal stage)) (step : s.resumeWork id goal stage = some s') :
    Moment.BuildStep ⟨s, .move (.resume id), s'⟩ id (s.skips stage) := by
  cases stage with
  | calling reply =>
      cases reply with
      | none => cases step
      | some reply =>
          cases goal with
          | start policy revoke =>
              exact .early rfl (.inr ⟨_, _, work?_of_task? ht, rfl⟩)
          | _ =>
              obtain rfl := Option.some.inj step
              exact .rests rfl (rests_finish given ht _ _)
  | queued =>
      simp only [resumeWork, Option.ite_none_right_eq_some, Option.some.injEq] at step
      obtain ⟨-, rfl⟩ := step
      exact .plans (.turn rfl ht)
  | obtaining o reads reply =>
      cases reply with
      | none => cases step
      | some reply =>
          cases reply with
          | token t =>
              obtain rfl := Option.some.inj step
              obtain ⟨slots, rfl, unread, after⟩ := work?_sendReads ht goal o t reads
              exact .sends rfl (work?_of_task? ht) after unread
          | failed e =>
              obtain rfl := Option.some.inj step
              exact .rests rfl (rests_finishBuild given ht _ _)
          | closed | crashed =>
              obtain rfl := Option.some.inj step
              exact .rests rfl
                (rests_finish (s := { s with source := s.source.drop id }) given ht _ _)
  | reading o t slots =>
      simp only [resumeWork, Option.ite_none_right_eq_some, Option.some.injEq] at step
      obtain ⟨-, rfl⟩ := step
      exact .rests rfl (rests_finishBuild given ht _ _)
  | stopping target deadline =>
      simp only [resumeWork] at step
      split at step
      · obtain rfl := Option.some.inj step
        exact .rests rfl (rests_schedulerStopped given ht _)
      · simp only [Option.ite_none_right_eq_some, Option.some.injEq] at step
        obtain ⟨-, rfl⟩ := step
        have keeps := keeps_abort s id target
        obtain ⟨t', ht', -⟩ := keeps.task _ ht
        exact .rests rfl (rests_schedulerStopped (Nat.lt_of_lt_of_le given keeps.nextId) ht' _)
  | closing reply =>
      cases reply with
      | none => cases step
      | some reply =>
          obtain rfl := Option.some.inj step
          exact .rests rfl (rests_finish given ht _ _)
  | waiting readyAt =>
      simp only [resumeWork, Option.ite_none_right_eq_some, Option.some.injEq] at step
      obtain ⟨-, rfl⟩ := step
      exact .rests rfl (rests_perform given ht _)
  | ended => cases step

theorem buildStep_of_spawn (traced : Traced start trace none s) (goal : Goal) :
    Moment.BuildStep ⟨s, .spawn goal, (s.spawn goal).1⟩ s.nextId ((Act.spawn goal).records s) := by
  have given : s.nextId < (s.withTask goal).nextId := Nat.lt_succ_self _
  have ht := traced.task?_nextId goal
  have parked {stage : Stage} (planned : stage.bare.isPlanned = false)
      (early : stage.bare.isEarly goal = false) :
      ((s.withTask goal).park s.nextId goal stage).Rests s.nextId :=
    rests_park given ht goal planned early
  cases goal with
  | layers | properties => exact .plans (.asked rfl rfl)
  | refresh | load | start => exact .early rfl (.inl (Nat.le_refl _))
  | call c => exact .rests rfl ((parked rfl rfl).ask _ _)
  | stop => exact .rests rfl (rests_enterStop given ht _ _ _)
  | stopScheduler target grace => exact .rests rfl (rests_enterStopping given ht _ _ _)
  | pause | login | renew | revoke | write => exact .rests rfl (parked rfl rfl)
  | read path t =>
      exact .rests rfl (rests_park
        (s := { s.withTask (.read path t) with store := s.store.recordRead path }) given ht _
        rfl rfl)

/-- A scheduler that goes on builds nothing. -/
theorem rests_turn (traced : Traced start trace none s) {sched : Scheduler}
    (ht : s.task? id = some (.scheduler sched)) (next : Scheduler × Option Call) :
    (s.turn id next).Rests id := by
  obtain ⟨sched', call⟩ := next
  have put : (s.setTask id (.scheduler sched')).Rests id := by
    refine ⟨traced.given ht, fun goal stage h => ?_⟩
    simp [work?, task?_setTask ht, Task.work?] at h
  cases call with
  | none => exact put
  | some call => exact put.ask id call

/-- The turn of a scheduler rests, and reports nothing. -/
theorem buildStep_of_turns {sched : Scheduler} {next : Scheduler × Option Call}
    (traced : Traced start trace none s) (ht : s.task? id = some (.scheduler sched))
    (turns : a.Turns s id sched next) :
    Moment.BuildStep ⟨s, a, s.turn id next⟩ id (a.records s) := by
  have rests := rests_turn traced ht next
  cases turns with
  | resumes =>
      simp only [Act.records, resumed, ht]
      exact .rests rfl rests
  | wakes => exact .rests rfl rests

theorem buildStep_of_stepRead {index : Nat} (step : s.stepRead id index = some s') :
    Moment.BuildStep ⟨s, .move (.read id index), s'⟩ id (s.fared id index) := by
  obtain ⟨goal, o, t, slots, -, -, ht, -⟩ := park_of_stepRead step
  obtain ⟨r, answer, hr, unread, hanswer, rfl⟩ := slot_of_stepRead ht step
  have hfared : s.fared id index =
      [r.read.descriptor.record (r.read.layer o answer).2] := by
    simp [fared, ht, hr, hanswer]
  rw [hfared]
  refine .ends ?_ (work?_of_task? ht) (work?_park (s := s.record _) ht goal _) hr unread
  simp [Moment.readEnd?, ht, hr, hanswer]

/-- **What an act of a task does to its build.** -/
theorem Act.IsOf.buildStep (own : a.IsOf id s) (traced : Traced start trace none s)
    (step : s.act a = some s') :
    Moment.BuildStep ⟨s, a, s'⟩ id (a.records s) := by
  cases own.own step with
  | spawns new begun =>
      subst new begun
      exact buildStep_of_spawn traced _
  | drops gone =>
      subst gone
      by_cases given : id < s.nextId
      · exact .rests rfl (s.rests_drop given)
      · exact .early rfl (.inl (Nat.le_of_not_lt given))
  | reads reads => exact buildStep_of_stepRead reads
  | works ht resumes =>
      simp only [Act.records, resumed, ht]
      exact buildStep_of_resumeWork (traced.given ht) ht resumes
  | turns ht turns after =>
      subst after
      exact buildStep_of_turns traced ht turns

end Agent

end SecretConfig
