import SecretConfig.Agent.Startup
import SecretConfig.Proofs.Agent.Traces

set_option autoImplicit false

/-! # The life of an agent

An agent is started once; while it serves, it is refreshed any number of times, and refreshes may
be given up; and it is stopped once, when no refresh is under way (`Agent.allows`). Its scheduler
goes on by itself all the time. A start that fails stops everything again.

`Era` says where an agent stands: which task is to end it, what the other tasks are, and what this
means for the session. The session's own steps keep that (`Era.steps`), and its tasks never do
anything else (`Era.serves`). -/

namespace SecretConfig

/-! ## What may be asked of an agent -/

/-- The goal ends the scheduler and the session. -/
def Goal.isStop : Goal → Bool
  | stop _ _ _ => true
  | _ => false

namespace Task

/-- The task ends the scheduler and the session. -/
def isStop : Task → Bool
  | work goal _ => goal.isStop
  | scheduler _ => false

/-- The task is a refresh of the source. -/
def isRefresh : Task → Bool
  | work .refresh _ => true
  | _ => false

/-- The task has ended. -/
def hasEnded : Task → Bool
  | work _ (.ended _ _) => true
  | _ => false

end Task

namespace Agent

/-- The scheduler, if there is one, of an agent that has been started and not been told to stop.
The start is the first task of all. -/
def serving? (s : Agent) : Option (Option CallId) :=
  match s.result? 0 with
  | some (_, .started scheduler) =>
    if s.tasks.any fun e => e.2.isStop then none else some scheduler
  | _ => none

/-- What may be asked of an agent with the settings. -/
def allows (c : Settings) (s : Agent) : Act → Bool
  | .move _ => true
  | .startScheduler _ => false
  | .drop id => (s.task? id).any Task.isRefresh
  | .spawn goal =>
    match s.serving? with
    | some scheduler =>
      goal = .refresh ||
        goal = c.stopGoal scheduler && s.tasks.all fun e => !e.2.isRefresh || e.2.hasEnded
    | none => s.nextId = 0 && goal = c.startGoal

/-- The start has failed, or a stop has come to its end. -/
def HasReturned (s : Agent) : Prop :=
  (∃ endedAt e, s.result? 0 = some (endedAt, .failed e)) ∨
    ∃ id scheduler revoke endedAt outcome,
      s.task? id = some (.work (.stop scheduler revoke none) (.ended endedAt outcome))

end Agent

/-! ## Kinds of tasks -/

/-- The stage is one of a build, or of the wait for a turn to build. -/
def Stage.isBuild : Stage → Bool
  | queued | obtaining _ _ _ | reading _ _ _ => true
  | _ => false

/-- The goal is a refresh or the first refresh of a start. -/
inductive Goal.IsBuild : Goal → Prop
  | refresh : IsBuild .refresh
  | load (scheduler : Option CallId) (revoke : Bool) : IsBuild (.load scheduler revoke)

/-- How a start ends whose first refresh does not fail. -/
def Outcome.EndsLoad (scheduler : Option CallId) (outcome : Outcome) : Prop :=
  outcome = .started scheduler ∨ outcome = .done ∨ outcome = .crashed

theorem Outcome.EndsLoad.ne_failed {scheduler : Option CallId} {outcome : Outcome}
    (h : outcome.EndsLoad scheduler) (e : Error) : outcome ≠ .failed e := by
  rcases h with rfl | rfl | rfl <;> exact nofun

namespace Task

variable {id : CallId} {events : List Event} {goal : Goal} {stage : Stage}

/-- The task does nothing any more, and did not end the agent. -/
inductive IsOver (id : CallId) : Task → Prop
  | ended {goal : Goal} {endedAt : Instant} {outcome : Outcome} (kind : goal.isStop = false)
      (fine : id = 0 → ∀ e, outcome ≠ .failed e) : IsOver id (.work goal (.ended endedAt outcome))
  | stopped {sched : Scheduler} (phase : sched.phase = .stopped) : IsOver id (.scheduler sched)

/-- The task is the scheduler of the agent. -/
def IsScheduler (scheduler : Option CallId) (id : CallId) (t : Task) : Prop :=
  scheduler = some id ∧ ∃ sched, t = .scheduler sched

/-- The task is a refresh, which builds or has ended. -/
inductive IsRefresh : Task → Prop
  | builds {stage : Stage} (building : stage.isBuild = true) : IsRefresh (.work .refresh stage)
  | ended {endedAt : Instant} {outcome : Outcome} :
      IsRefresh (.work .refresh (.ended endedAt outcome))

/-- What the tasks do over the life of an agent that is to revoke its token at the end. -/
inductive Serves : Task → Prop
  | starts {policy : RenewalPolicy} {reply : Option Reply} :
      Serves (.work (.start policy true) (.calling reply))
  | builds {goal : Goal} {stage : Stage} (kind : goal.IsBuild) (building : stage.isBuild = true) :
      Serves (.work goal stage)
  | stops {scheduler : CallId} {failure : Option Error} {deadline : Instant} :
      Serves (.work (.stop (some scheduler) true failure) (.stopping scheduler deadline))
  | closes {scheduler : Option CallId} {failure : Option Error} {reply : Option Reply} :
      Serves (.work (.stop scheduler true failure) (.closing reply))
  | ended {goal : Goal} {endedAt : Instant} {outcome : Outcome} :
      Serves (.work goal (.ended endedAt outcome))
  | schedules {sched : Scheduler} : Serves (.scheduler sched)

theorem IsOver.serves {t : Task} (h : t.IsOver id) : t.Serves := by
  cases h with
  | ended => exact .ended
  | stopped => exact .schedules

theorem IsRefresh.serves {t : Task} (h : t.IsRefresh) : t.Serves := by
  cases h with
  | builds building => exact .builds .refresh building
  | ended => exact .ended

/-! ### Replies -/

/-- A task that takes no reply stays as it is. -/
theorem takeReplies_eq_self {t : Task} (h : ∀ reply, t.deliver reply = t) :
    t.takeReplies id events = t :=
  takeReplies_keeps_of_returned (P := fun u => u = t) rfl fun _ reply _ hu => hu ▸ h reply

theorem IsOver.takeReplies {t : Task} (h : t.IsOver id) : t.takeReplies id events = t := by
  refine takeReplies_eq_self fun reply => ?_
  cases h with
  | ended => rfl
  | stopped phase => simp [deliver, Scheduler.deliver, phase]

theorem IsOver.awaits? {t : Task} (h : t.IsOver id) : t.awaits? = none := by
  cases h with
  | @ended goal => cases goal <;> rfl
  | stopped phase => simp [Task.awaits?, Scheduler.awaits?, phase]

theorem IsScheduler.takeReplies {scheduler : Option CallId} {t : Task}
    (h : t.IsScheduler scheduler id) : (t.takeReplies id events).IsScheduler scheduler id := by
  refine takeReplies_keeps_of_returned h ?_
  rintro t reply - ⟨hid, sched, rfl⟩
  exact ⟨hid, _, rfl⟩

/-- A build is still one with a reply. -/
theorem takeReplies_build (building : stage.isBuild = true) :
    ∃ stage', (work goal stage).takeReplies id events = .work goal stage' ∧
      stage'.isBuild = true := by
  refine takeReplies_keeps_of_returned (P := fun t => ∃ stage', t = .work goal stage' ∧
    stage'.isBuild = true) ⟨stage, rfl, building⟩ ?_
  rintro t reply - ⟨stage', rfl, hbuild⟩
  cases stage' with
  | queued | obtaining | reading => exact ⟨_, rfl, rfl⟩
  | calling | stopping | closing | waiting | ended => exact nomatch hbuild

theorem IsRefresh.takeReplies {t : Task} (h : t.IsRefresh) :
    (t.takeReplies id events).IsRefresh := by
  cases h with
  | builds building =>
      obtain ⟨stage', hstage, hbuild⟩ := takeReplies_build building
      rw [hstage]
      exact .builds hbuild
  | ended =>
      rw [takeReplies_eq_self fun _ => rfl]
      exact .ended

/-- A call that is waited for has its reply from among the events. -/
theorem takeReplies_calling (id : CallId) (events : List Event) (goal : Goal)
    (reply : Option Reply) :
    ∃ reply', (work goal (.calling reply)).takeReplies id events = .work goal (.calling reply') ∧
      (reply' = reply ∨ ∃ r, reply' = some r ∧ .returned id r ∈ events) := by
  refine takeReplies_keeps_of_returned (P := fun t => ∃ reply', t = .work goal (.calling reply') ∧
    (reply' = reply ∨ ∃ r, reply' = some r ∧ .returned id r ∈ events)) ⟨reply, rfl, .inl rfl⟩ ?_
  rintro t r hmem ⟨reply', rfl, -⟩
  exact ⟨some r, rfl, .inr ⟨r, rfl, hmem⟩⟩

theorem takeReplies_closing (id : CallId) (events : List Event) (goal : Goal)
    (reply : Option Reply) :
    ∃ reply',
      (work goal (.closing reply)).takeReplies id events = .work goal (.closing reply') := by
  refine takeReplies_keeps_of_returned (P := fun t => ∃ reply', t = .work goal (.closing reply'))
    ⟨reply, rfl⟩ ?_
  rintro t r - ⟨reply', rfl⟩
  exact ⟨some r, rfl⟩

end Task

namespace Agent

variable {start s s' : Agent} {id main caller : CallId} {trace : List Session.Moment}
  {P Q : CallId → Task → Prop} {scheduler : Option CallId} {goal : Goal} {stage : Stage} {t : Task}

/-! ### Other tasks -/

/-- What holds of all tasks but one. -/
def Others (s : Agent) (main : CallId) (P : CallId → Task → Prop) : Prop :=
  ∀ id t, id ≠ main → s.task? id = some t → P id t

theorem Others.mono (h : s.Others main P) (weaken : ∀ id t, P id t → Q id t) :
    s.Others main Q :=
  fun id t hid ht => weaken id t (h id t hid ht)

/-- A task is the main one or one of the others. -/
theorem Others.eq_or {u : Task} (others : s.Others main P) (hmain : s.task? main = some u)
    (ht : s.task? id = some t) : id = main ∧ t = u ∨ id ≠ main ∧ P id t := by
  by_cases hid : id = main
  · subst hid
    exact .inl ⟨rfl, Option.some.inj (ht.symm.trans hmain)⟩
  · exact .inr ⟨hid, others id t hid ht⟩

/-- What holds of the main task and of the others holds of every task. -/
theorem Others.all {R : CallId → Task → Prop} {u : Task} (others : s.Others main P)
    (hmain : s.task? main = some u) (own : R main u)
    (other : ∀ id t, id ≠ main → P id t → R id t) (ht : s.task? id = some t) : R id t := by
  rcases others.eq_or hmain ht with ⟨rfl, rfl⟩ | ⟨hid, h⟩
  · exact own
  · exact other id t hid h

/-- A task is replaced. -/
theorem Others.setTask (h : s.Others main P) (id : CallId) (t : Task)
    (next : id ≠ main → P id t) : (s.setTask id t).Others main P := by
  intro x u hx hu
  rw [Agent.setTask, task?_modifyTask] at hu
  split at hu
  · rename_i hid
    subst hid
    obtain ⟨old, -, rfl⟩ := Option.map_eq_some_iff.1 hu
    exact next hx
  · exact h x u hx hu

theorem Others.park (h : s.Others main P) (id : CallId) (goal : Goal) (stage : Stage)
    (next : id ≠ main → P id (.work goal stage)) : (s.park id goal stage).Others main P :=
  h.setTask id (.work goal stage) next

/-- A task gets the next identity. -/
theorem Others.append (h : s.Others main P) (next : s.nextId ≠ main → P s.nextId t) :
    Others { s with tasks := s.tasks ++ [(s.nextId, t)], nextId := s.nextId + 1 } main P := by
  intro id u hid hu
  rw [task?_append] at hu
  cases hold : s.task? id with
  | some old =>
      rw [hold, Option.some_or] at hu
      obtain rfl := Option.some.inj hu
      exact h id old hid hold
  | none =>
      rw [hold, Option.none_or, Option.ite_none_right_eq_some] at hu
      obtain ⟨rfl, hu⟩ := hu
      obtain rfl := Option.some.inj hu
      exact next hid

/-- Tasks go away. -/
theorem Others.sub (h : s.Others main P)
    (tasks : ∀ id t, s'.task? id = some t → s.task? id = some t) : s'.Others main P :=
  fun id t hid ht => h id t hid (tasks id t ht)

/-- The tasks are those of an agent, with replies of the session taken. -/
def Replied (s s' : Agent) : Prop :=
  ∃ events, ∀ id, s'.task? id = (s.task? id).map (Task.takeReplies id events)

theorem Replied.of_tasks (h : s'.tasks = s.tasks) : s.Replied s' := by
  refine ⟨[], fun id => ?_⟩
  have htask : s'.task? id = s.task? id := by simp only [task?, h]
  rw [htask]
  exact Option.map_id'.symm

theorem Replied.others (replied : s.Replied s') (h : s.Others main P)
    (keeps : ∀ id t events, P id t → P id (t.takeReplies id events)) : s'.Others main P := by
  obtain ⟨events, htasks⟩ := replied
  intro id t hid ht
  rw [htasks] at ht
  obtain ⟨old, hold, rfl⟩ := Option.map_eq_some_iff.1 ht
  exact keeps id old events (h id old hid hold)

theorem Replied.task? (replied : s.Replied s') (ht : s.task? id = some t) :
    ∃ events, s'.task? id = some (t.takeReplies id events) := by
  obtain ⟨events, htasks⟩ := replied
  exact ⟨events, by rw [htasks, ht]; rfl⟩

/-- The task of an agent is over or is its scheduler. -/
def Leftover (scheduler : Option CallId) (id : CallId) (t : Task) : Prop :=
  t.IsOver id ∨ t.IsScheduler scheduler id

theorem Leftover.takeReplies (h : Leftover scheduler id t) (events : List Event) :
    Leftover scheduler id (t.takeReplies id events) := by
  rcases h with done | sched
  · rw [done.takeReplies]
    exact .inl done
  · exact .inr sched.takeReplies

theorem Leftover.serves (h : Leftover scheduler id t) : t.Serves := by
  rcases h with done | ⟨-, sched, rfl⟩
  · exact done.serves
  · exact .schedules

theorem Leftover.isOver (h : Leftover none id t) : t.IsOver id :=
  h.resolve_right fun ⟨hid, _⟩ => nomatch hid

/-! ## Where an agent stands -/

/-- Where an agent stands between its first login and its last call. The first task starts the
agent, and the main task is the one that is to end it. -/
inductive Busy (s : Agent) : Prop
  /-- The first refresh is under way. -/
  | loading {scheduler : Option CallId} {stage : Stage}
      (main : s.task? 0 = some (.work (.load scheduler true) stage))
      (building : stage.isBuild = true) (others : s.Others 0 (Leftover scheduler))
  /-- The start has ended. -/
  | serving {scheduler : Option CallId} {endedAt : Instant} {outcome : Outcome}
      (main : s.task? 0 = some (.work (.load scheduler true) (.ended endedAt outcome)))
      (fine : outcome.EndsLoad scheduler)
      (others : s.Others 0 fun id t => t.IsRefresh ∨ Leftover scheduler id t)
  /-- The scheduler is to stop. -/
  | stopping {main scheduler : CallId} {failure : Option Error} {deadline : Instant}
      (stops : s.task? main =
        some (.work (.stop (some scheduler) true failure) (.stopping scheduler deadline)))
      (others : s.Others main (Leftover (some scheduler)))

/-- Where an agent stands. -/
inductive Era (s : Agent) : Prop
  | idle (first : s.nextId = 0) (blank : s.session.IsBlank)
  /-- The first login is under way. -/
  | starting {policy : RenewalPolicy} {reply : Option Reply}
      (main : s.task? 0 = some (.work (.start policy true) (.calling reply)))
      (others : s.Others 0 fun id t => t.IsOver id)
      (blank : s.session.IsBlank ∨ ∃ t, reply = some (.token t))
  | busy (busy : s.Busy)
  /-- The session is to end. -/
  | closing {main : CallId} {scheduler : Option CallId} {failure : Option Error}
      {reply : Option Reply}
      (closes : s.task? main = some (.work (.stop scheduler true failure) (.closing reply)))
      (others : s.Others main fun id t => t.IsOver id) (ending : s.session.IsEnding)
  | closed {main : CallId} {goal : Goal} {endedAt : Instant} {outcome : Outcome}
      (ended : s.task? main = some (.work goal (.ended endedAt outcome)))
      (kind : goal.isStop = true ∨
        main = 0 ∧ goal ≠ .refresh ∧ ∀ scheduler, outcome ≠ .started scheduler)
      (others : s.Others main fun id t => t.IsOver id) (ending : s.session.IsEnding)

theorem Busy.of_replied (h : s.Busy) (replied : s.Replied s') : s'.Busy := by
  cases h with
  | loading main building others =>
      obtain ⟨events, hmain⟩ := replied.task? main
      obtain ⟨stage', hstage, hbuild⟩ := Task.takeReplies_build building
      rw [hstage] at hmain
      exact .loading hmain hbuild (replied.others others fun _ _ events h => h.takeReplies events)
  | serving main fine others =>
      obtain ⟨events, hmain⟩ := replied.task? main
      rw [Task.takeReplies_eq_self fun _ => rfl] at hmain
      exact .serving hmain fine (replied.others others fun _ _ events h =>
        h.imp Task.IsRefresh.takeReplies fun h => h.takeReplies events)
  | stopping stops others =>
      obtain ⟨events, hmain⟩ := replied.task? stops
      rw [Task.takeReplies_eq_self fun _ => rfl] at hmain
      exact .stopping hmain (replied.others others fun _ _ events h => h.takeReplies events)

/-! ## Frames -/

theorem task?_park (ht : s.task? id = some t) (goal : Goal) (stage : Stage) :
    (s.park id goal stage).task? id = some (.work goal stage) :=
  task?_setTask ht

theorem task?_park_of_ne (other : caller ≠ id) (goal : Goal) (stage : Stage) :
    (s.park id goal stage).task? caller = s.task? caller := by
  rw [Agent.park, setTask, task?_modifyTask, if_neg other]

theorem replied_ask (s : Agent) (id : CallId) (call : Call) : s.Replied (s.ask id call) := by
  obtain ⟨session, events, -, absorbs⟩ := absorbs_ask s id call
  exact ⟨events, absorbs.task?⟩

/-- Only schedulers are cancelled. -/
theorem task?_cancel_work (ht : s.task? id = some (.work goal stage)) (target : CallId) :
    (s.cancel target).task? id = some (.work goal stage) := by
  rw [Agent.cancel, task?_modifyTask, ht]
  split <;> rfl

theorem Others.cancel (h : s.Others main (Leftover scheduler)) (target : CallId) :
    (s.cancel target).Others main (Leftover scheduler) := by
  intro id t hid ht
  rw [Agent.cancel, task?_modifyTask] at ht
  split at ht
  · obtain ⟨old, hold, rfl⟩ := Option.map_eq_some_iff.1 ht
    rcases h id old hid hold with done | ⟨hsched, sched, rfl⟩
    · cases done with
      | ended kind fine => exact .inl (.ended kind fine)
      | stopped phase => exact .inl (.stopped phase)
    · exact .inr ⟨hsched, _, rfl⟩
  · exact h id t hid ht

/-! ## Who waits -/

theorem awaits?_of_task? (ht : s.task? id = some t) : s.awaits? id = t.awaits? := by
  rw [awaits?, ht]
  rfl

/-- An agent whose first identity is still to be given has no task. -/
theorem Traced.task?_eq_none (h : Traced start trace none s) (first : s.nextId = 0) (id : CallId) :
    s.task? id = none :=
  h.fresh id (by rw [first]; exact Nat.zero_le id)

/-- The tasks of an agent serve its life. -/
theorem Era.serves (h : s.Era) (traced : Traced start trace none s) (ht : s.task? id = some t) :
    t.Serves := by
  cases h with
  | idle first => exact nomatch (traced.task?_eq_none first id).symm.trans ht
  | starting main others => exact others.all main .starts (fun _ _ _ h => h.serves) ht
  | busy busy =>
      cases busy with
      | loading main building others =>
          exact others.all main (.builds (.load _ _) building) (fun _ _ _ h => h.serves) ht
      | serving main fine others =>
          exact others.all main .ended
            (fun _ _ _ h => h.elim Task.IsRefresh.serves Leftover.serves) ht
      | stopping stops others => exact others.all stops .stops (fun _ _ _ h => h.serves) ht
  | closing closes others => exact others.all closes .closes (fun _ _ _ h => h.serves) ht
  | closed ended kind others => exact others.all ended .ended (fun _ _ _ h => h.serves) ht

/-- Who waits is not over. -/
theorem Others.eq_of_awaits? (others : s.Others main fun id t => t.IsOver id) {call : Call}
    (waits : s.awaits? id = some call) : id = main := by
  refine Decidable.byContradiction fun hid => ?_
  cases ht : s.task? id with
  | none => simp [Agent.awaits?, ht] at waits
  | some t =>
      rw [awaits?_of_task? ht] at waits
      cases (others id t hid ht).awaits?.symm.trans waits

/-- Nobody waits where one task waits for nothing and the others are over. -/
theorem Others.awaits? (others : s.Others main fun id t => t.IsOver id)
    (idle : s.awaits? main = none) (id : CallId) : s.awaits? id = none := by
  cases hwaits : s.awaits? id with
  | none => rfl
  | some call =>
      obtain rfl := others.eq_of_awaits? hwaits
      exact hwaits.symm.trans idle

theorem Traced.awaits?_of_active (h : Traced start trace none s) {phase : Phase}
    (holder : s.session.active = some (id, phase)) : s.awaits? id = some phase.call := by
  refine (h.line id _).2 (.inl ?_)
  rw [Session.line_of_active holder]
  exact List.mem_cons_self

/-- The guard is free when nobody waits. -/
theorem Traced.free (h : Traced start trace none s) (idle : ∀ id, s.awaits? id = none) :
    s.session.active = none := by
  cases hactive : s.session.active with
  | none => rfl
  | some e => exact nomatch (idle e.1).symm.trans (h.awaits?_of_active hactive)

/-! ## Steps of the session -/

section Steps

variable {a : Act} {l : Session.Label} {events : List Event}

/-- Somebody waits when the session takes a step. -/
theorem Traced.not_idle (h : Traced start trace none s) (steps : a.Steps s l events s') :
    ¬ ∀ id, s.awaits? id = none := fun idle =>
  (Session.does_of_step steps.step).active_ne_none (Act.isOutside_of_label? steps.label)
    (h.free idle)

/-- The first login has not ended, or it succeeded. -/
theorem Era.starting_steps (traced : Traced start trace none s) (steps : a.Steps s l events s')
    {policy : RenewalPolicy} {reply : Option Reply}
    (main : s.task? 0 = some (.work (.start policy true) (.calling reply)))
    (others : s.Others 0 fun id t => t.IsOver id)
    (others' : s'.Others 0 fun id t => t.IsOver id)
    (blank : s.session.IsBlank ∨ ∃ t, reply = some (.token t)) : s'.Era := by
  have does := Session.does_of_step steps.step
  have waits : s.awaits? 0 = (Task.work (.start policy true) (.calling reply)).awaits? :=
    awaits?_of_task? main
  cases reply with
  | some r => exact absurd (others.awaits? waits) (traced.not_idle steps)
  | none =>
      replace blank := blank.resolve_right nofun
      obtain ⟨reply', htake, hfrom⟩ :=
        Task.takeReplies_calling 0 events (.start policy true) none
      have main' : s'.task? 0 = some (.work (.start policy true) (.calling reply')) := by
        rw [steps.task?, main, ← htake]
        rfl
      rcases does.isBlank traced.run.coherent blank with blank' | ⟨caller, t, returned, only⟩
      · exact .starting main' others' (.inl blank')
      · -- the login is the one that the start waits for
        obtain rfl : caller = 0 := by
          rcases does.caller_of_event returned rfl with rfl | ⟨phase, holder⟩
          · exact nomatch Act.isOutside_of_label? steps.label
          · exact others.eq_of_awaits? (traced.awaits?_of_active holder)
        refine .starting main' others' (.inr ⟨t, ?_⟩)
        have done := Task.awaits?_takeReplies returned (.work (.start policy true) (.calling none))
        rw [htake] at done
        rcases hfrom with rfl | ⟨r, rfl, hmem⟩
        · exact nomatch done
        · rw [only 0 r hmem]

/-- The session is unauthenticated after one step. -/
theorem Era.closing_steps (traced : Traced start trace none s) (steps : a.Steps s l events s')
    {failure : Option Error} {reply : Option Reply}
    (closes : s.task? main = some (.work (.stop scheduler true failure) (.closing reply)))
    (others : s.Others main fun id t => t.IsOver id)
    (others' : s'.Others main fun id t => t.IsOver id) (ending : s.session.IsEnding) : s'.Era := by
  obtain ⟨reply', htake⟩ :=
    Task.takeReplies_closing main events (.stop scheduler true failure) reply
  have closes' : s'.task? main =
      some (.work (.stop scheduler true failure) (.closing reply')) := by
    rw [steps.task?, closes, ← htake]
    rfl
  -- only the stop is in line, and it waits for its shutdown
  have line : ∀ e ∈ s.session.line, e.2 = .shutdown true := by
    rintro ⟨caller, call⟩ hmem
    have waits := (traced.line caller call).2 (.inl hmem)
    obtain rfl := others.eq_of_awaits? waits
    rw [awaits?_of_task? closes] at waits
    cases reply with
    | none => exact (Option.some.inj waits).symm
    | some r => exact nomatch waits
  exact .closing closes' others' (.inl ((Session.does_of_step steps.step).state_of_isEnding
    (Act.isOutside_of_label? steps.label) line ending))

theorem Era.steps (h : s.Era) (traced : Traced start trace none s)
    (steps : a.Steps s l events s') : s'.Era := by
  have replied : s.Replied s' := ⟨events, steps.task?⟩
  have done {main : CallId} (others : s.Others main fun id t => t.IsOver id) :
      s'.Others main fun id t => t.IsOver id :=
    replied.others others fun id t events h => by rwa [h.takeReplies]
  cases h with
  | idle first blank =>
      -- nobody waits, so the session takes no step
      refine absurd (fun id => ?_) (traced.not_idle steps)
      rw [Agent.awaits?, traced.task?_eq_none first]
      rfl
  | starting main others blank =>
      exact .starting_steps traced steps main others (done others) blank
  | busy busy => exact .busy (busy.of_replied replied)
  | closing closes others ending =>
      exact .closing_steps traced steps closes others (done others) ending
  | @closed main goal endedAt outcome ended kind others ending =>
      have idle : s.awaits? main = none := by
        rw [awaits?_of_task? ended]
        cases goal <;> rfl
      exact absurd (others.awaits? idle) (traced.not_idle steps)

end Steps

end Agent

end SecretConfig
