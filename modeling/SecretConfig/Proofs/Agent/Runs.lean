import SecretConfig.Agent.Run
import SecretConfig.Proofs.Session.Runs

set_option autoImplicit false

/-! # Runs of an agent

A run of an agent is any order of its moves and of what is asked of it from outside
(`Agent.Run`). Like a run of a session it is recorded as the list of its moments, the latest
first.

A move of the agent takes steps of the session, and each of those is followed by what its
events lead to. `Agent.Absorbs` says what that is: the requests that are sent join those in
flight, and the replies reach the tasks that wait for them. `Agent.absorbs_of_stepSession`
opens a step of the session within an agent. The moves themselves are opened by
`Agent.resumes_of_stepTask`, `Agent.turn_of_wake`, `Agent.stepSession_of_answer` and
`Agent.stepSession_of_expire`. -/

namespace SecretConfig

namespace Agent

/-! ## Runs -/

/-- What happens to an agent: it moves, or something is asked of it. -/
inductive Act where
  | move (m : Move)
  | spawn (goal : Goal)
  | startScheduler (policy : RenewalPolicy)
  /-- A task is dropped where it waits. -/
  | drop (id : CallId)

/-- The agent after an act; `none` when the act cannot happen. -/
def act (s : Agent) : Act → Option Agent
  | .move m => s.step m
  | .spawn goal => some (s.spawn goal).1
  | .startScheduler policy => some (s.startScheduler policy).1
  | .drop id => some (s.drop id)

/-- One act of a run, with the agent before and after it. -/
structure Moment where
  before : Agent
  act : Act
  after : Agent

/-- The runs from a start, the latest moment first. -/
inductive Run (start : Agent) : List Moment → Agent → Prop
  | start : Run start [] start
  | next {past : List Moment} {s s' : Agent} {a : Act} (run : Run start past s)
      (step : s.act a = some s') : Run start (⟨s, a, s'⟩ :: past) s'

variable {start s s' : Agent} {history past : List Moment} {m : Moment} {id : CallId}

/-- The agent after the moments of a run. -/
def latest (start : Agent) : List Moment → Agent
  | [] => start
  | m :: _ => m.after

/-- A run goes on with the possible ones of some acts. -/
def replay (start : Agent) (history : List Moment) : List Act → List Moment
  | [] => history
  | a :: rest =>
    match (latest start history).act a with
    | some s' => replay start (⟨latest start history, a, s'⟩ :: history) rest
    | none => replay start history rest

theorem Run.replay (run : Run start history (latest start history)) (acts : List Act) :
    Run start (replay start history acts) (latest start (replay start history acts)) := by
  induction acts generalizing history with
  | nil => exact run
  | cons a rest ih =>
      unfold Agent.replay
      split
      · rename_i s' hact
        exact ih (.next run hact)
      · exact ih run

/-- A run goes on with a run from where it is. -/
theorem Run.append {later : List Moment} (run : Run s later s') (before : Run start history s) :
    Run start (later ++ history) s' := by
  induction run with
  | start => exact before
  | next run step ih => exact .next ih step

/-- A goal is asked for. -/
def asked (s : Agent) (goal : Goal) : Moment := ⟨s, .spawn goal, (s.spawn goal).1⟩

/-- A run that begins with a goal, and goes on with the possible ones of some acts. -/
theorem run_asked (s : Agent) (goal : Goal) (acts : List Act) :
    Run s (Agent.replay (asked s goal).after [] acts ++ [asked s goal])
      (latest (asked s goal).after (Agent.replay (asked s goal).after [] acts)) :=
  (Run.start.replay acts).append (.next .start rfl)

/-- What happens in the moments that are new is among the acts. -/
theorem act_of_mem_replay {acts : List Act} (h : m ∈ replay start history acts) :
    m ∈ history ∨ m.act ∈ acts := by
  induction acts generalizing history with
  | nil => exact .inl h
  | cons a rest ih =>
      unfold Agent.replay at h
      split at h
      · rcases ih h with hmem | hact
        · rcases List.mem_cons.1 hmem with rfl | hmem
          · exact .inr List.mem_cons_self
          · exact .inl hmem
        · exact .inr (List.mem_cons_of_mem a hact)
      · exact (ih h).imp_right (List.mem_cons_of_mem a)

/-- The clock moves on, and nothing else changes. -/
theorem eq_of_pass {now : Instant} (h : s.step (.pass now) = some s') :
    s.now ≤ now ∧ s' = { s with now } := by
  simp only [step, Option.ite_none_right_eq_some, Option.some.injEq] at h
  exact ⟨h.1, h.2.symm⟩

/-- A task that goes on works towards its goal, or it is a scheduler and has a turn. -/
inductive Resumes (s : Agent) (id : CallId) (s' : Agent) : Prop
  | works {goal : Goal} {stage : Stage} (task : s.task? id = some (.work goal stage))
      (step : s.resumeWork id goal stage = some s')
  | turns {sched : Scheduler} {next : Scheduler × Option Call}
      (task : s.task? id = some (.scheduler sched)) (step : sched.step s.session = some next)
      (after : s' = s.turn id next)

theorem resumes_of_stepTask (h : s.stepTask id = some s') : s.Resumes id s' := by
  unfold stepTask at h
  split at h
  · rename_i goal stage task
    exact .works task h
  · rename_i sched task
    obtain ⟨next, step, after⟩ := Option.map_eq_some_iff.1 h
    exact .turns task step after.symm
  · cases h

/-- The answer to a request comes when it is there, and the session takes it. -/
theorem stepSession_of_answer (h : s.step (.answer id) = some s') :
    ∃ r, s.requests.find? (fun r => r.caller = id) = some r ∧ r.readyAt ≤ s.now ∧
      ({ s.forget id with store := (s.store.answer r.request).2 } : Agent).stepSession
        (.answer id (s.store.answer r.request).1) = some s' := by
  simp only [step, stepAnswer] at h
  split at h
  · rename_i r found
    obtain ⟨ready, answered⟩ := Option.ite_none_right_eq_some.1 h
    exact ⟨r, found, ready, answered⟩
  · cases h

/-- A request is given up before its answer is there, and the session gives it up. -/
theorem stepSession_of_expire (h : s.step (.expire id) = some s') :
    ∃ r, s.requests.find? (fun r => r.caller = id) = some r ∧ s.now < r.readyAt ∧
      (s.forget id).stepSession (.expire id) = some s' := by
  simp only [step, stepExpire] at h
  split at h
  · rename_i r found
    obtain ⟨early, expired⟩ := Option.ite_none_left_eq_some.1 h
    exact ⟨r, found, Nat.lt_of_not_le early, expired⟩
  · cases h

/-- A wait that ends is one of a scheduler, which goes on. -/
theorem turn_of_wake {cause : Scheduler.Cause} (h : s.step (.wake id cause) = some s') :
    ∃ sched next, s.task? id = some (.scheduler sched) ∧
      sched.wake s.now s.session cause = some next ∧ s' = s.turn id next := by
  simp only [step, stepWake] at h
  split at h
  · rename_i sched htask
    obtain ⟨next, hwake, rfl⟩ := Option.map_eq_some_iff.1 h
    exact ⟨sched, next, htask, hwake, rfl⟩
  · cases h

/-! ## Tasks -/

theorem mem_tasks_of_task? {t : Task} (h : s.task? id = some t) : (id, t) ∈ s.tasks := by
  unfold task? at h
  cases hfind : s.tasks.find? fun e => e.1 = id with
  | none => simp [hfind] at h
  | some e =>
      simp only [hfind, Option.map_some, Option.some.injEq] at h
      have hid := List.find?_some hfind
      simp only [decide_eq_true_eq] at hid
      have hmem := List.mem_of_find?_eq_some hfind
      rw [← hid, ← h]
      exact hmem

theorem task?_modifyTask (f : Task → Task) (caller : CallId) :
    (s.modifyTask id f).task? caller =
      if caller = id then (s.task? caller).map f else s.task? caller := by
  simp only [task?, modifyTask, List.find?_map]
  -- a task keeps its identity
  have hkey : (fun e : CallId × Task => decide (e.1 = caller)) ∘
      (fun e => if e.1 = id then (id, f e.2) else e) = fun e => decide (e.1 = caller) := by
    funext e
    by_cases he : e.1 = id <;> simp [he]
  rw [hkey]
  cases hfind : s.tasks.find? fun e => e.1 = caller with
  | none => simp
  | some e =>
      have hid := List.find?_some hfind
      simp only [decide_eq_true_eq] at hid
      by_cases hc : caller = id <;> simp [hid, hc]

theorem task?_append (s : Agent) (e : CallId × Task) (n : CallId) (id : CallId) :
    ({ s with tasks := s.tasks ++ [e], nextId := n } : Agent).task? id =
      (s.task? id).or (if e.1 = id then some e.2 else none) := by
  simp only [task?, List.find?_append]
  cases s.tasks.find? fun e => e.1 = id with
  | some e' => rfl
  | none => by_cases he : e.1 = id <;> simp [he]

theorem task?_setTask {t t' : Task} (h : s.task? id = some t) :
    (s.setTask id t').task? id = some t' := by
  simp [setTask, task?_modifyTask, h]

theorem result?_finish {t : Task} {goal : Goal} {outcome : Outcome} (h : s.task? id = some t) :
    (s.finish id goal outcome).result? id = some (s.now, outcome) := by
  unfold result? finish park
  rw [task?_setTask h]

theorem mem_setTask {e : CallId × Task} {t : Task} (h : e ∈ (s.setTask id t).tasks) :
    e = (id, t) ∨ e ∈ s.tasks ∧ e.1 ≠ id := by
  simp only [setTask, modifyTask, List.mem_map] at h
  obtain ⟨e', he', rfl⟩ := h
  split
  · exact .inl rfl
  · rename_i hid
    exact .inr ⟨he', hid⟩

theorem result?_of_ended {goal : Goal} {endedAt : Instant} {outcome : Outcome}
    (ht : s.task? id = some (.work goal (.ended endedAt outcome))) :
    s.result? id = some (endedAt, outcome) := by
  simp only [result?, ht]

theorem task?_of_result? {endedAt : Instant} {outcome : Outcome}
    (h : s.result? id = some (endedAt, outcome)) :
    ∃ goal, s.task? id = some (.work goal (.ended endedAt outcome)) := by
  unfold result? at h
  split at h
  · rename_i goal endedAt' outcome' htask
    obtain ⟨rfl, rfl⟩ := Prod.mk.inj (Option.some.inj h)
    exact ⟨goal, htask⟩
  · exact nomatch h

/-- The end of a read leaves the plan of the reads as it is. -/
theorem map_read_set {slots : List ReadSlot} {index : Nat} {r : ReadSlot}
    (h : slots[index]? = some r) (outcome : Option (Except Error Layer)) :
    (slots.set index { r with outcome }).map ReadSlot.read = slots.map ReadSlot.read := by
  rw [List.map_set]
  refine List.ext_getElem? fun k => ?_
  by_cases hk : index = k
  · subst hk
    obtain ⟨hlt, -⟩ := List.getElem?_eq_some_iff.1 h
    rw [List.getElem?_set_self (by simpa using hlt), List.getElem?_map, h]
    rfl
  · rw [List.getElem?_set_ne hk]

/-! ## Steps of the session within an agent -/

end Agent

/-- A task takes the replies to it among some events. -/
def Task.takeReplies (id : CallId) (events : List Event) (t : Task) : Task :=
  events.foldl (fun t e => match e with
    | .returned caller reply => if caller = id then t.deliver reply else t
    | _ => t) t

/-- What a task keeps with each of the replies, it keeps with all of them. -/
theorem Task.takeReplies_keeps_of_returned {P : Task → Prop} {t : Task} (h : P t) {id : CallId}
    {events : List Event}
    (keeps : ∀ t reply, .returned id reply ∈ events → P t → P (t.deliver reply)) :
    P (t.takeReplies id events) := by
  unfold Task.takeReplies
  induction events generalizing t with
  | nil => exact h
  | cons e rest ih =>
      refine ih ?_ fun t reply hmem => keeps t reply (List.mem_cons_of_mem e hmem)
      dsimp only
      split
      · split
        · rename_i hcaller
          subst hcaller
          exact keeps t _ List.mem_cons_self h
        · exact h
      · exact h

/-- What a task keeps with every reply, it keeps with all of them. -/
theorem Task.takeReplies_keeps {P : Task → Prop} {t : Task} (h : P t)
    (keeps : ∀ t reply, P t → P (t.deliver reply)) (id : CallId) (events : List Event) :
    P (t.takeReplies id events) :=
  takeReplies_keeps_of_returned h fun t reply _ => keeps t reply

namespace Agent

variable {start s s' : Agent} {history past : List Moment} {m : Moment} {id : CallId}

/-- The request that an event of the session sends. -/
def requestOf (s : Agent) : Event → Option PendingRequest
  | .loginSent id _ =>
    some ⟨id, s.loginRequest s.session.strategy,
      s.now + s.store.delay (s.loginRequest s.session.strategy)⟩
  | .renewalSent id t => some ⟨id, .renewal t, s.now + s.store.delay (.renewal t)⟩
  | .revocationSent id t => some ⟨id, .revocation t, s.now + s.store.delay (.revocation t)⟩
  | _ => none

/-- What some events of the session lead to; only the metrics are left open. -/
structure Absorbs (s : Agent) (events : List Event) (s' : Agent) : Prop where
  now : s'.now = s.now
  files : s'.files = s.files
  store : s'.store = s.store
  session : s'.session = s.session
  registry : s'.registry = s.registry
  source : s'.source = s.source
  requests : s'.requests = s.requests ++ events.filterMap s.requestOf
  tasks : s'.tasks = s.tasks.map fun e => (e.1, e.2.takeReplies e.1 events)
  nextId : s'.nextId = s.nextId

theorem absorbs_absorb (s : Agent) (e : Event) : s.Absorbs [e] (s.absorb e) := by
  cases e with
  | published | loginSent | renewalSent | revocationSent | loginEnded | renewalEnded =>
      constructor <;> simp [absorb, send, requestOf, Task.takeReplies]
  | returned caller reply =>
      refine ⟨rfl, rfl, rfl, rfl, rfl, rfl, by simp [absorb, modifyTask, requestOf], ?_, rfl⟩
      simp only [absorb, modifyTask, Task.takeReplies, List.foldl_cons, List.foldl_nil]
      refine List.map_congr_left fun e he => ?_
      by_cases hc : e.1 = caller
      · simp [hc]
      · simp [hc, Ne.symm hc]

theorem Absorbs.trans {s₁ s₂ s₃ : Agent} {events events' : List Event}
    (h : s₁.Absorbs events s₂) (h' : s₂.Absorbs events' s₃) :
    s₁.Absorbs (events ++ events') s₃ where
  now := h'.now.trans h.now
  files := h'.files.trans h.files
  store := h'.store.trans h.store
  session := h'.session.trans h.session
  registry := h'.registry.trans h.registry
  source := h'.source.trans h.source
  requests := by
    have hrequest : s₂.requestOf = s₁.requestOf := by
      funext e
      cases e <;> simp [requestOf, loginRequest, h.now, h.files, h.store, h.session]
    rw [h'.requests, h.requests, hrequest, List.filterMap_append, List.append_assoc]
  tasks := by
    rw [h'.tasks, h.tasks, List.map_map]
    refine List.map_congr_left fun e _ => ?_
    simp [Task.takeReplies]
  nextId := h'.nextId.trans h.nextId

theorem absorbs_foldl (s : Agent) (events : List Event) :
    s.Absorbs events (events.foldl absorb s) := by
  induction events generalizing s with
  | nil => constructor <;> simp [Task.takeReplies]
  | cons e rest ih => exact (absorbs_absorb s e).trans (ih (s.absorb e))

theorem Absorbs.task? {events : List Event} (h : s.Absorbs events s') (id : CallId) :
    s'.task? id = (s.task? id).map (Task.takeReplies id events) := by
  simp only [Agent.task?, h.tasks, List.find?_map]
  have hkey : (fun e : CallId × Task => decide (e.1 = id)) ∘
      (fun e : CallId × Task => (e.1, e.2.takeReplies e.1 events)) =
        fun e => decide (e.1 = id) := rfl
  rw [hkey]
  cases hfind : s.tasks.find? fun e => e.1 = id with
  | none => rfl
  | some e =>
      have hid := List.find?_some hfind
      simp only [decide_eq_true_eq] at hid
      simp [hid]

/-- **A step of the session within an agent** follows a rule of the session, and its events
lead to what they lead to. -/
theorem absorbs_of_stepSession {l : Session.Label} (h : s.stepSession l = some s') :
    ∃ session events, s.session.Does s.now l session events ∧
      { s with session }.Absorbs events s' := by
  unfold stepSession at h
  cases hstep : s.session.step s.now l with
  | none => simp [hstep] at h
  | some r =>
      obtain ⟨session, events⟩ := r
      simp only [hstep, Option.map_some, Option.some.injEq] at h
      subst h
      exact ⟨session, events, Session.does_of_step hstep, absorbs_foldl _ _⟩

/-- A step that the session can take, the agent can take. -/
theorem stepSession_of_step {l : Session.Label} {session : Session} {events : List Event}
    (h : s.session.step s.now l = some (session, events)) :
    ∃ s', s.stepSession l = some s' ∧ { s with session }.Absorbs events s' :=
  ⟨_, by simp [stepSession, h], absorbs_foldl _ events⟩

end Agent

end SecretConfig
