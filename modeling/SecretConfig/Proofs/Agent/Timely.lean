import SecretConfig.Proofs.Agent.Runs

set_option autoImplicit false

/-! # Timely runs

In a timely run the clock moves on only when nothing else can happen, and not beyond the next
instant that something waits for, so every timer fires exactly when it is due
(`Moment.IsTimely`).

A move other than that of the clock needs something: the guard, a request in flight, or a task.
Hence the calls that have one of these decide whether anything can happen (`isQuiet_iff`). -/

namespace SecretConfig

namespace Agent

variable {s s' : Agent} {id : CallId}

/-! ## What a move needs -/

theorem active_of_proceed (h : s.step (.proceed id) = some s') :
    ∃ call, s.session.active = some (id, .granted call) := by
  simp only [step, stepSession, Session.step] at h
  split at h
  · rename_i holder call hactive
    split at h
    · rename_i hholder
      exact ⟨call, hholder ▸ hactive⟩
    · cases h
  · cases h

theorem request_of_answer (h : s.step (.answer id) = some s') :
    ∃ r ∈ s.requests, r.caller = id ∧ r.readyAt ≤ s.now := by
  obtain ⟨r, found, ready, -⟩ := stepSession_of_answer h
  exact ⟨r, List.mem_of_find?_eq_some found, by simpa using List.find?_some found, ready⟩

/-- A request is given up when its answer is not there and the session may give it up. -/
theorem request_of_expire (h : s.step (.expire id) = some s') :
    ∃ r ∈ s.requests, r.caller = id ∧ s.now < r.readyAt ∧
      ∃ phase, s.session.active = some (id, phase) ∧
        s.session.expire s.now id phase ≠ none := by
  obtain ⟨r, found, early, expired⟩ := stepSession_of_expire h
  refine ⟨r, List.mem_of_find?_eq_some found, by simpa using List.find?_some found, early, ?_⟩
  simp only [stepSession, Session.step, forget] at expired
  split at expired
  · rename_i holder phase hactive
    split at expired
    · rename_i hholder
      refine ⟨phase, hholder ▸ hactive, fun hnone => ?_⟩
      rw [hnone] at expired
      cases expired
    · cases expired
  · cases expired

theorem task_of_read {index : Nat} (h : s.step (.read id index) = some s') :
    ∃ goal o t slots, s.task? id = some (.work goal (.reading o t slots)) ∧
      index < slots.length := by
  simp only [step, stepRead] at h
  split at h
  · rename_i goal o t slots htask
    split at h
    · rename_i r hslot
      exact ⟨goal, o, t, slots, htask, (List.getElem?_eq_some_iff.1 hslot).1⟩
    · cases h
  · cases h

theorem task_of_resume (h : s.step (.resume id) = some s') : ∃ task, s.task? id = some task := by
  cases resumes_of_stepTask h with
  | works task | turns task => exact ⟨_, task⟩

/-! ## When nothing can happen -/

/-- Nothing can happen before the clock moves on. -/
def IsQuiet (s : Agent) : Prop := ∀ move, (∀ t, move ≠ .pass t) → s.step move = none

/-- The calls that have a task, a request in flight or the guard. -/
def callers (s : Agent) : List CallId :=
  s.tasks.map Prod.fst ++ s.requests.map PendingRequest.caller ++
    s.session.active.toList.map Prod.fst

theorem mem_callers_of_task? {task : Task} (h : s.task? id = some task) : id ∈ s.callers :=
  List.mem_append_left _ (List.mem_append_left _
    (List.mem_map.2 ⟨(id, task), mem_tasks_of_task? h, rfl⟩))

theorem mem_callers_of_request {r : PendingRequest} (h : r ∈ s.requests) : r.caller ∈ s.callers :=
  List.mem_append_left _ (List.mem_append_right _ (List.mem_map.2 ⟨r, h, rfl⟩))

theorem mem_callers_of_active {phase : Phase} (h : s.session.active = some (id, phase)) :
    id ∈ s.callers := by
  simp [callers, h]

/-- Whether anything can happen is decided by the moves of the calls that have something. -/
theorem isQuiet_iff : s.IsQuiet ↔ ∀ id ∈ s.callers, ∀ move ∈ s.movesOf id, s.step move = none := by
  constructor
  · intro h id _ move hmove
    refine h move ?_
    rintro t rfl
    simp only [movesOf, List.mem_append] at hmove
    rcases hmove with (hmove | hread) | hresume
    · simp at hmove
    · split at hread <;> simp at hread
    · simp at hresume
  · intro h move hpass
    cases hstep : s.step move with
    | none => rfl
    | some s' =>
        -- the move that can happen is among those of its call
        obtain ⟨id, hid, hmove⟩ : ∃ id ∈ s.callers, move ∈ s.movesOf id := by
          cases move with
          | proceed id =>
              obtain ⟨call, hactive⟩ := active_of_proceed hstep
              exact ⟨id, mem_callers_of_active hactive, by simp [movesOf]⟩
          | answer id =>
              obtain ⟨r, hr, rfl, -⟩ := request_of_answer hstep
              exact ⟨_, mem_callers_of_request hr, by simp [movesOf]⟩
          | expire id =>
              obtain ⟨r, hr, rfl, -⟩ := request_of_expire hstep
              exact ⟨_, mem_callers_of_request hr, by simp [movesOf]⟩
          | read id index =>
              obtain ⟨goal, o, t, slots, htask, hindex⟩ := task_of_read hstep
              exact ⟨id, mem_callers_of_task? htask, by simp [movesOf, htask, hindex]⟩
          | resume id =>
              obtain ⟨task, htask⟩ := task_of_resume hstep
              exact ⟨id, mem_callers_of_task? htask, by simp [movesOf]⟩
          | wake id cause =>
              obtain ⟨sched, next, htask, -⟩ := turn_of_wake hstep
              exact ⟨id, mem_callers_of_task? htask, by cases cause <;> simp [movesOf]⟩
          | pass t => exact absurd rfl (hpass t)
        exact absurd (h id hid move hmove) (by rw [hstep]; exact nofun)

instance (s : Agent) : Decidable s.IsQuiet := decidable_of_iff _ isQuiet_iff.symm

/-! ## When the clock moves on -/

/-- The instant that the clock moves on to. -/
def Act.instant? : Act → Option Instant
  | .move (.pass t) => some t
  | _ => none

/-- The clock moves on only when nothing else can happen, and not beyond the next instant that
something waits for. -/
def Moment.IsTimely (m : Moment) : Prop :=
  ∀ t ∈ m.act.instant?,
    m.before.IsQuiet ∧ t ≤ Instant.last ∧
      ∀ timer ∈ m.before.timers, m.before.now < timer → t ≤ timer

instance (m : Moment) : Decidable m.IsTimely :=
  inferInstanceAs (Decidable (∀ t ∈ m.act.instant?, _))

end Agent

end SecretConfig
