import SecretConfig.Proofs.Session.Expiry
import SecretConfig.Session.Scheduler

set_option autoImplicit false

/-! # What a step of a scheduler can do

`Scheduler.Does` has one rule for each thing a scheduler can do next.
`Scheduler.does_of_wake` opens the end of a wait into these rules, and `Scheduler.does_of_step`
everything else.

The instant for which a scheduler waits is the later one of two: when the policy wants the token
renewed, and when the next attempt may start (`Scheduler.due`). It stops when the clock ends
before that instant (`Scheduler.look_eq`). -/

namespace SecretConfig

namespace Scheduler

/-- What a scheduler does next, and what it asks of the session. -/
inductive Does (s : Scheduler) (now : Instant) (session : Session) :
    Scheduler → Option Call → Prop
  /-- It looks at the published state and starts to wait. -/
  | look (phase : s.phase = .looking) : Does s now session (s.look session) none
  /-- It was cancelled and stops. -/
  | stop {due : Option Instant} (phase : s.phase = .waiting due) (cancelled : s.cancelled = true) :
      Does s now session { s with phase := .stopped } none
  /-- The published state has changed while it waited. -/
  | notice {due : Option Instant} (phase : s.phase = .waiting due)
      (changed : s.seen ≠ session.version) : Does s now session { s with phase := .looking } none
  /-- It is time for an attempt. -/
  | fire {due : Instant} (phase : s.phase = .waiting (some due)) (time : due ≤ now) :
      Does s now session (s.fire now session) (some .renew)
  /-- The renewed lease is a last one. -/
  | relogin {before : Option Duration} {t : Token}
      (phase : s.phase = .renewing before (some (.token t)))
      (last : isLastLease s.policy before t = true) :
      Does s now session { s with phase := .relogging none } (some .login)
  /-- The attempt has renewed the token, and that is all. -/
  | settle {before : Option Duration} {t : Token}
      (phase : s.phase = .renewing before (some (.token t)))
      (long : isLastLease s.policy before t = false) :
      Does s now session { s with phase := .looking } none
  /-- The attempt has ended otherwise. -/
  | finish {reply : Reply} (phase : s.phase = .relogging (some reply) ∨
        ∃ before, s.phase = .renewing before (some reply) ∧ ∀ t, reply ≠ .token t)
      (sound : ∀ fault, reply ≠ .crashed fault) :
      Does s now session { s with phase := .looking } none
  | crash {fault : ClockFault} (phase : s.phase = .relogging (some (.crashed fault)) ∨
        ∃ before, s.phase = .renewing before (some (.crashed fault))) :
      Does s now session { s with phase := .stopped } none

variable {s s' : Scheduler} {now : Instant} {session : Session} {call : Option Call}
  {cause : Cause}

/-- What follows from each of the causes that end a wait. -/
inductive Wakes (s : Scheduler) (now : Instant) (session : Session) :
    Cause → Scheduler → Option Call → Prop
  | cancelled {due : Option Instant} (phase : s.phase = .waiting due)
      (cancelled : s.cancelled = true) :
      Wakes s now session .cancelled { s with phase := .stopped } none
  | changed {due : Option Instant} (phase : s.phase = .waiting due)
      (changed : s.seen ≠ session.version) :
      Wakes s now session .changed { s with phase := .looking } none
  | timer {due : Instant} (phase : s.phase = .waiting (some due)) (time : due ≤ now) :
      Wakes s now session .timer (s.fire now session) (some .renew)

theorem wakes_of_wake (h : s.wake now session cause = some (s', call)) :
    s.Wakes now session cause s' call := by
  unfold wake at h
  split at h
  · rename_i due phase
    simp only [Option.ite_none_right_eq_some, Option.some.injEq, Prod.mk.injEq] at h
    obtain ⟨cancelled, rfl, rfl⟩ := h
    exact .cancelled phase cancelled
  · rename_i due phase
    simp only [Option.ite_none_right_eq_some, Option.some.injEq, Prod.mk.injEq] at h
    obtain ⟨changed, rfl, rfl⟩ := h
    exact .changed phase changed
  · rename_i due phase
    simp only [Option.ite_none_right_eq_some, Option.some.injEq, Prod.mk.injEq] at h
    obtain ⟨time, rfl, rfl⟩ := h
    exact .timer phase time
  · cases h

/-- Only a wait ends. -/
theorem Wakes.waiting (h : s.Wakes now session cause s' call) : ∃ due, s.phase = .waiting due := by
  cases h with
  | cancelled phase | changed phase | timer phase => exact ⟨_, phase⟩

theorem does_of_wake (h : s.wake now session cause = some (s', call)) :
    s.Does now session s' call := by
  cases wakes_of_wake h with
  | cancelled phase cancelled => exact .stop phase cancelled
  | changed phase changed => exact .notice phase changed
  | timer phase time => exact .fire phase time

theorem does_of_step (h : s.step session = some (s', call)) (now : Instant) :
    s.Does now session s' call := by
  cases hphase : s.phase with
  | looking =>
      simp only [step, hphase] at h
      obtain ⟨rfl, rfl⟩ := Prod.mk.inj (Option.some.inj h)
      exact .look hphase
  | waiting due => simp [step, hphase] at h
  | renewing before reply =>
      cases reply with
      | none => simp [step, hphase] at h
      | some reply =>
          cases reply with
          | token t =>
              simp only [step, hphase] at h
              split at h
              · rename_i hlast
                obtain ⟨rfl, rfl⟩ := Prod.mk.inj (Option.some.inj h)
                exact .relogin hphase hlast
              · rename_i hlong
                obtain ⟨rfl, rfl⟩ := Prod.mk.inj (Option.some.inj h)
                exact .settle hphase (by simpa using hlong)
          | failed e | closed =>
              simp only [step, hphase] at h
              obtain ⟨rfl, rfl⟩ := Prod.mk.inj (Option.some.inj h)
              exact .finish (.inr ⟨before, hphase, nofun⟩) nofun
          | crashed fault =>
              simp only [step, hphase] at h
              obtain ⟨rfl, rfl⟩ := Prod.mk.inj (Option.some.inj h)
              exact .crash (.inr ⟨before, hphase⟩)
  | relogging reply =>
      cases reply with
      | none => simp [step, hphase] at h
      | some reply =>
          cases reply with
          | token t | failed e | closed =>
              simp only [step, hphase] at h
              obtain ⟨rfl, rfl⟩ := Prod.mk.inj (Option.some.inj h)
              exact .finish (.inl hphase) nofun
          | crashed fault =>
              simp only [step, hphase] at h
              obtain ⟨rfl, rfl⟩ := Prod.mk.inj (Option.some.inj h)
              exact .crash (.inl hphase)
  | stopped => simp [step, hphase] at h

theorem Does.ne_stopped (h : s.Does now session s' call) : s.phase ≠ .stopped := by
  intro stopped
  cases h with
  | look phase | stop phase | notice phase | fire phase | relogin phase | settle phase =>
      exact nomatch stopped.symm.trans phase
  | finish phase =>
      rcases phase with phase | ⟨before, phase, -⟩ <;> exact nomatch stopped.symm.trans phase
  | crash phase =>
      rcases phase with phase | ⟨before, phase⟩ <;> exact nomatch stopped.symm.trans phase

/-- A scheduler asks for nothing but renewals and logins. -/
theorem Does.call_eq {c : Call} (h : s.Does now session s' (some c)) : c = .renew ∨ c = .login := by
  cases h with
  | fire => exact .inl rfl
  | relogin => exact .inr rfl

/-! ## The instant of the next attempt -/

/-- When the next attempt at a token starts, if the clock goes that far. -/
def due (s : Scheduler) (t : Token) : Instant :=
  let wanted := t.issuedAt + max (t.lease - s.policy.threshold) s.policy.minInterval
  match s.lastAttempt with
  | none => wanted
  | some previous => max wanted (previous + s.policy.retryInterval)

theorem fireAt_eq {state : SessionState} {t : Token} (token : state.token? = some t)
    (enabled : s.policy.enabled = true) (renewable : t.isRenewable = true) :
    s.fireAt state =
      if s.due t ≤ Instant.last then .ok (some (s.due t)) else .error .overflow := by
  unfold fireAt due RenewalPolicy.nextRenewalAt Instant.after
  simp only [token, enabled, renewable, Bool.and_self, if_true]
  generalize t.issuedAt + max (t.lease - s.policy.threshold) s.policy.minInterval = wanted
  by_cases hwanted : wanted ≤ Instant.last
  · cases s.lastAttempt with
    | none => simp [hwanted, Except.map]
    | some previous =>
        by_cases hnext : previous + s.policy.retryInterval ≤ Instant.last
        · simp only [hwanted, hnext, if_true, Except.map, Nat.max_le, and_self]
        · simp only [hwanted, hnext, if_true, if_false, Except.map, Nat.max_le, and_false]
  · cases s.lastAttempt with
    | none => simp [hwanted, Except.map]
    | some previous => simp only [hwanted, if_false, Except.map, Nat.max_le, false_and]

/-- A scheduler that looks waits for the next attempt, or stops if the clock ends before. -/
theorem look_eq (s : Scheduler) {session : Session} {t : Token}
    (token : session.state.token? = some t) (enabled : s.policy.enabled = true)
    (renewable : t.isRenewable = true) :
    s.look session = { s with
      seen := session.version
      phase := if s.due t ≤ Instant.last then .waiting (some (s.due t)) else .stopped } := by
  unfold look
  rw [fireAt_eq token enabled renewable]
  by_cases hle : s.due t ≤ Instant.last
  · rw [if_pos hle, if_pos hle]
  · rw [if_neg hle, if_neg hle]

/-- The next attempt starts after the issue of the token, and leaves some slack before the end
of its lease, if both the threshold and the lease leave it. -/
theorem due_bounds (s : Scheduler) {t : Token} {slack : Duration}
    (threshold : slack < s.policy.threshold)
    (lease : s.policy.retryInterval + slack < t.lease)
    (spaced : ∀ previous, s.lastAttempt = some previous → previous ≤ t.issuedAt) :
    t.issuedAt ≤ s.due t ∧ s.due t + slack < t.issuedAt + t.lease := by
  have hinterval : s.policy.minInterval ≤ s.policy.retryInterval := Nat.le_max_left _ _
  -- each of the instants of which `due` is the latest has the slack left
  unfold due
  cases hlast : s.lastAttempt with
  | none =>
      dsimp only
      lia
  | some previous =>
      have hprevious := spaced previous hlast
      dsimp only
      lia

end Scheduler

end SecretConfig
