import SecretConfig.Proofs.Agent.Tasks

set_option autoImplicit false

/-! # What waits goes on

A move may be open only once the clock has moved on: an answer takes its time, and so does giving
up on it. `Agent.MovesOn` says that one of some moves is open now or will be.

Nobody is left waiting at the session: as long as a call is in line, the holder of the guard goes
on (`Traced.line_movesOn`). Neither is a build: all of its reads have ended, or one of them ends
(`reading_movesOn`). Who moves first is left open. -/

namespace SecretConfig

namespace Session

/-- A store answers what the holder of the guard has asked for. -/
theorem isSome_answer (s : Session) (now : Instant) (id : CallId) (store : Store) {phase : Phase}
    {login request : SessionRequest} (asked : phase.request? login = some request)
    (isLogin : (∃ flow, login = .login flow) ∨ ∃ fault, login = .unsent fault) :
    (s.answer now id phase (store.answer request).1).isSome := by
  cases phase with
  | granted call => exact nomatch asked
  | loggingIn forced superseded deadline =>
      obtain rfl := Option.some.inj asked
      rcases isLogin with ⟨flow, rfl⟩ | ⟨fault, rfl⟩
      · simp only [Store.answer]
        cases (store.login flow).1 <;> rfl
      · rfl
  | renewing t deadline =>
      obtain rfl := Option.some.inj asked
      simp only [Store.answer]
      cases (store.renew t).1 <;> rfl
  | revoking t deadline reply =>
      obtain rfl := Option.some.inj asked
      simp only [Store.answer]
      obtain ⟨answer, store'⟩ := store.revoke t
      cases answer <;> rfl

/-- A holder that has asked for something gives up on it some time. -/
theorem isSome_expire (s : Session) (id : CallId) {phase : Phase} {login request : SessionRequest}
    (asked : phase.request? login = some request) :
    ∃ deadline, ∀ now, deadline ≤ now → (s.expire now id phase).isSome := by
  cases phase with
  | granted call => exact nomatch asked
  | loggingIn _ _ deadline | renewing _ deadline | revoking _ deadline _ =>
      refine ⟨deadline, fun now ended => ?_⟩
      simp only [expire, if_pos ended, Option.isSome_some]

end Session

namespace Agent

variable {start s : Agent} {id : CallId} {trace : List Session.Moment}

/-- One of the moves is open, now or when the clock has moved on. -/
def MovesOn (s : Agent) (moves : List Move) : Prop :=
  ∃ move ∈ moves, ∃ now, s.now ≤ now ∧ (({ s with now } : Agent).step move).isSome

theorem login_cases (s : Agent) :
    (∃ flow, s.login = .login flow) ∨ ∃ fault, s.login = .unsent fault := by
  unfold login loginRequest
  split
  · exact .inl ⟨_, rfl⟩
  · exact .inr ⟨_, rfl⟩

/-- Who has asked the store for something goes on with the answer, or gives up. -/
theorem asked_movesOn {phase : Phase} {request : SessionRequest} {r : PendingRequest}
    (holder : s.session.active = some (id, phase)) (asked : phase.request? s.login = some request)
    (found : (s.requests.find? fun r => r.caller = id) = some r) (same : r.request = request) :
    s.MovesOn [.answer id, .expire id] := by
  obtain ⟨deadline, givesUp⟩ := s.session.isSome_expire id asked
  -- at its deadline the holder has the answer, or gives up on it
  by_cases ready : r.readyAt ≤ max s.now deadline
  · refine ⟨.answer id, by simp, max s.now deadline, Nat.le_max_left _ _, ?_⟩
    have answered := s.session.isSome_answer (max s.now deadline) id s.store asked s.login_cases
    rw [← same] at answered
    simpa [step, stepAnswer, found, ready, stepSession, Session.step, forget, holder] using answered
  · refine ⟨.expire id, by simp, max s.now deadline, Nat.le_max_left _ _, ?_⟩
    have given := givesUp (max s.now deadline) (Nat.le_max_right _ _)
    simpa [step, stepExpire, found, ready, stepSession, Session.step, forget, holder] using given

/-- **Nobody is left waiting at the session.** As long as a call is in line, the holder of the guard
goes on. -/
theorem Traced.line_movesOn (h : Traced start trace none s) {e : CallId × Call}
    (waits : e ∈ s.session.line) :
    ∃ holder, s.MovesOn [.proceed holder, .answer holder, .expire holder] := by
  obtain ⟨⟨id, phase⟩, hactive⟩ : ∃ holder, s.session.active = some holder := by
    refine Option.isSome_iff_exists.1 (Option.isSome_iff_ne_none.2 fun hnone => ?_)
    rw [Session.line, hnone, h.run.coherent.queue_nil hnone] at waits
    cases waits
  refine ⟨id, ?_⟩
  cases hasked : phase.request? s.login with
  | none =>
      cases phase with
      | granted call =>
          refine ⟨.proceed id, by simp, s.now, Nat.le_refl _, ?_⟩
          simp [step, stepSession, Session.step, hactive]
      | loggingIn | renewing | revoking => cases hasked
  | some request =>
      -- the request in flight is the one of the holder
      have hsent : s.sent = [(id, request)] := by
        simp [h.sent, Session.inFlight, hactive, hasked]
      obtain ⟨r, hrequests, hr⟩ := List.map_eq_singleton_iff.1 hsent
      obtain ⟨rfl, rfl⟩ := Prod.mk.inj hr
      have found : (s.requests.find? fun r' => r'.caller = r.caller) = some r := by
        simp [hrequests]
      obtain ⟨move, hmove, goes⟩ := asked_movesOn hactive hasked found rfl
      exact ⟨move, List.mem_cons_of_mem _ hmove, goes⟩

/-- A build whose reads are sent goes on: it is done with all of them, or one of them ends. -/
theorem reading_movesOn {goal : Goal} {o : BuildOptions} {t : Token} {slots : List ReadSlot}
    (ht : s.task? id = some (.work goal (.reading o t slots))) :
    s.MovesOn [.resume id] ∨ ∃ index, s.MovesOn [.read id index] := by
  cases hall : slots.all fun r => r.outcome.isSome with
  | true =>
      refine .inl ⟨.resume id, by simp, s.now, Nat.le_refl _, ?_⟩
      simp [step, stepTask, ht, resumeWork, hall]
  | false =>
      obtain ⟨r, hr, hnone⟩ := List.all_eq_false.1 hall
      obtain ⟨index, hindex⟩ := List.mem_iff_getElem?.1 hr
      refine .inr ⟨index, .read id index, by simp, max s.now r.readyAt, Nat.le_max_left _ _, ?_⟩
      have htask : ({ s with now := max s.now r.readyAt } : Agent).task? id =
          some (.work goal (.reading o t slots)) := ht
      have ready : r.readyAt ≤ max s.now r.readyAt := Nat.le_max_right _ _
      simp [step, stepRead, htask, hindex, hnone, answerTo, ready]

end Agent

end SecretConfig
