import SecretConfig.Proofs.Session.Expiry
import SecretConfig.Proofs.Session.Steps

set_option autoImplicit false

/-! # The steps of an attempt

An attempt to renew, and the login that may follow it, in a session in which nobody waits for
the guard: which step each of them takes next, and where it leads. Unlike the rules of
`Session.Does`, which say what a step may have done, these equations say that the step is
possible. -/

namespace SecretConfig

namespace Session

variable {s : Session} {id : CallId} {t : Token}

/-- A call for a token never goes beyond its first step while the lease lasts. -/
theorem step_getToken {now : Instant} (token : s.state.token? = some t) (lasts : t.Lasts now)
    (id : CallId) :
    ∃ reply, s.step now (.begin id .getToken) = some (s, [.returned id reply]) := by
  cases hexpired : t.isExpired now with
  | error fault =>
      exact ⟨.crashed fault, by simp [step, begin, usable, token, hexpired, Except.map]⟩
  | ok expired =>
      cases expired with
      | true =>
          have hended := (Token.isExpired_eq_true_iff.1 hexpired).1
          exact absurd lasts (Token.hasEnded_iff_not_lasts.1 hended)
      | false => exact ⟨.token t, by simp [step, begin, usable, token, hexpired, Except.map]⟩

/-- A call that needs the guard gets it at once when it is free. -/
theorem step_begin (now : Instant) (id : CallId) (free : s.active = none) {call : Call}
    (other : call ≠ .getToken) :
    s.step now (.begin id call) = some ({ s with active := some (id, .granted call) }, []) := by
  cases call with
  | getToken => exact absurd rfl other
  | login | renew | shutdown => simp [step, begin, acquire, free]

theorem step_renew (now : Instant) (holder : s.active = some (id, .granted .renew))
    (token : s.state.token? = some t) (renewable : t.isRenewable = true) :
    s.step now (.proceed id) =
      some ({ s.publish (.renewing t) with active := some (id, .renewing t (now + s.timeout)) },
        [.published (.renewing t), .renewalSent id t]) := by
  simp [step, holder, proceed, token, renewable]

theorem step_login (now : Instant) (holder : s.active = some (id, .granted .login)) :
    s.step now (.proceed id) =
      some ({ s with active := some (id, .loggingIn true s.state.token? (now + s.timeout)) },
        [.loginSent id true]) := by
  simp [step, holder, proceed, startLogin]

theorem step_renewed (now : Instant) {deadline : Instant}
    (holder : s.active = some (id, .renewing t deadline)) (alone : s.queue = []) (g : Grant) :
    let t' := t.renewed g.lease g.renewable now
    s.step now (.answer id (.granted g)) =
      some ({ s.publish (.valid t') with active := none },
        [.published (.valid t'), .renewalEnded true, .returned id (.token t')]) := by
  simp [step, holder, answer, renewed, finish, release, alone]

/-- A login succeeded, and the token that it replaced is not to be revoked. -/
theorem step_loggedIn {now : Instant} {forced : Bool} {old : Token} {deadline : Instant}
    (holder : s.active = some (id, .loggingIn forced (some old) deadline)) (alone : s.queue = [])
    {g : Grant} (keep : ¬ (old.origin = .login ∧ old.value ≠ (s.strategy.accept g now).value)) :
    let t' := s.strategy.accept g now
    s.step now (.answer id (.granted g)) =
      some ({ s.publish (.valid t') with active := none },
        [.published (.valid t'), .loginEnded true, .returned id (.token t')]) := by
  simp [step, holder, answer, loggedIn, if_neg keep, finish, release, alone]

theorem step_superseding {now : Instant} {forced : Bool} {old : Token} {deadline : Instant}
    (holder : s.active = some (id, .loggingIn forced (some old) deadline)) {g : Grant}
    (revoke : old.origin = .login ∧ old.value ≠ (s.strategy.accept g now).value) :
    let t' := s.strategy.accept g now
    s.step now (.answer id (.granted g)) =
      some ({ s.publish (.valid t') with
          active := some (id, .revoking old (now + s.timeout) (.token t')) },
        [.published (.valid t'), .loginEnded true, .revocationSent id old]) := by
  simp [step, holder, answer, loggedIn, if_pos revoke, startRevocation]

theorem step_revoked (now : Instant) {deadline : Instant} {reply : Reply}
    (holder : s.active = some (id, .revoking t deadline reply)) (alone : s.queue = []) :
    s.step now (.answer id .revoked) = some ({ s with active := none }, [.returned id reply]) := by
  simp [step, holder, answer, finish, release, alone]

end Session

end SecretConfig
