import SecretConfig.Proofs.Session.Expiry
import SecretConfig.Proofs.Session.Line

set_option autoImplicit false

/-! # What a call for a token gets

A call for a token looks at the published token twice: when it is made, and again when it holds
the guard. The first look needs no guard, so a good token is handed out at once whoever holds it
(`step_handOut`). Otherwise the call waits in line, does nothing until the guard is its own
(`Does.caller_of_event`), and by then everybody who was in line before it is over
(`Run.over_of_active`). The second look finds what those have left: a good token is returned
(`step_share`), and only where there is none a login is sent (`step_sendLogin`).

`Run.serves_getToken` puts these together with the fact that whatever such a call returns lasts
at that instant. A token whose end the clock cannot represent is neither good nor expired; both
looks crash on it. -/

namespace SecretConfig

/-- The call that the event is of. -/
def Event.caller? : Event → Option CallId
  | .loginSent id _ | .renewalSent id _ | .revocationSent id _ | .returned id _ => some id
  | .published _ | .loginEnded _ | .renewalEnded _ => none

namespace Session

variable {strategy : Strategy} {timeout : Duration} {history past between : List Moment}
  {m : Moment} {s s' : Session} {now : Instant} {l : Label} {events : List Event} {id : CallId}
  {t : Token}

/-! ## The two looks -/

theorem step_handOut (token : s.state.token? = some t) (good : t.isExpired now = .ok false)
    (id : CallId) : s.step now (.begin id .getToken) = some (s, [.returned id (.token t)]) := by
  have husable : s.usable now = .ok (some t) := usable_eq_some_iff.2 ⟨token, good⟩
  simp [step, begin, husable]

theorem step_ask (none : s.usable now = .ok none) (id : CallId) :
    s.step now (.begin id .getToken) = some (s.acquire id .getToken, []) := by
  simp [step, begin, none]

theorem step_share (holder : s.active = some (id, .granted .getToken))
    (token : s.state.token? = some t) (good : t.isExpired now = .ok false) :
    s.step now (.proceed id) = some (s.release, [.returned id (.token t)]) := by
  have husable : s.usable now = .ok (some t) := usable_eq_some_iff.2 ⟨token, good⟩
  simp [step, holder, proceed, husable, finish]

theorem step_sendLogin (holder : s.active = some (id, .granted .getToken))
    (none : s.usable now = .ok none) :
    ∃ s' events, s.step now (.proceed id) = some (s', events) ∧ .loginSent id false ∈ events ∧
      s'.active = some (id, .loggingIn false Option.none (now + s.timeout)) := by
  simp only [step, holder, proceed, none, if_true]
  cases htoken : s.state.token? with
  | none =>
      refine ⟨_, _, rfl, ?_, ?_⟩
      · exact List.mem_singleton_self _
      · rw [← htoken]
  | some t =>
      refine ⟨_, _, rfl, ?_, ?_⟩
      · simp [startLogin]
      · rfl

/-! ## What the events of a step say -/

/-- Apart from a call that is over as soon as it is made, only the holder of the guard does
anything. -/
theorem Does.caller_of_event (h : s.Does now l s' events) {e : Event} (he : e ∈ events)
    (caller : e.caller? = some id) :
    l = .begin id .getToken ∨ ∃ phase, s.active = some (id, phase) := by
  have of_holder {x : CallId} {phase : Phase} (holder : s.active = some (x, phase))
      (hall : ∀ e ∈ events, ∀ y, e.caller? = some y → x = y) :
      l = .begin id .getToken ∨ ∃ phase, s.active = some (id, phase) := by
    obtain rfl := hall e he id caller
    exact .inr ⟨phase, holder⟩
  cases h with
  | handOut | crashAtOnce =>
      obtain rfl := List.mem_singleton.1 he
      obtain rfl := Option.some.inj caller
      exact .inl rfl
  | ask | dropHolder | dropWaiting => exact nomatch he
  | share holder | crash holder | lapse holder | sendLogin holder | forceLogin holder
  | noSession holder | skipRenewal holder | sendRenewal holder | closeRevoking holder
  | close holder | logIn holder | supersede holder | failLogin _ holder | renew holder
  | keep _ holder | lose _ holder | crashRenewing _ holder | endRevocation _ holder =>
      exact of_holder holder (by simp [Event.caller?])

/-- A login is sent with the guard in hand: for a call for a token only when there is no good
token, and else because it was asked for. -/
theorem Does.loginSent (h : s.Does now l s' events) {forced : Bool}
    (sent : .loginSent id forced ∈ events) :
    l = .proceed id ∧
      (forced = false ∧ s.active = some (id, .granted .getToken) ∧ s.usable now = .ok none ∨
        forced = true ∧ s.active = some (id, .granted .login)) := by
  cases h with
  | lapse holder token ended =>
      simp only [List.mem_cons, reduceCtorEq, Event.loginSent.injEq, List.not_mem_nil, false_or,
        or_false] at sent
      obtain ⟨rfl, rfl⟩ := sent
      refine ⟨rfl, .inl ⟨rfl, holder, usable_eq_none_iff.2 ?_⟩⟩
      intro u hu
      obtain rfl := Option.some.inj (token.symm.trans hu)
      exact ended
  | sendLogin holder token =>
      simp only [List.mem_singleton, Event.loginSent.injEq] at sent
      obtain ⟨rfl, rfl⟩ := sent
      refine ⟨rfl, .inl ⟨rfl, holder, usable_eq_none_iff.2 ?_⟩⟩
      intro u hu
      exact nomatch token.symm.trans hu
  | forceLogin holder =>
      simp only [List.mem_singleton, Event.loginSent.injEq] at sent
      obtain ⟨rfl, rfl⟩ := sent
      exact ⟨rfl, .inr ⟨rfl, holder⟩⟩
  | _ => simp at sent

/-- What a call for a token returns lasts at that instant. -/
theorem Does.lasts_of_returned (h : s.Does now l s' events)
    (call : ∀ phase, s.active = some (id, phase) → phase.call = .getToken)
    (returned : .returned id (.token t) ∈ events) : t.Lasts now := by
  cases h with
  | handOut good | share _ good =>
      simp only [List.mem_singleton, Event.returned.injEq, Reply.token.injEq] at returned
      obtain ⟨rfl, rfl⟩ := returned
      exact Token.lasts_of_isExpired_eq_false (usable_eq_some_iff.1 good).2
  | skipRenewal holder =>
      simp only [List.mem_singleton, Event.returned.injEq] at returned
      obtain ⟨rfl, -⟩ := returned
      exact nomatch call _ holder
  | logIn =>
      rename_i g _ _
      simp only [List.mem_cons, reduceCtorEq, Event.returned.injEq, Reply.token.injEq,
        List.not_mem_nil, false_or, or_false] at returned
      obtain ⟨-, rfl⟩ := returned
      have hlasts := (s.strategy.accept g now).lasts_issuedAt
      rwa [Strategy.accept_issuedAt] at hlasts
  | renew =>
      simp only [List.mem_cons, reduceCtorEq, Event.returned.injEq, Reply.token.injEq,
        List.not_mem_nil, false_or, or_false] at returned
      obtain ⟨-, rfl⟩ := returned
      exact Token.lasts_issuedAt _
  | endRevocation _ holder =>
      -- the reply of a login that had a token revoked was settled before
      simp only [List.mem_singleton, Event.returned.injEq] at returned
      obtain ⟨rfl, rfl⟩ := returned
      exact nomatch call _ holder
  | _ => simp at returned

/-- Whoever holds the guard at a moment is there for the call of the moment. -/
theorem Run.call_of_moment (run : Run strategy timeout (m :: past) s) {call : Call}
    (given : callOf (m :: past) id = some call) (phase : Phase)
    (holder : m.before.active = some (id, phase)) : phase.call = call := by
  have hline : (id, phase.call) ∈ m.before.line := by simp [line, holder]
  cases run with
  | next run step clock unused =>
      rw [callOf_of_not_begins (not_begins_of_mem_line unused hline)] at given
      exact Option.some.inj ((run.callOf_of_active holder).symm.trans given)

/-- A call that has to ask for the guard ends nobody's call. -/
theorem Run.not_ends_of_ask (run : Run strategy timeout (m :: past) s)
    (label : m.label = .begin id .getToken) (none : m.before.usable m.now = .ok none) (x : CallId) :
    ¬ Ends m.label m.events x := by
  cases run with
  | next run step clock unused =>
      obtain rfl := label
      have hstep := step.symm.trans (step_ask none id)
      obtain ⟨-, rfl⟩ := Prod.mk.inj (Option.some.inj hstep)
      simp [Ends]

/-! ## Every run -/

/-- **A call for a token never gets an expired one, and never waits without need.** In every run:

* a token that such a call returns lasts at the instant of its return;
* while the published token is good the call gets it at once, whoever holds the guard and
  whatever is in flight;
* otherwise it joins the line. It does nothing until it holds the guard, and then all who were in
  line before it are over, a renewal or login in flight among them;
* with the guard in hand it returns the token that is published then, if it is good, and sends a
  login if there is none;
* no call for a token sends a login in any other situation. -/
theorem Run.serves_getToken (run : Run strategy timeout history s) :
    (∀ m past, m :: past <:+ history → ∀ id t, callOf (m :: past) id = some .getToken →
      .returned id (.token t) ∈ m.events → t.Lasts m.now) ∧
    (∀ now id t, s.state.token? = some t → t.isExpired now = .ok false →
      s.step now (.begin id .getToken) = some (s, [.returned id (.token t)])) ∧
    (∀ now id, s.usable now = .ok none →
      s.step now (.begin id .getToken) = some (s.acquire id .getToken, [])) ∧
    (∀ between m past id, history = between ++ m :: past → m.label = .begin id .getToken →
      m.before.usable m.now = .ok none → (∀ v ∈ between, ¬ Ends v.label v.events id) →
      (∀ v ∈ between, (∀ phase, v.before.active ≠ some (id, phase)) →
        ∀ e ∈ v.events, e.caller? ≠ some id) ∧
      ∀ phase, s.active = some (id, phase) →
        ∀ x ∈ m.before.callers, ∃ v ∈ between, Ends v.label v.events x) ∧
    (∀ now id, s.active = some (id, .granted .getToken) →
      (∀ t, s.state.token? = some t → t.isExpired now = .ok false →
        s.step now (.proceed id) = some (s.release, [.returned id (.token t)])) ∧
      (s.usable now = .ok none →
        ∃ s' events, s.step now (.proceed id) = some (s', events) ∧
          .loginSent id false ∈ events ∧
          s'.active = some (id, .loggingIn false none (now + s.timeout)))) ∧
    (∀ m past, m :: past <:+ history → ∀ id forced, callOf (m :: past) id = some .getToken →
      .loginSent id forced ∈ m.events →
      m.before.active = some (id, .granted .getToken) ∧ m.before.usable m.now = .ok none) := by
  refine ⟨?_, ?_, ?_, ?_, ?_, ?_⟩
  · intro m past hm id t given returned
    have after := run.of_suffix hm
    exact after.of_cons.2.lasts_of_returned (after.call_of_moment given) returned
  · intro now id t token good
    exact step_handOut token good id
  · intro now id none
    exact step_ask none id
  · intro between m past id hhistory label none on
    subst hhistory
    have hends := (run.of_suffix (List.suffix_append between _)).not_ends_of_ask label none
    have hon (v : Moment) (hv : v ∈ m :: between) : ¬ Ends v.label v.events id := by
      rcases List.mem_cons.1 hv with rfl | hv
      · exact hends id
      · exact on v hv
    constructor
    · intro v hv waiting e he caller
      obtain ⟨later, earlier, rfl⟩ := List.append_of_mem hv
      have hsuffix : v :: (earlier ++ m :: past) <:+ (later ++ v :: earlier) ++ m :: past :=
        ⟨later, by simp⟩
      have here := run.of_suffix hsuffix
      rcases here.of_cons.2.caller_of_event he caller with hbegin | ⟨phase, hp⟩
      · -- the identity is in line, so it is not given to another call
        have hearlier : m :: earlier ⊆ m :: (later ++ v :: earlier) :=
          List.cons_subset_cons m fun w hw =>
            List.mem_append_right later (List.mem_cons_of_mem v hw)
        have hlive : Live (earlier ++ m :: past) id :=
          live_of_not_ends (label ▸ rfl) fun w hw => hon w (hearlier hw)
        exact here.not_begins_of_live hlive (hbegin ▸ rfl)
      · exact waiting phase hp
    · intro phase holder x hx
      obtain ⟨v, hv, hover⟩ := run.over_of_active label hx hon holder
      rcases List.mem_cons.1 hv with rfl | hv
      · exact absurd hover (hends x)
      · exact ⟨v, hv, hover⟩
  · intro now id holder
    exact ⟨fun t token good => step_share holder token good, step_sendLogin holder⟩
  · intro m past hm id forced given sent
    have after := run.of_suffix hm
    obtain ⟨-, ⟨-, holder, none⟩ | ⟨-, holder⟩⟩ := after.of_cons.2.loginSent sent
    · exact ⟨holder, none⟩
    · exact nomatch after.call_of_moment given _ holder

/-- A session is renewed twice. During the first renewal the token lasts, and a caller gets it at
once. During the second it runs out, and another caller waits. -/
def waitingHistory : List Moment :=
  replay (.userpass "userpass" "user" ⟨"password"⟩) 500 []
    [(0, .begin 0 .getToken), (0, .proceed 0), (0, .answer 0 (.granted ⟨"a", 1000, true⟩)),
      (400, .begin 1 .renew), (400, .proceed 1), (450, .begin 2 .getToken),
      (500, .answer 1 (.granted ⟨"", 1000, true⟩)),
      (1400, .begin 3 .renew), (1400, .proceed 3), (1600, .begin 4 .getToken),
      (1700, .answer 3 (.granted ⟨"", 300, true⟩)), (1800, .proceed 4)]

theorem serves_getToken_waitingHistory :
    ∃ m v u before, waitingHistory = m :: v :: u :: before ∧
      u.label = .begin 4 .getToken ∧ u.before.usable u.now = .ok none ∧
      Ends v.label v.events 3 ∧
      m.events = [.returned 4 (.token ⟨⟨"a"⟩, 300, true, 1700, .login⟩)] ∧
      Token.Lasts ⟨⟨"a"⟩, 300, true, 1700, .login⟩ m.now := by
  have run : Run (.userpass "userpass" "user" ⟨"password"⟩) 500 waitingHistory
      (latest _ 500 waitingHistory) := Run.fresh.replay _
  refine ⟨_, _, _, _, rfl, rfl, rfl, ?_, rfl, ?_⟩
  · -- the renewal holds the guard when the caller asks, and the caller holds it afterwards
    obtain ⟨-, -, -, line, -⟩ := run.of_cons.1.serves_getToken
    obtain ⟨-, done⟩ := line [_] _ _ 4 rfl rfl rfl (by decide)
    obtain ⟨v, hv, hends⟩ := done (.granted .getToken) rfl 3 (by decide)
    obtain rfl := List.mem_singleton.1 hv
    exact hends
  · obtain ⟨lasts, -⟩ := run.serves_getToken
    exact lasts _ _ (List.suffix_refl _) 4 _ rfl List.mem_cons_self

end Session

end SecretConfig
