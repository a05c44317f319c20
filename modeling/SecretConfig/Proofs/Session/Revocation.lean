import SecretConfig.Proofs.Session.Retention
import SecretConfig.Proofs.Session.Serving

set_option autoImplicit false

/-! # What is revoked

A session receives tokens from the store and asks it to revoke some of them. `Moment.TokenMove`
says what a step does about tokens, in seven ways, with what it receives and what it sends for
revocation; every fact below goes through these.

* A token that came from a login has a value that the store issued for one, and a configured token
  is never sent for revocation (`Run.sound`).
* A value that was sent for revocation is not the published one, so it is not handed out and not
  sent again, as long as the store does not issue it twice (`Run.ne_of_revoked`, `Run.revoked_nodup`).
* Whatever a session received from a login is published, was sent for revocation, or was given up
  when its lease had ended, unless the session was shut down without revoking (`Run.accounts`). -/

namespace SecretConfig

/-- The token that the store is asked to revoke. -/
def Event.revoked? : Event → Option Token
  | .revocationSent _ t => some t
  | _ => none

theorem Strategy.accept_origin (strategy : Strategy) (g : Grant) (now : Instant) :
    (strategy.accept g now).origin = .static ∧
        strategy = .token (strategy.accept g now).value ∨
      (strategy.accept g now).origin = .login ∧ (∀ v, strategy ≠ .token v) ∧
        (strategy.accept g now).value.value = g.value := by
  cases strategy with
  | token v => exact .inl ⟨rfl, rfl⟩
  | appRole | kubernetes | userpass | cert => exact .inr ⟨rfl, nofun, rfl⟩

namespace Session

variable {strategy : Strategy} {timeout : Duration} {history past : List Moment} {m : Moment}
  {s s' : Session} {now : Instant} {l : Label} {events : List Event} {id : CallId} {t u : Token}

namespace Moment

/-- The value that the store issues: it grants the login in flight. -/
def issued? (m : Moment) : Option String :=
  match m.before.active, m.label with
  | some (_, .loggingIn _ _ _), .answer _ (.granted g) => some g.value
  | _, _ => none

/-- The token that the session receives: the store grants the login or the renewal in flight. -/
def received? (m : Moment) : Option Token :=
  match m.before.active, m.label with
  | some (_, .loggingIn _ _ _), .answer _ (.granted g) => some (m.before.strategy.accept g m.now)
  | some (_, .renewing t _), .answer _ (.granted g) => some (t.renewed g.lease g.renewable m.now)
  | _, _ => none

/-- The tokens that the store is asked to revoke. -/
def revoked (m : Moment) : List Token := m.events.filterMap Event.revoked?

end Moment

/-- The values that the store issued for logins, the latest first. -/
def issued (history : List Moment) : List String := history.filterMap Moment.issued?

/-- The tokens that the session received, the latest first. -/
def received (history : List Moment) : List Token := history.filterMap Moment.received?

/-- The tokens that the store was asked to revoke, the latest first. -/
def revoked (history : List Moment) : List Token := history.flatMap Moment.revoked

theorem issued_cons (m : Moment) (past : List Moment) :
    issued (m :: past) = m.issued?.toList ++ issued past := by
  unfold issued
  cases hm : m.issued? with
  | none => rw [List.filterMap_cons_none hm]; rfl
  | some value => rw [List.filterMap_cons_some hm]; rfl

theorem received_cons (m : Moment) (past : List Moment) :
    received (m :: past) = m.received?.toList ++ received past := by
  unfold received
  cases hm : m.received? with
  | none => rw [List.filterMap_cons_none hm]; rfl
  | some t => rw [List.filterMap_cons_some hm]; rfl

theorem revoked_cons (m : Moment) (past : List Moment) :
    revoked (m :: past) = m.revoked ++ revoked past := rfl

/-! ## One step -/

/-- What a step does about tokens. -/
inductive Moment.TokenMove (m : Moment) : Prop
  /-- The published token stays. -/
  | stay (token : m.after.state.token? = m.before.state.token?) (received : m.received? = none)
      (issued : m.issued? = none) (revoked : m.revoked = [])
  /-- A login makes the token, and there was none to be revoked. -/
  | logIn {g : Grant} (token : m.after.state.token? = some (m.before.strategy.accept g m.now))
      (received : m.received? = some (m.before.strategy.accept g m.now))
      (issued : m.issued? = some g.value)
      (keep : ∀ old, m.before.state.token? = some old → old.origin = .login →
        old.value = (m.before.strategy.accept g m.now).value)
      (revoked : m.revoked = [])
  /-- A login makes the token, and the one before it is to be revoked. -/
  | supersede {g : Grant} {old : Token}
      (token : m.after.state.token? = some (m.before.strategy.accept g m.now))
      (received : m.received? = some (m.before.strategy.accept g m.now))
      (issued : m.issued? = some g.value) (before : m.before.state.token? = some old)
      (origin : old.origin = .login) (other : old.value ≠ (m.before.strategy.accept g m.now).value)
      (revoked : m.revoked = [old])
  /-- The published token gets a new lease. -/
  | renew {t t' : Token} (before : m.before.state.token? = some t)
      (token : m.after.state.token? = some t') (value : t'.value = t.value)
      (origin : t'.origin = t.origin) (received : m.received? = some t')
      (issued : m.issued? = none) (revoked : m.revoked = [])
  /-- The published token is given up when its lease has ended. -/
  | lapse {t : Token} (before : m.before.state.token? = some t) (ended : t.HasEnded m.now)
      (token : m.after.state.token? = none) (received : m.received? = none)
      (issued : m.issued? = none) (revoked : m.revoked = [])
  /-- The session ends and no token is to be revoked. -/
  | close {revoke : Bool} (goes : m.GoesOn (.shutdown revoke))
      (keep : ∀ t, m.before.state.token? = some t → revoke = true → t.origin ≠ .login)
      (token : m.after.state.token? = none) (received : m.received? = none)
      (issued : m.issued? = none) (revoked : m.revoked = [])
  /-- The session ends and its token is to be revoked. -/
  | closeRevoking {t : Token} (before : m.before.state.token? = some t)
      (origin : t.origin = .login) (token : m.after.state.token? = none)
      (received : m.received? = none) (issued : m.issued? = none) (revoked : m.revoked = [t])

theorem Moment.mem_revoked (sent : .revocationSent id t ∈ m.events) : t ∈ m.revoked :=
  List.mem_filterMap.2 ⟨_, sent, rfl⟩

theorem Moment.received?_of_not_answer (h : ∀ id g, m.label ≠ .answer id (.granted g)) :
    m.received? = none ∧ m.issued? = none := by
  unfold received? issued?
  constructor
  · split
    · rename_i hlabel
      exact absurd hlabel (h _ _)
    · rename_i hlabel
      exact absurd hlabel (h _ _)
    · rfl
  · split
    · rename_i hlabel
      exact absurd hlabel (h _ _)
    · rfl

theorem Does.tokenMove (h : s.Does now l s' events) (coherent : s.Coherent) :
    Moment.TokenMove ⟨s, now, l, s', events⟩ := by
  have nothing (hlabel : ∀ id g, l ≠ .answer id (.granted g)) :
      (Moment.mk s now l s' events).received? = none ∧
        (Moment.mk s now l s' events).issued? = none :=
    Moment.received?_of_not_answer hlabel
  have ungranted {id : CallId} (label : l.EndsUngranted id) (x : CallId) (g : Grant) :
      l ≠ .answer x (.granted g) := by
    rintro rfl
    exact label.2 g rfl
  cases h with
  | handOut | crashAtOnce | sendLogin | forceLogin | dropWaiting =>
      obtain ⟨received, issued⟩ := nothing nofun
      exact .stay rfl received issued rfl
  | ask | share | crash | noSession | skipRenewal | dropHolder =>
      obtain ⟨received, issued⟩ := nothing nofun
      exact .stay (by simp) received issued rfl
  | sendRenewal holder token =>
      obtain ⟨received, issued⟩ := nothing nofun
      exact .stay token.symm received issued rfl
  | failLogin label | crashRenewing label | endRevocation label =>
      obtain ⟨received, issued⟩ := nothing (ungranted label)
      exact .stay (by simp) received issued rfl
  | keep label holder =>
      obtain ⟨received, issued⟩ := nothing (ungranted label)
      have hstate := coherent.renewing_state _ _ _ holder
      exact .stay (by simp [hstate, SessionState.token?]) received issued rfl
  | lapse holder token ended =>
      obtain ⟨received, issued⟩ := nothing nofun
      exact .lapse token (Token.isExpired_eq_true_iff.1 ended).1 rfl received issued rfl
  | lose label holder ended =>
      obtain ⟨received, issued⟩ := nothing (ungranted label)
      have hstate := coherent.renewing_state _ _ _ holder
      exact .lapse (by simp [hstate, SessionState.token?])
        (Token.isExpired_eq_true_iff.1 ended).1 (by simp [SessionState.token?]) received issued rfl
  | logIn holder keep =>
      have hstate := coherent.superseded_eq _ _ _ _ holder
      exact .logIn (by simp [SessionState.token?]) (by simp [Moment.received?, holder])
        (by simp [Moment.issued?, holder]) (fun old hold => keep old (hstate.trans hold)) rfl
  | supersede holder origin other =>
      have hstate := coherent.superseded_eq _ _ _ _ holder
      exact .supersede rfl (by simp [Moment.received?, holder]) (by simp [Moment.issued?, holder])
        hstate.symm origin other rfl
  | renew holder =>
      rename_i current deadline g
      have hbefore : s.state.token? = some current := by
        rw [coherent.renewing_state _ _ _ holder]
        rfl
      have hafter : (s.publish (.valid (current.renewed g.lease g.renewable now))).release.state.token? =
          some (current.renewed g.lease g.renewable now) := by
        rw [release_state]
        rfl
      exact .renew hbefore hafter rfl rfl (by simp [Moment.received?, holder])
        (by simp [Moment.issued?, holder]) rfl
  | close holder keep =>
      obtain ⟨received, issued⟩ := nothing nofun
      exact .close ⟨_, holder, rfl⟩ keep (by simp [SessionState.token?]) received issued rfl
  | closeRevoking holder token origin =>
      obtain ⟨received, issued⟩ := nothing nofun
      exact .closeRevoking token origin rfl received issued rfl

/-- At most one token is sent for revocation at a time. It came from a login and was the published
one, and the token that is published then, if any, has another value. -/
theorem Moment.TokenMove.revoked_cases (move : m.TokenMove) :
    m.revoked = [] ∨ ∃ t, m.revoked = [t] ∧ m.before.state.token? = some t ∧ t.origin = .login ∧
      ∀ u, m.after.state.token? = some u → u.value ≠ t.value := by
  cases move with
  | stay _ _ _ revoked | logIn _ _ _ _ revoked | renew _ _ _ _ _ _ revoked
  | lapse _ _ _ _ _ revoked | close _ _ _ _ _ revoked => exact .inl revoked
  | supersede token _ _ before origin other revoked =>
      refine .inr ⟨_, revoked, before, origin, ?_⟩
      intro u hu
      obtain rfl := Option.some.inj (token.symm.trans hu)
      exact other.symm
  | closeRevoking before origin token _ _ revoked =>
      refine .inr ⟨_, revoked, before, origin, ?_⟩
      intro u hu
      exact nomatch token.symm.trans hu

theorem Moment.TokenMove.of_mem_revoked (move : m.TokenMove) (h : t ∈ m.revoked) :
    m.before.state.token? = some t ∧ t.origin = .login ∧
      ∀ u, m.after.state.token? = some u → u.value ≠ t.value := by
  rcases move.revoked_cases with hnone | ⟨t', hone, hcases⟩
  · rw [hnone] at h
    exact nomatch h
  · rw [hone] at h
    obtain rfl := List.mem_singleton.1 h
    exact hcases

/-- A published token has the value and the origin of the one before it, or a login made it. -/
theorem Moment.TokenMove.token_cases (move : m.TokenMove) (token : m.after.state.token? = some u) :
    (∃ t, m.before.state.token? = some t ∧ u.value = t.value ∧ u.origin = t.origin) ∨
      ∃ g, u = m.before.strategy.accept g m.now ∧ m.issued? = some g.value := by
  cases move with
  | stay same => exact .inl ⟨u, same.symm.trans token, rfl, rfl⟩
  | logIn token' _ issued | supersede token' _ issued =>
      obtain rfl := Option.some.inj (token'.symm.trans token)
      exact .inr ⟨_, rfl, issued⟩
  | renew before token' value origin =>
      obtain rfl := Option.some.inj (token'.symm.trans token)
      exact .inl ⟨_, before, value, origin⟩
  | lapse _ _ none | close _ _ none | closeRevoking _ _ none => exact nomatch none.symm.trans token

/-! ## Where tokens come from -/

/-- Published tokens and those that were sent for revocation come from where the strategy says. -/
structure Sound (strategy : Strategy) (history : List Moment) (s : Session) : Prop where
  strategy_eq : s.strategy = strategy
  /-- A configured token is published as it is; a token from a login has a value that was issued. -/
  origin : ∀ t, s.state.token? = some t →
    t.origin = .static ∧ strategy = .token t.value ∨
      t.origin = .login ∧ (∀ v, strategy ≠ .token v) ∧ t.value.value ∈ issued history
  revoked : ∀ t ∈ revoked history,
    t.origin = .login ∧ (∀ v, strategy ≠ .token v) ∧ t.value.value ∈ issued history

theorem Sound.origin_of_revoked (sound : s.Sound strategy history) (token : s.state.token? = some t)
    (origin : t.origin = .login) :
    (∀ v, strategy ≠ .token v) ∧ t.value.value ∈ issued history := by
  rcases sound.origin t token with ⟨static, -⟩ | ⟨-, hissued⟩
  · exact nomatch origin.symm.trans static
  · exact hissued

theorem Sound.step (sound : m.before.Sound strategy past) (move : m.TokenMove)
    (same : m.after.strategy = m.before.strategy) : m.after.Sound strategy (m :: past) := by
  have hsub : issued past ⊆ issued (m :: past) := by
    rw [issued_cons]
    exact List.subset_append_right _ _
  refine ⟨same.trans sound.strategy_eq, ?_, ?_⟩
  · intro u token
    rcases move.token_cases token with ⟨t, before, value, origin⟩ | ⟨g, rfl, issued⟩
    · rw [value, origin]
      exact (sound.origin t before).imp_right fun ⟨horigin, hne, hmem⟩ =>
        ⟨horigin, hne, hsub hmem⟩
    · rw [sound.strategy_eq]
      refine (strategy.accept_origin g m.now).imp_right fun ⟨horigin, hne, hvalue⟩ =>
        ⟨horigin, hne, ?_⟩
      rw [hvalue, issued_cons, issued]
      exact List.mem_cons_self
  · intro t ht
    rw [revoked_cons, List.mem_append] at ht
    rcases ht with ht | ht
    · obtain ⟨before, origin, -⟩ := move.of_mem_revoked ht
      obtain ⟨hne, hmem⟩ := sound.origin_of_revoked before origin
      exact ⟨origin, hne, hsub hmem⟩
    · obtain ⟨origin, hne, hmem⟩ := sound.revoked t ht
      exact ⟨origin, hne, hsub hmem⟩

theorem Run.sound (run : Run strategy timeout history s) : s.Sound strategy history := by
  induction run with
  | fresh => exact ⟨rfl, nofun, nofun⟩
  | next run step clock unused ih =>
      have does := does_of_step step
      exact Sound.step (m := ⟨_, _, _, _, _⟩) ih (does.tokenMove run.coherent) does.strategy_eq

theorem Run.tokenMove (run : Run strategy timeout (m :: past) s) : m.TokenMove := by
  obtain ⟨before, does⟩ := run.of_cons
  exact does.tokenMove before.coherent

/-! ## Values that are not issued twice -/

/-- A value that was sent for revocation is not the published one. -/
theorem Run.ne_of_revoked (run : Run strategy timeout history s) (fresh : (issued history).Nodup)
    (ht : t ∈ revoked history) (token : s.state.token? = some u) : u.value ≠ t.value := by
  induction history generalizing s u with
  | nil => exact nomatch ht
  | cons m past ih =>
      obtain ⟨before, -⟩ := run.of_cons
      obtain rfl : m.after = s := by cases run; rfl
      rw [issued_cons] at fresh
      rw [revoked_cons, List.mem_append] at ht
      rcases ht with ht | ht
      · exact (run.tokenMove.of_mem_revoked ht).2.2 u token
      · rcases run.tokenMove.token_cases token with ⟨old, hold, value, -⟩ | ⟨g, rfl, hissued⟩
        · rw [value]
          exact ih before (List.nodup_append.1 fresh).2.1 ht hold
        · -- the new token has a value that was not issued before
          obtain ⟨-, hne, hmem⟩ := before.sound.revoked t ht
          intro hvalue
          rw [before.sound.strategy_eq] at hvalue
          rcases strategy.accept_origin g m.now with ⟨-, htoken⟩ | ⟨-, -, hg⟩
          · exact hne _ htoken
          · rw [← hvalue, hg] at hmem
            rw [hissued] at fresh
            exact (List.nodup_cons.1 fresh).1 hmem

/-- No value is sent for revocation twice. -/
theorem Run.revoked_nodup (run : Run strategy timeout history s) (fresh : (issued history).Nodup) :
    ((revoked history).map Token.value).Nodup := by
  induction history generalizing s with
  | nil => exact List.nodup_nil
  | cons m past ih =>
      obtain ⟨before, -⟩ := run.of_cons
      rw [issued_cons] at fresh
      have hfresh := (List.nodup_append.1 fresh).2.1
      rw [revoked_cons]
      rcases run.tokenMove.revoked_cases with hnone | ⟨t, hone, token, -⟩
      · rw [hnone]
        exact ih before hfresh
      · rw [hone]
        refine List.nodup_cons.2 ⟨?_, ih before hfresh⟩
        intro hmem
        obtain ⟨t', ht', hvalue⟩ := List.mem_map.1 hmem
        exact before.ne_of_revoked hfresh ht' token hvalue.symm

/-! ## Tokens that are handed out -/

/-- A state that is published stays until the end of the step. -/
theorem Does.state_of_published (h : s.Does now l s' events) {state : SessionState}
    (hmem : .published state ∈ events) : s'.state = state := by
  have hstate : state ∈ published events := List.mem_filterMap.2 ⟨_, hmem, rfl⟩
  rcases h.change with ⟨hnone, -⟩ | ⟨hone, -⟩
  · rw [hnone] at hstate
    exact nomatch hstate
  · rw [hone] at hstate
    exact (List.mem_singleton.1 hstate).symm

/-- What a call for a token returns is the published token. -/
theorem Does.token_of_returned (h : s.Does now l s' events)
    (call : ∀ phase, s.active = some (id, phase) → phase.call = .getToken)
    (returned : .returned id (.token t) ∈ events) : s'.state.token? = some t := by
  cases h with
  | handOut good =>
      simp only [List.mem_singleton, Event.returned.injEq, Reply.token.injEq] at returned
      obtain ⟨rfl, rfl⟩ := returned
      exact (usable_eq_some_iff.1 good).1
  | share _ good =>
      simp only [List.mem_singleton, Event.returned.injEq, Reply.token.injEq] at returned
      obtain ⟨rfl, rfl⟩ := returned
      rw [release_state]
      exact (usable_eq_some_iff.1 good).1
  | skipRenewal _ token =>
      simp only [List.mem_singleton, Event.returned.injEq, Reply.token.injEq] at returned
      obtain ⟨rfl, rfl⟩ := returned
      rw [release_state]
      exact token
  | logIn | renew =>
      simp only [List.mem_cons, reduceCtorEq, Event.returned.injEq, Reply.token.injEq,
        List.not_mem_nil, false_or, or_false] at returned
      obtain ⟨-, rfl⟩ := returned
      rw [release_state]
      rfl
  | endRevocation _ holder =>
      -- the reply of a login that had a token revoked was settled before
      simp only [List.mem_singleton, Event.returned.injEq] at returned
      obtain ⟨rfl, rfl⟩ := returned
      exact nomatch call _ holder
  | _ => simp at returned

/-! ## What becomes of the tokens that are received -/

theorem Moment.TokenMove.token_of_received (move : m.TokenMove) (received : m.received? = some t) :
    m.after.state.token? = some t := by
  cases move with
  | logIn token received' | supersede token received' =>
      exact token.trans (received'.symm.trans received)
  | renew _ token _ _ received' => exact token.trans (received'.symm.trans received)
  | stay _ none | lapse _ _ _ none | close _ _ _ none | closeRevoking _ _ _ none =>
      exact nomatch none.symm.trans received

/-- Tokens that were received come from where the strategy says. -/
theorem Run.origin_of_received (run : Run strategy timeout history s) (ht : t ∈ received history) :
    t.origin = .static ∧ strategy = .token t.value ∨
      t.origin = .login ∧ (∀ v, strategy ≠ .token v) ∧ t.value.value ∈ issued history := by
  obtain ⟨m, hm, hreceived⟩ := List.mem_filterMap.1 ht
  obtain ⟨later, past, rfl⟩ := List.append_of_mem hm
  have hsuffix := List.suffix_append later (m :: past)
  have here := run.of_suffix hsuffix
  have token := here.tokenMove.token_of_received hreceived
  exact (here.sound.origin t token).imp_right fun ⟨origin, hne, hmem⟩ =>
    ⟨origin, hne, (hsuffix.sublist.filterMap Moment.issued?).subset hmem⟩

/-- The token that was received last with the value. -/
def latestReceived (history : List Moment) (value : Secret) : Option Token :=
  (received history).find? fun t => t.value = value

theorem latestReceived_cons_none (none : m.received? = none) (value : Secret) :
    latestReceived (m :: past) value = latestReceived past value := by
  simp [latestReceived, received_cons, none]

theorem latestReceived_cons_some (some : m.received? = some t) (value : Secret) :
    latestReceived (m :: past) value =
      if t.value = value then Option.some t else latestReceived past value := by
  by_cases hvalue : t.value = value <;> simp [latestReceived, received_cons, some, hvalue]

/-- The published token is the one that was received last with its value. -/
theorem Run.latestReceived_eq (run : Run strategy timeout history s)
    (token : s.state.token? = some t) : latestReceived history t.value = some t := by
  induction history generalizing s t with
  | nil =>
      cases run
      exact nomatch token
  | cons m past ih =>
      obtain ⟨before, -⟩ := run.of_cons
      obtain rfl : m.after = s := by cases run; rfl
      cases run.tokenMove with
      | stay same none =>
          rw [latestReceived_cons_none none]
          exact ih before (same.symm.trans token)
      | logIn token' received | supersede token' received | renew _ token' _ _ received =>
          obtain rfl := Option.some.inj (token'.symm.trans token)
          rw [latestReceived_cons_some received, if_pos rfl]
      | lapse _ _ none | close _ _ none | closeRevoking _ _ none =>
          exact nomatch none.symm.trans token

/-- Where the value of a token is that came from a login. -/
inductive Accounted (history : List Moment) (s : Session) (value : Secret) : Prop
  | published {t : Token} (token : s.state.token? = some t) (same : t.value = value)
  /-- It was sent for revocation. -/
  | revoked (sent : value ∈ (revoked history).map Token.value)
  /-- The lease of the token that was received last with the value has ended. -/
  | ended {t : Token} {m : Moment} (latest : latestReceived history value = some t)
      (hm : m ∈ history) (ended : t.HasEnded m.now)

theorem Accounted.step {value : Secret} (accounted : m.before.Accounted past value)
    (move : m.TokenMove) (revokes : ¬ m.GoesOn (.shutdown false))
    (origin : ∀ t, m.before.state.token? = some t → t.origin = .login)
    (latest : ∀ t, m.before.state.token? = some t → latestReceived past t.value = some t) :
    m.after.Accounted (m :: past) value := by
  have sent {t : Token} (revoked : m.revoked = [t]) (same : t.value = value) :
      value ∈ (Session.revoked (m :: past)).map Token.value := by
    rw [revoked_cons, revoked, ← same]
    exact List.mem_cons_self
  cases accounted with
  | published token same =>
      cases move with
      | stay token' => exact .published (token'.trans token) same
      | logIn token' _ _ keep =>
          exact .published token' ((keep _ token (origin _ token)).symm.trans same)
      | supersede _ _ _ token' _ _ revoked =>
          obtain rfl := Option.some.inj (token'.symm.trans token)
          exact .revoked (sent revoked same)
      | renew token' after value =>
          obtain rfl := Option.some.inj (token'.symm.trans token)
          exact .published after (value.trans same)
      | lapse token' ended _ none =>
          obtain rfl := Option.some.inj (token'.symm.trans token)
          refine .ended ?_ List.mem_cons_self ended
          rw [latestReceived_cons_none none, ← same]
          exact latest _ token
      | @close revoke goes keep =>
          cases revoke with
          | false => exact absurd goes revokes
          | true => exact absurd (origin _ token) (keep _ token rfl)
      | closeRevoking token' _ _ _ _ revoked =>
          obtain rfl := Option.some.inj (token'.symm.trans token)
          exact .revoked (sent revoked same)
  | revoked hmem =>
      refine .revoked ?_
      rw [revoked_cons, List.map_append]
      exact List.mem_append_right _ hmem
  | ended latest' hm ended =>
      cases hreceived : m.received? with
      | none =>
          refine .ended ?_ (List.mem_cons_of_mem m hm) ended
          rwa [latestReceived_cons_none hreceived]
      | some t =>
          by_cases same : t.value = value
          · exact .published (move.token_of_received hreceived) same
          · refine .ended ?_ (List.mem_cons_of_mem m hm) ended
            rwa [latestReceived_cons_some hreceived, if_neg same]

/-- Whatever was received from a login is published, was sent for revocation, or was given up when
its lease had ended, unless the session was shut down without revoking. -/
theorem Run.accounts (run : Run strategy timeout history s)
    (revokes : ∀ m ∈ history, ¬ m.GoesOn (.shutdown false)) (login : ∀ v, strategy ≠ .token v)
    (ht : t ∈ received history) : s.Accounted history t.value := by
  induction history generalizing s with
  | nil => exact nomatch ht
  | cons m past ih =>
      obtain ⟨before, -⟩ := run.of_cons
      obtain rfl : m.after = s := by cases run; rfl
      rw [received_cons, List.mem_append, Option.mem_toList] at ht
      rcases ht with received | ht
      · exact .published (run.tokenMove.token_of_received received) rfl
      · have accounted := ih before (fun v hv => revokes v (List.mem_cons_of_mem m hv)) ht
        refine accounted.step run.tokenMove (revokes m List.mem_cons_self) ?_
          fun u => before.latestReceived_eq
        intro u token
        rcases before.sound.origin u token with ⟨-, hstrategy⟩ | ⟨origin, -⟩
        · exact absurd hstrategy (login u.value)
        · exact origin

/-! ## Every run -/

/-- **Revocation is safe.** In every run:

* a token that is sent for revocation came from a login and was the published one until then, and
  a token that is published at that instant has another value;
* with a configured token, only that is published, as what it is, and no revocation is sent;
* if the store issues no value for a login twice, then no value is sent for revocation twice, and
  one that was is not published again, nor returned by a call for a token. -/
theorem Run.revokes_safely (run : Run strategy timeout history s) :
    (∀ m ∈ history, ∀ id t, .revocationSent id t ∈ m.events →
      m.before.state.token? = some t ∧ t.origin = .login ∧
      ∀ u, m.after.state.token? = some u → u.value ≠ t.value) ∧
    (∀ v, strategy = .token v → ∀ m ∈ history,
      (∀ state t, .published state ∈ m.events → state.token? = some t →
        t.value = v ∧ t.origin = .static) ∧
      ∀ id t, .revocationSent id t ∉ m.events) ∧
    ((issued history).Nodup →
      ((revoked history).map Token.value).Nodup ∧
      ∀ m past, m :: past <:+ history → ∀ t ∈ revoked past,
        (∀ state u, .published state ∈ m.events → state.token? = some u → u.value ≠ t.value) ∧
        (∀ id u, callOf (m :: past) id = some .getToken → .returned id (.token u) ∈ m.events →
          u.value ≠ t.value) ∧
        ∀ u, m.after.state.token? = some u → u.value ≠ t.value) := by
  refine ⟨?_, ?_, ?_⟩
  · intro m hm id t sent
    obtain ⟨later, past, rfl⟩ := List.append_of_mem hm
    have here := run.of_suffix (List.suffix_append later (m :: past))
    exact here.tokenMove.of_mem_revoked (Moment.mem_revoked sent)
  · rintro v rfl m hm
    obtain ⟨later, past, rfl⟩ := List.append_of_mem hm
    have here := run.of_suffix (List.suffix_append later (m :: past))
    constructor
    · intro state t hpublished token
      obtain rfl := here.of_cons.2.state_of_published hpublished
      rcases here.sound.origin t token with ⟨origin, hstrategy⟩ | ⟨-, hne, -⟩
      · exact ⟨(Strategy.token.inj hstrategy).symm, origin⟩
      · exact absurd rfl (hne v)
    · intro id t sent
      have ht : t ∈ revoked (m :: past) := List.mem_append_left _ (Moment.mem_revoked sent)
      exact (here.sound.revoked t ht).2.1 v rfl
  · intro fresh
    refine ⟨run.revoked_nodup fresh, ?_⟩
    intro m past hm t ht
    have here := run.of_suffix hm
    have hfresh : (issued (m :: past)).Nodup := (hm.sublist.filterMap Moment.issued?).nodup fresh
    have other (u : Token) (token : m.after.state.token? = some u) : u.value ≠ t.value :=
      here.ne_of_revoked hfresh (List.mem_append_right _ ht) token
    refine ⟨?_, ?_, other⟩
    · intro state u hpublished token
      obtain rfl := here.of_cons.2.state_of_published hpublished
      exact other u token
    · intro id u given returned
      exact other u (here.of_cons.2.token_of_returned (here.call_of_moment given) returned)

/-- A session logs in, logs in again, is renewed and is shut down. -/
def reloginHistory : List Moment :=
  replay (.userpass "userpass" "user" ⟨"password"⟩) 500 []
    [(0, .begin 0 .getToken), (0, .proceed 0), (0, .answer 0 (.granted ⟨"a", 1000, true⟩)),
      (100, .begin 1 .login), (100, .proceed 1), (150, .answer 1 (.granted ⟨"b", 1000, true⟩)),
      (150, .answer 1 .revoked), (300, .begin 2 .renew), (300, .proceed 2),
      (350, .answer 2 (.granted ⟨"", 1000, true⟩)), (400, .begin 3 (.shutdown true)),
      (400, .proceed 3), (400, .answer 3 .revoked), (500, .begin 4 .getToken), (500, .proceed 4),
      (500, .answer 4 (.granted ⟨"c", 1000, true⟩))]

theorem revokes_safely_reloginHistory :
    (issued reloginHistory).Nodup ∧
      (revoked reloginHistory).map Token.value = [⟨"b"⟩, ⟨"a"⟩] ∧
      ((revoked reloginHistory).map Token.value).Nodup ∧
      ∃ m past, reloginHistory = m :: past ∧
        ∀ u, m.after.state.token? = some u → u.value ≠ ⟨"a"⟩ := by
  have run : Run (.userpass "userpass" "user" ⟨"password"⟩) 500 reloginHistory
      (latest _ 500 reloginHistory) := Run.fresh.replay _
  obtain ⟨-, -, safe⟩ := run.revokes_safely
  have fresh : (issued reloginHistory).Nodup := by decide
  obtain ⟨nodup, never⟩ := safe fresh
  have hrevoked : (revoked reloginHistory).map Token.value = [⟨"b"⟩, ⟨"a"⟩] := rfl
  refine ⟨fresh, hrevoked, nodup, _, _, rfl, ?_⟩
  obtain ⟨-, -, other⟩ := never _ _ (List.suffix_refl _) ⟨⟨"a"⟩, 1000, true, 0, .login⟩
    (by decide)
  exact other

end Session

end SecretConfig
