import SecretConfig.Proofs.Session.Expiry
import SecretConfig.Proofs.Session.Runs

set_option autoImplicit false

/-! # A failure never costs a good token

A renewal changes the published state before it asks the store, and a forced login asks the
store while there is a good token. Whatever comes of them, and wherever a call is dropped:

* a published token whose lease has not ended gives way only to a login that succeeds, a
  renewal that succeeds or the end of the session (`Does.token_kept`);
* only a login that succeeds and the end of the session ask the store to revoke a token
  (`Does.revocationSent`);
* a call for a token gets the published one, and sends no login (`Does.serves`).

`Run.keeps_usable_token` puts these together for every moment of every run, with what is known
of the guard. -/

namespace SecretConfig

namespace Session

variable {strategy : Strategy} {timeout : Duration} {history : List Moment} {m : Moment}
  {s s' : Session} {now : Instant} {l : Label} {events : List Event}

namespace Moment

/-- A login or a renewal fails or runs out of time, or a call is dropped where it waits. -/
def Fails (m : Moment) : Prop :=
  .loginEnded false ∈ m.events ∨ .renewalEnded false ∈ m.events ∨ ∃ id, m.label = .drop id

/-- A call for a token looks at the published one: when it is made, or with the guard in hand. -/
def Serves (m : Moment) (id : CallId) : Prop :=
  m.label = .begin id .getToken ∨
    m.before.active = some (id, .granted .getToken) ∧ m.label = .proceed id

/-- The session goes on to its end. -/
def ShutsDown (m : Moment) : Prop := ∃ revoke, m.GoesOn (.shutdown revoke)

/-- A renewal of the token is dropped where it waits for the store. -/
def DropsRenewal (m : Moment) (t : Token) : Prop :=
  ∃ id deadline, m.before.active = some (id, .renewing t deadline) ∧ m.label = .drop id

end Moment

/-! ## One step -/

theorem Does.token_kept (h : s.Does now l s' events) (coherent : s.Coherent) {t : Token}
    (token : s.state.token? = some t) (good : t.isExpired now ≠ .ok true)
    (gone : s'.state.token? ≠ some t) :
    let m : Moment := ⟨s, now, l, s', events⟩
    (∃ t', m.LogsIn t') ∨ (∃ t', m.Renews t t') ∨ m.ShutsDown := by
  rcases h.change with ⟨-, hstate⟩ | ⟨-, hchange⟩
  · exact absurd (hstate ▸ token) gone
  · generalize hs' : s'.state = state at hchange gone
    -- a renewal that ends is one of the published token
    have same {id : CallId} {current : Token} {deadline : Instant}
        (holder : s.active = some (id, .renewing current deadline)) : current = t := by
      rw [coherent.renewing_state _ _ _ holder] at token
      exact Option.some.inj token
    cases hchange with
    | logIn holder => exact .inl ⟨_, _, _, _, _, _, holder, rfl, rfl⟩
    | sendRenewal holder token' => exact absurd (token'.symm.trans token) gone
    | renew holder =>
        obtain rfl := same holder
        exact .inr (.inl ⟨_, _, _, _, holder, rfl, rfl⟩)
    | keep label holder =>
        obtain rfl := same holder
        exact absurd rfl gone
    | lose label holder ended =>
        obtain rfl := same holder
        exact absurd ended good
    | lapse holder token' ended =>
        obtain rfl := Option.some.inj (token'.symm.trans token)
        exact absurd ended good
    | close holder => exact .inr (.inr ⟨_, _, holder, rfl⟩)

theorem Does.revocationSent (h : s.Does now l s' events) {id : CallId} {t : Token}
    (sent : .revocationSent id t ∈ events) :
    let m : Moment := ⟨s, now, l, s', events⟩
    (∃ t', m.LogsIn t') ∨ m.ShutsDown := by
  cases h with
  | supersede holder => exact .inl ⟨_, _, _, _, _, _, holder, rfl, rfl⟩
  | closeRevoking holder => exact .inr ⟨_, _, holder, rfl⟩
  | _ => simp at sent

/-- What fails ends a request without a grant, or is dropped. -/
theorem Does.fails_label (h : s.Does now l s' events)
    (fails : Moment.Fails ⟨s, now, l, s', events⟩) :
    (∃ id, l.EndsUngranted id) ∨ ∃ id, l = .drop id := by
  rcases fails with hevent | hevent | hdrop
  · cases h with
    | failLogin label => exact .inl ⟨_, label⟩
    | _ => simp at hevent
  · cases h with
    | keep label | lose label | crashRenewing label => exact .inl ⟨_, label⟩
    | _ => simp at hevent
  · exact .inr hdrop

/-- What fails is none of the steps that may cost a token. -/
theorem Does.not_of_fails (h : s.Does now l s' events)
    (fails : Moment.Fails ⟨s, now, l, s', events⟩) :
    let m : Moment := ⟨s, now, l, s', events⟩
    (∀ t, ¬ m.LogsIn t) ∧ (∀ t t', ¬ m.Renews t t') ∧ ¬ m.ShutsDown := by
  have hlabel : (∀ id, l ≠ .proceed id) ∧ ∀ id g, l ≠ .answer id (.granted g) := by
    rcases h.fails_label fails with ⟨id, hend⟩ | ⟨id, rfl⟩
    · constructor
      · rintro caller rfl
        exact hend
      · rintro caller g rfl
        exact hend.2 g rfl
    · exact ⟨nofun, nofun⟩
  refine ⟨?_, ?_, ?_⟩
  · rintro t ⟨id, -, -, -, g, -, hl, -⟩
    exact hlabel.2 id g hl
  · rintro t t' ⟨id, -, g, -, hl, -⟩
    exact hlabel.2 id g hl
  · rintro ⟨revoke, id, -, hl⟩
    exact hlabel.1 id hl

/-- What fails leaves a good token published and asks for no revocation. -/
theorem Does.token_of_fails (h : s.Does now l s' events) (coherent : s.Coherent)
    (fails : Moment.Fails ⟨s, now, l, s', events⟩) {t : Token}
    (token : s.state.token? = some t) (good : t.isExpired now ≠ .ok true) :
    s'.state.token? = some t ∧ ∀ id u, .revocationSent id u ∉ events := by
  obtain ⟨hlogin, hrenewal, hclose⟩ := h.not_of_fails fails
  constructor
  · refine Decidable.byContradiction fun gone => ?_
    rcases h.token_kept coherent token good gone with ⟨t', ht'⟩ | ⟨t', ht'⟩ | hshut
    · exact hlogin t' ht'
    · exact hrenewal t t' ht'
    · exact hclose hshut
  · intro id u hu
    rcases h.revocationSent hu with ⟨t', ht'⟩ | hshut
    · exact hlogin t' ht'
    · exact hclose hshut

theorem Does.serves (h : s.Does now l s' events) {id : CallId} {t : Token}
    (serves : Moment.Serves ⟨s, now, l, s', events⟩ id) (token : s.state.token? = some t)
    (good : t.isExpired now = .ok false) :
    s'.state = s.state ∧ events = [.returned id (.token t)] := by
  have husable : s.usable now = .ok (some t) := usable_eq_some_iff.2 ⟨token, good⟩
  rcases serves with hlabel | ⟨hactive, hlabel⟩
  · obtain rfl : l = .begin id .getToken := hlabel
    cases h with
    | handOut husable' =>
        have ht := husable.symm.trans husable'
        simp only [Except.ok.injEq, Option.some.injEq] at ht
        exact ⟨rfl, by rw [ht]⟩
    | crashAtOnce bad => exact nomatch husable.symm.trans bad
    | ask needed => exact nomatch husable.symm.trans (needed rfl)
    | failLogin label | keep label | lose label | crashRenewing label | endRevocation label =>
        exact label.elim
  · obtain rfl : l = .proceed id := hlabel
    cases h with
    | share holder husable' =>
        have ht := husable.symm.trans husable'
        simp only [Except.ok.injEq, Option.some.injEq] at ht
        exact ⟨by simp, by rw [ht]⟩
    | crash holder bad => exact nomatch husable.symm.trans bad
    | sendLogin holder none => exact nomatch token.symm.trans none
    | lapse holder token' ended =>
        obtain rfl := Option.some.inj (token'.symm.trans token)
        exact nomatch ended.symm.trans good
    | forceLogin holder | noSession holder | skipRenewal holder | sendRenewal holder
    | closeRevoking holder | close holder => exact nomatch hactive.symm.trans holder
    | failLogin label | keep label | lose label | crashRenewing label | endRevocation label =>
        exact label.elim

/-- A renewal that was given up where it waited was dropped, if its lease has an end. -/
theorem Moment.AbandonsRenewal.dropsRenewal {t : Token} (h : m.AbandonsRenewal t)
    (good : t.isExpired now = .ok false) : m.DropsRenewal t := by
  obtain ⟨id, deadline, hactive, hdrop | ⟨fault, hfault, -⟩⟩ := h
  · exact ⟨id, deadline, hactive, hdrop⟩
  · have hlast := Token.isExpired_eq_error_iff.1 hfault
    have hgood := Token.isExpired_eq_false_iff.1 good
    lia

/-- A good token is published as valid, or as renewing while a renewal is in flight or after
one was dropped. -/
theorem Run.valid_or_renewing (run : Run strategy timeout history s) {t : Token}
    (token : s.state.token? = some t) (good : t.isExpired now = .ok false) :
    s.state = .valid t ∨
      s.state = .renewing t ∧ (s.IsRenewing t ∨ ∃ m ∈ history, m.DropsRenewal t) := by
  cases hstate : s.state with
  | unauthenticated | expired => exact nomatch hstate ▸ token
  | valid t' =>
      rw [hstate] at token
      exact .inl (by rw [Option.some.inj token])
  | renewing t' =>
      rw [hstate] at token
      obtain rfl : t' = t := Option.some.inj token
      refine .inr ⟨rfl, ?_⟩
      rcases run.isRenewing hstate with hr | ⟨m, hm, habandon⟩
      · exact .inl hr
      · exact .inr ⟨m, hm, habandon.dropsRenewal good⟩

/-- Whoever holds the guard is a call that is not over. -/
theorem Run.live_of_active (run : Run strategy timeout history s) {id : CallId} {phase : Phase}
    (holder : s.active = some (id, phase)) : Live history id :=
  (run.callers_iff id).1 (by simp [callers, holder])

theorem Run.active_eq_none_iff (run : Run strategy timeout history s) :
    s.active = none ↔ ∀ id, ¬ Live history id := by
  constructor
  · intro free id hlive
    have hcallers : s.callers = [] := by simp [callers, free, run.coherent.queue_nil free]
    have hid := (run.callers_iff id).2 hlive
    simp [hcallers] at hid
  · intro hlive
    cases hactive : s.active with
    | none => rfl
    | some holder => exact absurd (run.live_of_active hactive) (hlive holder.1)

/-! ## Every run -/

/-- **No failure costs a session its token.** At every moment of every run, for a published
token `t` whose lease has not ended:

* `t` stays published unless a login succeeds, a renewal of `t` succeeds or the session is shut
  down, and a revocation is asked for only by a login that succeeds or the end of the session;
* what fails, runs out of time or is dropped leaves `t` published, as valid, or as renewing
  while a renewal is in flight or after one was dropped, and asks for no revocation;
* a call for a token gets `t` and sends nothing, and no login for such a call is in flight.

Whoever holds the guard is a call that is not over, and the guard is free if there is none. -/
theorem Run.keeps_usable_token (run : Run strategy timeout history s) :
    (∀ m past, m :: past <:+ history →
      ∀ t, m.before.state.token? = some t → t.isExpired m.now ≠ .ok true →
        (m.after.state.token? ≠ some t →
          (∃ t', m.LogsIn t') ∨ (∃ t', m.Renews t t') ∨ m.ShutsDown) ∧
        (∀ id u, .revocationSent id u ∈ m.events → (∃ t', m.LogsIn t') ∨ m.ShutsDown) ∧
        (m.Fails → m.after.state.token? = some t ∧ ∀ id u, .revocationSent id u ∉ m.events) ∧
        (t.isExpired m.now = .ok false → m.Fails →
          m.after.state = .valid t ∨ m.after.state = .renewing t ∧
            (m.after.IsRenewing t ∨ ∃ u ∈ m :: past, u.DropsRenewal t)) ∧
        (t.isExpired m.now = .ok false → ∀ id, m.Serves id →
          m.after.state = m.before.state ∧ m.events = [.returned id (.token t)]) ∧
        ∀ id superseded deadline,
          m.before.active ≠ some (id, .loggingIn false superseded deadline)) ∧
    (∀ id phase, s.active = some (id, phase) → Live history id) ∧
    (s.active = none ↔ ∀ id, ¬ Live history id) := by
  refine ⟨?_, fun id phase => run.live_of_active, run.active_eq_none_iff⟩
  intro m past hm t token good
  -- the step of the moment starts where the run before it has led
  have after := run.of_suffix hm
  obtain ⟨before, does⟩ := after.of_cons
  have coherent := before.coherent
  have fails (hfails : m.Fails) := does.token_of_fails coherent hfails token good
  refine ⟨does.token_kept coherent token good, ?_, fails, ?_, ?_, ?_⟩
  · exact fun id u => does.revocationSent
  · exact fun hgood hfails => after.valid_or_renewing (fails hfails).1 hgood
  · exact fun hgood id hserves => does.serves hserves token hgood
  · intro id superseded deadline hactive
    exact nomatch token.symm.trans (coherent.unforced_token _ _ _ hactive)

/-- A session is renewed twice and logs in again, all in vain: the first renewal is dropped, the
second is refused and the login runs out of time. Then a caller asks for a token. -/
def vainHistory : List Moment :=
  replay (.userpass "userpass" "user" ⟨"password"⟩) 50 []
    [(0, .begin 0 .login), (0, .proceed 0), (0, .answer 0 (.granted ⟨"a", 1000, true⟩)),
      (10, .begin 1 .renew), (10, .proceed 1), (20, .drop 1),
      (30, .begin 2 .renew), (30, .proceed 2), (40, .answer 2 (.refused (.unavailable "down"))),
      (50, .begin 3 .login), (50, .proceed 3), (100, .expire 3),
      (900, .begin 4 .getToken)]

theorem keeps_usable_token_vainHistory :
    vainHistory.length = 13 ∧
      (vainHistory.head?.map fun m => m.events) =
        some [.returned 4 (.token ⟨⟨"a"⟩, 1000, true, 0, .login⟩)] ∧
      ∀ id, ¬ Live vainHistory id := by
  have run :
      Run (.userpass "userpass" "user" ⟨"password"⟩) 50 vainHistory (latest _ 50 vainHistory) :=
    Run.fresh.replay _
  obtain ⟨moments, -, free⟩ := run.keeps_usable_token
  have hlength : vainHistory.length = 13 := rfl
  have hne : vainHistory ≠ [] := List.ne_nil_of_length_eq_add_one hlength
  have hgood :
      Token.isExpired ⟨⟨"a"⟩, 1000, true, 0, .login⟩ (vainHistory.head hne).now = .ok false :=
    rfl
  have htoken : (vainHistory.head hne).before.state.token? =
      some ⟨⟨"a"⟩, 1000, true, 0, .login⟩ := rfl
  have hlabel : (vainHistory.head hne).label = .begin 4 .getToken := rfl
  obtain ⟨-, -, -, -, serves, -⟩ := moments (vainHistory.head hne) vainHistory.tail
    ⟨[], List.cons_head_tail hne⟩ _ htoken (by rw [hgood]; exact nofun)
  have hevents := (serves hgood 4 (.inl hlabel)).2
  refine ⟨hlength, ?_, free.1 rfl⟩
  rw [List.head?_eq_some_head hne, Option.map_some, hevents]

end Session

end SecretConfig
