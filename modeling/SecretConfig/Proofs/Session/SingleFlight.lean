import Mathlib.Logic.Relation
import SecretConfig.Proofs.Session.Retention
import SecretConfig.Proofs.Session.Serving

set_option autoImplicit false

/-! # Logins are shared

A call for a token sends a login only with the guard in hand and only when there is no good token.
So whatever was sent before is over by then (`Run.over_of_sent`), and what a login has come to is
one of four things (`Session.Sequel`): it is in flight, it was lost, its token or what that has
become is published, or that was given up with its lease or with the session. `Run.sequel` carries
this from the moment at which the login is sent to the end of a run.

While the token that a login made lasts, nobody sends another, and the calls that waited for the
guard go on one after the other and get what is published (`Shared`). -/

namespace SecretConfig

/-- The call that a login is sent for. -/
def Event.login? : Event → Option CallId
  | .loginSent id _ => some id
  | _ => none

namespace Session

variable {strategy : Strategy} {timeout : Duration}
  {history past between later mid : List Moment} {m v : Moment} {s s' : Session} {now : Instant}
  {l : Label} {events : List Event} {id : CallId} {t : Token}

namespace Moment

/-- A login or a renewal is sent for the call. -/
def Sends (m : Moment) (id : CallId) : Prop :=
  (∃ forced, .loginSent id forced ∈ m.events) ∨ ∃ t, .renewalSent id t ∈ m.events

/-- The login that was sent for the call succeeds and makes the token. -/
def GrantsLogin (m : Moment) (id : CallId) (forced : Bool) (t : Token) : Prop :=
  ∃ superseded deadline g,
    m.before.active = some (id, .loggingIn forced superseded deadline) ∧
      m.label = .answer id (.granted g) ∧ t = m.before.strategy.accept g m.now

/-- The login that was sent for a call for a token fails, or is dropped with its call. -/
def LosesLogin (m : Moment) (id : CallId) : Prop :=
  ∃ superseded deadline,
    m.before.active = some (id, .loggingIn false superseded deadline) ∧
      (.loginEnded false ∈ m.events ∨ m.label = .drop id)

/-- A login that was asked for as such replaces the published token. -/
def Replaces (m : Moment) (t t' : Token) : Prop :=
  m.before.state.token? = some t ∧ ∃ id, m.GrantsLogin id true t'

end Moment

/-- The second token is the first one or was made from it by renewals at some of the moments. -/
def RenewedIn (moments : List Moment) : Token → Token → Prop :=
  Relation.ReflTransGen fun t t' => ∃ m ∈ moments, m.Renews t t'

/-- The second token is the first one or took its place, by renewals and by logins that were asked
for as such. -/
def SucceededIn (moments : List Moment) : Token → Token → Prop :=
  Relation.ReflTransGen fun t t' => ∃ m ∈ moments, m.Renews t t' ∨ m.Replaces t t'

/-- The calls that logins are sent for. -/
def loginsSent (moments : List Moment) : List CallId :=
  moments.flatMap fun m => m.events.filterMap Event.login?

theorem RenewedIn.mono {moments moments' : List Moment} (h : moments ⊆ moments') {t' : Token}
    (renewed : RenewedIn moments t t') : RenewedIn moments' t t' :=
  Relation.ReflTransGen.mono (fun _ _ ⟨m, hm, renews⟩ => ⟨m, h hm, renews⟩) _ _ renewed

theorem SucceededIn.mono {moments moments' : List Moment} (h : moments ⊆ moments') {t' : Token}
    (succeeded : SucceededIn moments t t') : SucceededIn moments' t t' :=
  Relation.ReflTransGen.mono (fun _ _ ⟨m, hm, next⟩ => ⟨m, h hm, next⟩) _ _ succeeded

/-- A renewal keeps the value of a token. -/
theorem RenewedIn.value_eq {moments : List Moment} {t' : Token} (renewed : RenewedIn moments t t') :
    t'.value = t.value := by
  induction renewed with
  | refl => rfl
  | tail _ renews ih =>
      obtain ⟨m, -, -, -, g, -, -, rfl⟩ := renews
      exact ih

/-! ## Requests in flight -/

/-- The call waits for the store with the guard in hand. -/
def IsWaiting (s : Session) (id : CallId) : Prop :=
  ∃ phase, s.active = some (id, phase) ∧ ∀ call, phase ≠ .granted call

/-- Who waits for the store keeps the guard until it is over. -/
theorem GuardMove.isWaiting (move : s.GuardMove l s' events) (waiting : s.IsWaiting id)
    (on : ¬ Ends l events id) : s'.IsWaiting id := by
  obtain ⟨phase, holder, waits⟩ := waiting
  cases move with
  | pass caller label active => exact ⟨phase, active.trans holder, waits⟩
  | ask caller call label next =>
      subst next
      exact ⟨phase, by simp [acquire, holder], waits⟩
  | hold caller old new holder' active waits' =>
      obtain ⟨rfl, -⟩ := Prod.mk.inj (Option.some.inj (holder.symm.trans holder'))
      exact ⟨new, active, waits'⟩
  | handOn caller old holder' active queue label ends =>
      obtain ⟨rfl, -⟩ := Prod.mk.inj (Option.some.inj (holder.symm.trans holder'))
      exact absurd ((ends _).2 rfl) on
  | leave caller label waiting next =>
      subst next
      exact ⟨phase, holder, waits⟩

theorem Does.isWaiting_of_sends (h : s.Does now l s' events)
    (sends : Moment.Sends ⟨s, now, l, s', events⟩ id) : s'.IsWaiting id := by
  rcases sends with ⟨forced, sent⟩ | ⟨t, sent⟩
  · cases h with
    | lapse | sendLogin | forceLogin =>
        simp only [List.mem_cons, reduceCtorEq, Event.loginSent.injEq, List.not_mem_nil, false_or,
          or_false] at sent
        obtain ⟨rfl, -⟩ := sent
        exact ⟨_, rfl, nofun⟩
    | _ => simp at sent
  · cases h with
    | sendRenewal =>
        simp only [List.mem_cons, reduceCtorEq, Event.renewalSent.injEq, List.not_mem_nil,
          false_or, or_false] at sent
        obtain ⟨rfl, -⟩ := sent
        exact ⟨_, rfl, nofun⟩
    | _ => simp at sent

/-- A request that was sent is in flight until its call is over. -/
theorem Run.isWaiting (run : Run strategy timeout (later ++ m :: past) s) (sends : m.Sends id)
    (on : ∀ v ∈ later, ¬ Ends v.label v.events id) : s.IsWaiting id := by
  induction later generalizing s with
  | nil =>
      obtain ⟨-, does⟩ := run.of_cons
      obtain rfl : m.after = s := by cases run; rfl
      exact does.isWaiting_of_sends sends
  | cons v rest ih =>
      obtain ⟨before, does⟩ := Run.of_cons run
      obtain rfl : v.after = s := by cases run; rfl
      have hwaiting := ih before fun w hw => on w (List.mem_cons_of_mem v hw)
      exact does.guardMove.isWaiting hwaiting (on v List.mem_cons_self)

/-- When a call for a token sends a login, every call that a login or a renewal was sent for
before is over. -/
theorem Run.over_of_sent (run : Run strategy timeout (v :: (later ++ m :: past)) s)
    (sent : .loginSent id false ∈ v.events) {x : CallId} (sends : m.Sends x) :
    ∃ u ∈ later, Ends u.label u.events x := by
  refine Classical.byContradiction fun hnone => ?_
  have on (u : Moment) (hu : u ∈ later) : ¬ Ends u.label u.events x :=
    fun ends => hnone ⟨u, hu, ends⟩
  obtain ⟨before, does⟩ := run.of_cons
  obtain ⟨phase, holder, waits⟩ := before.isWaiting sends on
  obtain ⟨-, ⟨-, granted, -⟩ | ⟨⟨⟩, -⟩⟩ := does.loginSent sent
  obtain ⟨-, rfl⟩ := Prod.mk.inj (Option.some.inj (holder.symm.trans granted))
  exact waits _ rfl

/-! ## The login of a call for a token -/

/-- At most one login is sent at a time, and then it is in flight. -/
theorem Does.loggingIn_of_sent (h : s.Does now l s' events) {forced : Bool}
    (sent : .loginSent id forced ∈ events) :
    events.filterMap Event.login? = [id] ∧
      ∃ superseded deadline, s'.active = some (id, .loggingIn forced superseded deadline) := by
  cases h with
  | lapse | sendLogin | forceLogin =>
      simp only [List.mem_cons, reduceCtorEq, Event.loginSent.injEq, List.not_mem_nil, false_or,
        or_false] at sent
      obtain ⟨rfl, rfl⟩ := sent
      exact ⟨rfl, _, _, rfl⟩
  | _ => simp at sent

/-- Where no login is sent, none comes into flight. -/
theorem Does.loggingIn (h : s.Does now l s' events) {forced : Bool} {superseded : Option Token}
    {deadline : Instant} (active : s'.active = some (id, .loggingIn forced superseded deadline)) :
    s.active = some (id, .loggingIn forced superseded deadline) ∨
      .loginSent id forced ∈ events := by
  cases h with
  | handOut | crashAtOnce | dropWaiting => exact .inl active
  | ask => exact .inl ((acquire_active active).resolve_right nofun)
  | lapse | sendLogin | forceLogin =>
      obtain ⟨rfl, hphase⟩ := Prod.mk.inj (Option.some.inj active)
      obtain ⟨rfl, -, -⟩ := Phase.loggingIn.inj hphase
      exact .inr (by simp)
  | sendRenewal | closeRevoking | supersede =>
      exact nomatch (Prod.mk.inj (Option.some.inj active)).2
  | share | crash | noSession | skipRenewal | close | logIn | failLogin | renew | keep | lose
  | crashRenewing | endRevocation | dropHolder =>
      -- whoever is handed the guard has not sent anything yet
      exact nomatch release_active_granted active

/-- What may become of a login in flight in one step: it stays in flight and no other is sent, or
its call is over, with the login lost or with its token published. -/
theorem Does.flight (h : s.Does now l s' events) (coherent : s.Coherent)
    {superseded : Option Token} {deadline : Instant}
    (holder : s.active = some (id, .loggingIn false superseded deadline)) :
    let m : Moment := ⟨s, now, l, s', events⟩
    s'.active = s.active ∧ events.filterMap Event.login? = [] ∨
      Ends l events id ∧ (m.LosesLogin id ∨
        ∃ t, m.GrantsLogin id false t ∧ s'.state.token? = some t) := by
  have same {x : CallId} {phase : Phase} (h : s.active = some (x, phase)) :
      x = id ∧ phase = .loggingIn false superseded deadline := by
    obtain ⟨hid, hphase⟩ := Prod.mk.inj (Option.some.inj (h.symm.trans holder))
    exact ⟨hid, hphase⟩
  cases h with
  | handOut | crashAtOnce => exact .inl ⟨rfl, rfl⟩
  | dropWaiting => exact .inl ⟨rfl, rfl⟩
  | ask => exact .inl ⟨by simp [acquire, holder], rfl⟩
  | logIn holder' =>
      obtain ⟨rfl, hphase⟩ := same holder'
      obtain ⟨rfl, rfl, rfl⟩ := Phase.loggingIn.inj hphase
      refine .inr ⟨.inr ⟨_, List.mem_of_mem_getLast? rfl⟩,
        .inr ⟨_, ⟨_, _, _, holder, rfl, rfl⟩, ?_⟩⟩
      rw [release_state]
      rfl
  | supersede holder' =>
      -- a login for a call for a token replaces none
      obtain ⟨rfl, hphase⟩ := same holder'
      obtain ⟨rfl, rfl, rfl⟩ := Phase.loggingIn.inj hphase
      have hnone := coherent.unforced_token _ _ _ holder
      cases (coherent.superseded_eq _ _ _ _ holder).trans hnone
  | failLogin label holder' =>
      obtain ⟨rfl, hphase⟩ := same holder'
      exact .inr ⟨.inr ⟨_, List.mem_cons_of_mem _ List.mem_cons_self⟩,
        .inl ⟨_, _, holder, .inl List.mem_cons_self⟩⟩
  | dropHolder holder' =>
      obtain ⟨rfl, hphase⟩ := same holder'
      exact .inr ⟨.inl rfl, .inl ⟨_, _, holder, .inr rfl⟩⟩
  | share holder' | crash holder' | lapse holder' | sendLogin holder' | forceLogin holder'
  | noSession holder' | skipRenewal holder' | sendRenewal holder' | closeRevoking holder'
  | close holder' | renew holder' | keep _ holder' | lose _ holder' | crashRenewing _ holder'
  | endRevocation _ holder' => cases (same holder').2

/-- What has become of the login of a call for a token after some moments. -/
inductive Sequel (id : CallId) (moments : List Moment) (s : Session) : Prop
  /-- The login is in flight. -/
  | flying {superseded : Option Token} {deadline : Instant}
      (holder : s.active = some (id, .loggingIn false superseded deadline))
  | lost {v : Moment} (hv : v ∈ moments) (loses : v.LosesLogin id)
  /-- Its token, or what that has become, is published. -/
  | held {v : Moment} {t t' : Token} (hv : v ∈ moments) (grants : v.GrantsLogin id false t)
      (succeeded : SucceededIn moments t t') (token : s.state.token? = some t')
  /-- That was published until its lease or the session ended. -/
  | gone {v u : Moment} {t t' : Token} (hv : v ∈ moments) (grants : v.GrantsLogin id false t)
      (succeeded : SucceededIn moments t t') (hu : u ∈ moments)
      (token : u.before.state.token? = some t') (cause : t'.HasEnded u.now ∨ u.ShutsDown)

theorem Does.token_of_grantsLogin (h : s.Does now l s' events) {forced : Bool}
    (grants : Moment.GrantsLogin ⟨s, now, l, s', events⟩ id forced t) :
    s'.state.token? = some t := by
  obtain ⟨superseded, deadline, g, holder, hlabel, rfl⟩ := grants
  obtain rfl : l = .answer id (.granted g) := hlabel
  cases h with
  | logIn => rw [release_state]; rfl
  | supersede => rfl
  | renew holder' => exact nomatch holder.symm.trans holder'
  | failLogin label | keep label | lose label | crashRenewing label | endRevocation label =>
      exact absurd rfl (label.2 g)

theorem Does.token_of_renews (h : s.Does now l s' events) {t' : Token}
    (renews : Moment.Renews ⟨s, now, l, s', events⟩ t t') : s'.state.token? = some t' := by
  obtain ⟨caller, deadline, g, holder, hlabel, rfl⟩ := renews
  obtain rfl : l = .answer caller (.granted g) := hlabel
  cases h with
  | renew holder' =>
      obtain ⟨-, hphase⟩ := Prod.mk.inj (Option.some.inj (holder.symm.trans holder'))
      obtain ⟨rfl, -⟩ := Phase.renewing.inj hphase
      rw [release_state]
      rfl
  | logIn holder' | supersede holder' => exact nomatch holder.symm.trans holder'
  | failLogin label | keep label | lose label | crashRenewing label | endRevocation label =>
      exact absurd rfl (label.2 g)

/-- A published token stays, is renewed, or is replaced by a login that was asked for as such;
else its lease has ended or the session ends. -/
theorem Does.succeeds (h : s.Does now l s' events) (coherent : s.Coherent)
    (token : s.state.token? = some t) :
    let m : Moment := ⟨s, now, l, s', events⟩
    s'.state.token? = some t ∨
      (∃ t', (m.Renews t t' ∨ m.Replaces t t') ∧ s'.state.token? = some t') ∨
      t.HasEnded now ∨ m.ShutsDown := by
  by_cases gone : s'.state.token? = some t
  · exact .inl gone
  by_cases ended : t.isExpired now = .ok true
  · exact .inr (.inr (.inl (Token.isExpired_eq_true_iff.1 ended).1))
  rcases h.token_kept coherent token ended gone with ⟨t', logs⟩ | ⟨t', renews⟩ | closes
  · obtain ⟨caller, forced, superseded, deadline, g, holder, hlabel, ht'⟩ := logs
    have grants : Moment.GrantsLogin ⟨s, now, l, s', events⟩ caller forced t' :=
      ⟨superseded, deadline, g, holder, hlabel, ht'⟩
    cases forced with
    | true => exact .inr (.inl ⟨t', .inr ⟨token, caller, grants⟩, h.token_of_grantsLogin grants⟩)
    | false => exact nomatch token.symm.trans (coherent.unforced_token _ _ _ holder)
  · exact .inr (.inl ⟨t', .inl renews, h.token_of_renews renews⟩)
  · exact .inr (.inr (.inr closes))

theorem Sequel.step {moments : List Moment} (sequel : s.Sequel id moments)
    (h : s.Does now l s' events) (coherent : s.Coherent) :
    s'.Sequel id (⟨s, now, l, s', events⟩ :: moments) := by
  have hsub : moments ⊆ (⟨s, now, l, s', events⟩ : Moment) :: moments :=
    List.subset_cons_self _ _
  cases sequel with
  | flying holder =>
      rcases h.flight coherent holder with ⟨hactive, -⟩ | ⟨-, loses | ⟨t, grants, token⟩⟩
      · exact .flying (hactive.trans holder)
      · exact .lost List.mem_cons_self loses
      · exact .held List.mem_cons_self grants .refl token
  | lost hv loses => exact .lost (hsub hv) loses
  | held hv grants succeeded token =>
      rcases h.succeeds coherent token with hkept | ⟨t', next, token'⟩ | cause
      · exact .held (hsub hv) grants (succeeded.mono hsub) hkept
      · exact .held (hsub hv) grants
          ((succeeded.mono hsub).tail ⟨_, List.mem_cons_self, next⟩) token'
      · exact .gone (hsub hv) grants (succeeded.mono hsub) List.mem_cons_self token cause
  | gone hv grants succeeded hu token cause =>
      exact .gone (hsub hv) grants (succeeded.mono hsub) (hsub hu) token cause

/-- The sequel of a login from the moment at which it is sent. -/
theorem Run.sequel (run : Run strategy timeout (between ++ m :: past) s)
    (sent : .loginSent id false ∈ m.events) : s.Sequel id between := by
  induction between generalizing s with
  | nil =>
      obtain ⟨-, does⟩ := run.of_cons
      obtain rfl : m.after = s := by cases run; rfl
      obtain ⟨-, superseded, deadline, holder⟩ := does.loggingIn_of_sent sent
      exact .flying holder
  | cons v rest ih =>
      obtain ⟨before, does⟩ := Run.of_cons run
      obtain rfl : v.after = s := by cases run; rfl
      exact (ih before).step does before.coherent

/-- When a call for a token sends a login, the one that such a call sent before was lost, or its
token, with what that had become, was published until its lease or the session ended. -/
theorem Run.gone_of_sent {u : Moment} {x : CallId}
    (run : Run strategy timeout (u :: (between ++ m :: past)) s)
    (sent : .loginSent id false ∈ m.events) (again : .loginSent x false ∈ u.events) :
    (∃ v ∈ between, v.LosesLogin id) ∨
      ∃ v ∈ between, ∃ t, v.GrantsLogin id false t ∧
        ∃ w ∈ u :: between, ∃ t', SucceededIn between t t' ∧ w.before.state.token? = some t' ∧
          (t'.HasEnded w.now ∨ w.ShutsDown) := by
  obtain ⟨before, does⟩ := run.of_cons
  obtain ⟨-, ⟨-, granted, none⟩ | ⟨⟨⟩, -⟩⟩ := does.loginSent again
  cases before.sequel sent with
  | flying holder => exact nomatch granted.symm.trans holder
  | lost hv loses => exact .inl ⟨_, hv, loses⟩
  | held hv grants succeeded token =>
      have hended := (Token.isExpired_eq_true_iff.1 (usable_eq_none_iff.1 none _ token)).1
      exact .inr ⟨_, hv, _, grants, u, List.mem_cons_self, _, succeeded, token, .inl hended⟩
  | gone hv grants succeeded hw token cause =>
      exact .inr ⟨_, hv, _, grants, _, List.mem_cons_of_mem u hw, _, succeeded, token, cause⟩

/-! ## The calls that wait for a login -/

/-- The session goes on and nobody asks for a login as such, and a published token lasts. -/
structure Moment.IsGood (m : Moment) : Prop where
  stays : ¬ m.ShutsDown
  unforced : ∀ id, .loginSent id true ∉ m.events
  good : ∀ t, m.before.state.token? = some t → t.isExpired m.now = .ok false

/-- What becomes of a call that waits for the guard while a token and what it is renewed into last:
it waits on, is dropped or gets that token. -/
inductive Served (t : Token) (moments : List Moment) (s : Session) (id : CallId) : Prop
  | waits (line : (id, .getToken) ∈ s.line)
  | dropped {m : Moment} (hm : m ∈ moments) (drops : m.label = .drop id)
  | got {m : Moment} {t' : Token} (hm : m ∈ moments) (renewed : RenewedIn moments t t')
      (returned : .returned id (.token t') ∈ m.events)

/-- How things stand some good moments after a login has made the token: that or what it was
renewed into is published, no login was sent, and none is in flight. -/
structure Shared (t : Token) (moments : List Moment) (s : Session) : Prop where
  token : ∃ t', RenewedIn moments t t' ∧ s.state.token? = some t'
  none_sent : loginsSent moments = []
  idle : ∀ id forced superseded deadline,
    s.active ≠ some (id, .loggingIn forced superseded deadline)

theorem LineMove.mem_line (move : s.LineMove l s' events) {call : Call} (h : (id, call) ∈ s.line)
    (on : ¬ Ends l events id) : (id, call) ∈ s'.line := by
  cases move with
  | pass caller label line | hold label line => rwa [line]
  | join caller call' label line =>
      rw [line]
      exact List.mem_append_left _ h
  | handOn caller call' label line ends =>
      rw [line] at h
      rcases List.mem_cons.1 h with hfirst | hmem
      · exact absurd ((ends id).2 (Prod.mk.inj hfirst).1) on
      · exact hmem
  | leave caller label line ends =>
      rw [line]
      exact List.mem_filter.2 ⟨h, by simpa using fun he => on ((ends id).2 he)⟩

/-- A call for a token that returns as the holder of the guard has just looked at the published
one. -/
theorem Does.serves_of_returned (h : s.Does now l s' events)
    (holder : s.active = some (id, .granted .getToken)) {reply : Reply}
    (returned : .returned id reply ∈ events) : Moment.Serves ⟨s, now, l, s', events⟩ id := by
  cases h with
  | handOut | crashAtOnce =>
      obtain ⟨rfl, -⟩ := Event.returned.inj (List.mem_singleton.1 returned)
      exact .inl rfl
  | share | crash =>
      obtain ⟨rfl, -⟩ := Event.returned.inj (List.mem_singleton.1 returned)
      exact .inr ⟨holder, rfl⟩
  | ask | dropHolder | dropWaiting => exact nomatch returned
  | lapse | sendLogin => simp at returned
  | forceLogin holder' | noSession holder' | skipRenewal holder' | sendRenewal holder'
  | closeRevoking holder' | close holder' | logIn holder' | supersede holder'
  | failLogin _ holder' | renew holder' | keep _ holder' | lose _ holder'
  | crashRenewing _ holder' | endRevocation _ holder' => exact nomatch holder.symm.trans holder'

theorem Does.not_sent (h : s.Does now l s' events)
    (good : Moment.IsGood ⟨s, now, l, s', events⟩) (token : s.state.token? = some t)
    (forced : Bool) : .loginSent id forced ∉ events := by
  intro sent
  rcases h.loginSent sent with ⟨-, ⟨-, -, none⟩ | ⟨rfl, -⟩⟩
  · exact nomatch (good.good t token).symm.trans (usable_eq_none_iff.1 none t token)
  · exact good.unforced id sent

theorem Shared.step {moments : List Moment} (shared : Shared t moments s)
    (h : s.Does now l s' events) (coherent : s.Coherent)
    (good : Moment.IsGood ⟨s, now, l, s', events⟩) :
    Shared t (⟨s, now, l, s', events⟩ :: moments) s' := by
  have hsub : moments ⊆ (⟨s, now, l, s', events⟩ : Moment) :: moments :=
    List.subset_cons_self _ _
  obtain ⟨u, renewed, token⟩ := shared.token
  have hsent (id : CallId) (forced : Bool) : .loginSent id forced ∉ events :=
    h.not_sent good token forced
  refine ⟨?_, ?_, ?_⟩
  · rcases h.succeeds coherent token with hkept | ⟨u', next, token'⟩ | hended | hcloses
    · exact ⟨u, renewed.mono hsub, hkept⟩
    · rcases next with renews | ⟨-, caller, superseded, deadline, g, holder, -⟩
      · exact ⟨u', (renewed.mono hsub).tail ⟨_, List.mem_cons_self, renews⟩, token'⟩
      · exact absurd holder (shared.idle _ _ _ _)
    · have hlasts := Token.lasts_of_isExpired_eq_false (good.good u token)
      exact absurd hlasts (Token.hasEnded_iff_not_lasts.1 hended)
    · exact absurd hcloses good.stays
  · have hnone : events.filterMap Event.login? = [] := by
      refine List.filterMap_eq_nil_iff.2 fun e he => ?_
      cases e with
      | loginSent id forced => exact absurd he (hsent id forced)
      | _ => rfl
    simp only [loginsSent, List.flatMap_cons, hnone, List.nil_append]
    exact shared.none_sent
  · intro id forced superseded deadline active
    rcases h.loggingIn active with hactive | sent
    · exact shared.idle _ _ _ _ hactive
    · exact hsent id forced sent

/-- With no login in flight, a call for a token holds the guard only before it goes on. -/
theorem Shared.granted_of_call {moments : List Moment} (shared : Shared t moments s)
    {phase : Phase} (holder : s.active = some (id, phase)) (call : phase.call = .getToken) :
    phase = .granted .getToken := by
  cases phase with
  | granted call' => exact congrArg Phase.granted call
  | loggingIn forced superseded deadline => exact absurd holder (shared.idle _ _ _ _)
  | renewing => exact nomatch call
  | revoking target deadline reply => cases reply <;> exact nomatch call

theorem Served.step {moments : List Moment} (served : Served t moments s id)
    (run : Run strategy timeout history s) (shared : Shared t moments s)
    (h : s.Does now l s' events) (good : Moment.IsGood ⟨s, now, l, s', events⟩) :
    Served t (⟨s, now, l, s', events⟩ :: moments) s' id := by
  have hsub : moments ⊆ (⟨s, now, l, s', events⟩ : Moment) :: moments :=
    List.subset_cons_self _ _
  cases served with
  | dropped hm drops => exact .dropped (hsub hm) drops
  | got hm renewed returned => exact .got (hsub hm) (renewed.mono hsub) returned
  | waits line =>
      by_cases done : Ends l events id
      · rcases done with drops | ⟨reply, returned⟩
        · exact .dropped List.mem_cons_self drops
        · obtain ⟨u, renewed, token⟩ := shared.token
          have serves : Moment.Serves ⟨s, now, l, s', events⟩ id := by
            rcases h.caller_of_event returned rfl with hbegin | ⟨phase, holder⟩
            · exact .inl hbegin
            · have hcall := (run.callOf_of_active holder).symm.trans (run.callOf_of_mem_line line)
              obtain rfl := shared.granted_of_call holder (Option.some.inj hcall)
              exact h.serves_of_returned holder returned
          obtain ⟨-, rfl⟩ := h.serves serves token (good.good u token)
          exact .got List.mem_cons_self (renewed.mono hsub) List.mem_cons_self
      · exact .waits ((h.lineMove run.coherent).mem_line line done)

/-- A call for a token whose login succeeds publishes the token, gets it and hands the guard on. -/
theorem Does.eq_of_grantsLogin (h : s.Does now l s' events) (coherent : s.Coherent)
    (grants : Moment.GrantsLogin ⟨s, now, l, s', events⟩ id false t) :
    s' = (s.publish (.valid t)).release ∧
      events = [.published (.valid t), .loginEnded true, .returned id (.token t)] := by
  obtain ⟨superseded, deadline, g, holder, hlabel, rfl⟩ := grants
  obtain rfl : l = .answer id (.granted g) := hlabel
  cases h with
  | logIn => exact ⟨rfl, rfl⟩
  | supersede holder' =>
      -- a login for a call for a token replaces none
      obtain ⟨-, hphase⟩ := Prod.mk.inj (Option.some.inj (holder.symm.trans holder'))
      obtain ⟨rfl, rfl, -⟩ := Phase.loggingIn.inj hphase
      have hnone := coherent.unforced_token _ _ _ holder
      exact nomatch (coherent.superseded_eq _ _ _ _ holder).trans hnone
  | renew holder' => exact nomatch holder.symm.trans holder'
  | failLogin label | keep label | lose label | crashRenewing label | endRevocation label =>
      exact absurd rfl (label.2 g)

/-- When the holder hands the guard on, those who waited for it make the line. -/
theorem line_of_handOn {phase : Phase} (holder : s.active = some (id, phase))
    (state : SessionState) : (s.publish state).release.line = s.queue := by
  have hline := (line_release holder).symm.trans (line_of_active holder)
  simp only [line, release_publish_active, release_publish_queue]
  exact (List.cons.inj hline).2

/-- How things stand some good moments after the login of a call for a token has succeeded. -/
theorem Run.shared (run : Run strategy timeout (later ++ v :: past) s)
    (grants : v.GrantsLogin id false t) (good : ∀ u ∈ later, u.IsGood) :
    Shared t later s ∧
      ∀ w, (w, .getToken) ∈ v.before.queue → Served t later s w := by
  induction later generalizing s with
  | nil =>
      obtain ⟨before, does⟩ := run.of_cons
      obtain rfl : v.after = s := by cases run; rfl
      obtain ⟨hafter, -⟩ := does.eq_of_grantsLogin before.coherent grants
      obtain ⟨superseded, deadline, g, holder, -⟩ := grants
      rw [hafter]
      refine ⟨⟨⟨t, .refl, by simp [SessionState.token?]⟩, rfl, ?_⟩, ?_⟩
      · intro x forced superseded deadline active
        rw [release_publish_active] at active
        exact nomatch release_active_granted active
      · intro w hw
        rw [← line_of_handOn holder (.valid t)] at hw
        exact .waits hw
  | cons u rest ih =>
      obtain ⟨before, does⟩ := Run.of_cons run
      obtain rfl : u.after = s := by cases run; rfl
      obtain ⟨shared, served⟩ := ih before fun w hw => good w (List.mem_cons_of_mem u hw)
      have hgood := good u List.mem_cons_self
      exact ⟨shared.step does before.coherent hgood,
        fun w hw => (served w hw).step before shared does hgood⟩

/-- While a login of a call for a token is in flight no other is sent. -/
theorem Run.loginsSent_of_flight (run : Run strategy timeout (mid ++ m :: past) s)
    (sent : .loginSent id false ∈ m.events) (on : ∀ u ∈ mid, ¬ Ends u.label u.events id) :
    loginsSent (mid ++ [m]) = [id] ∧
      ∃ superseded deadline, s.active = some (id, .loggingIn false superseded deadline) := by
  induction mid generalizing s with
  | nil =>
      obtain ⟨-, does⟩ := run.of_cons
      obtain rfl : m.after = s := by cases run; rfl
      obtain ⟨hlogins, hactive⟩ := does.loggingIn_of_sent sent
      exact ⟨by simp [loginsSent, hlogins], hactive⟩
  | cons u rest ih =>
      obtain ⟨before, does⟩ := Run.of_cons run
      obtain rfl : u.after = s := by cases run; rfl
      obtain ⟨hlogins, superseded, deadline, holder⟩ :=
        ih before fun w hw => on w (List.mem_cons_of_mem u hw)
      rcases does.flight before.coherent holder with ⟨hactive, hnone⟩ | ⟨hends, -⟩
      · refine ⟨?_, superseded, deadline, hactive.trans holder⟩
        simpa [loginsSent, hnone] using hlogins
      · exact absurd hends (on u List.mem_cons_self)

/-! ## Every run -/

/-- **Logins for calls for a token are shared.** In every run:

* such a call sends a login only when there is no good token, and when every login and renewal
  that was sent before is over;
* between two such logins the first one was lost, or the token it made, with what that had become,
  was published until its lease or the session ended;
* if such a login succeeds, and from then on the session goes on, nobody asks for a login as such
  and the published token lasts, then it is the only login from the moment it was sent on. Whoever
  had called for a token by the time it succeeded and was not over gets the token that it made, or
  what that was renewed into, unless the call is dropped or still waits for its turn. -/
theorem Run.shares_logins (run : Run strategy timeout history s) :
    (∀ m past, m :: past <:+ history → ∀ id, .loginSent id false ∈ m.events →
      callOf (m :: past) id = some .getToken ∧ m.before.usable m.now = .ok none ∧
      ∀ later u earlier x, past = later ++ u :: earlier → u.Sends x →
        ∃ w ∈ later, Ends w.label w.events x) ∧
    (∀ u between m past id x, u :: (between ++ m :: past) <:+ history →
      .loginSent id false ∈ m.events → .loginSent x false ∈ u.events →
      (∃ v ∈ between, v.LosesLogin id) ∨
        ∃ v ∈ between, ∃ t, v.GrantsLogin id false t ∧
          ∃ w ∈ u :: between, ∃ t', SucceededIn between t t' ∧
            w.before.state.token? = some t' ∧ (t'.HasEnded w.now ∨ w.ShutsDown)) ∧
    (∀ later v mid m past id g, history = later ++ v :: (mid ++ m :: past) →
      .loginSent id false ∈ m.events → (∀ u ∈ mid, ¬ Ends u.label u.events id) →
      v.label = .answer id (.granted g) → (∀ u ∈ later, u.IsGood) →
      loginsSent (later ++ v :: (mid ++ [m])) = [id] ∧
      ∃ t, v.GrantsLogin id false t ∧ .returned id (.token t) ∈ v.events ∧
        (∃ t', RenewedIn later t t' ∧ s.state.token? = some t') ∧
        ∀ w, w ≠ id → Live (mid ++ m :: past) w →
          callOf (mid ++ m :: past) w = some .getToken →
          (w, .getToken) ∈ s.line ∨ (∃ u ∈ later, u.label = .drop w) ∨
            ∃ u ∈ later, ∃ t', RenewedIn later t t' ∧ t'.value = t.value ∧
              .returned w (.token t') ∈ u.events) := by
  refine ⟨?_, ?_, ?_⟩
  · intro m past hm id sent
    have after := run.of_suffix hm
    obtain ⟨before, does⟩ := after.of_cons
    obtain ⟨hlabel, ⟨-, holder, none⟩ | ⟨⟨⟩, -⟩⟩ := does.loginSent sent
    refine ⟨?_, none, ?_⟩
    · have hbegins : ¬ m.label.Begins id := by
        rw [hlabel]
        exact not_false
      rw [callOf_of_not_begins hbegins, before.callOf_of_active holder]
      rfl
    · rintro later u earlier x rfl sends
      exact after.over_of_sent sent sends
  · intro u between m past id x hu sent again
    exact (run.of_suffix hu).gone_of_sent sent again
  · rintro later v mid m past id g rfl sent on hlabel good
    obtain ⟨before, does⟩ := (run.of_suffix (List.suffix_append later _)).of_cons
    obtain ⟨hlogins, superseded, deadline, holder⟩ := before.loginsSent_of_flight sent on
    have grants : v.GrantsLogin id false (v.before.strategy.accept g v.now) :=
      ⟨superseded, deadline, g, holder, hlabel, rfl⟩
    obtain ⟨-, hevents⟩ := does.eq_of_grantsLogin before.coherent grants
    obtain ⟨shared, served⟩ := run.shared grants good
    refine ⟨?_, _, grants, by simp [hevents], shared.token, ?_⟩
    · have hhere : v.events.filterMap Event.login? = [] := by simp [hevents, Event.login?]
      calc loginsSent (later ++ v :: (mid ++ [m]))
          = loginsSent later ++ (v.events.filterMap Event.login? ++ loginsSent (mid ++ [m])) := by
            simp [loginsSent]
        _ = [id] := by rw [shared.none_sent, hhere, hlogins]; rfl
    · intro w hne live call
      have hcallers : w ∈ v.before.callers := (before.callers_iff w).2 live
      rw [← map_fst_line, line_of_active holder, List.map_cons, List.mem_cons] at hcallers
      obtain ⟨⟨caller, call'⟩, hmem, rfl⟩ := List.mem_map.1 (hcallers.resolve_left hne)
      have hcall := before.callOf_of_mem_line (List.mem_append_right _ hmem)
      obtain rfl := Option.some.inj (hcall.symm.trans call)
      cases served caller hmem with
      | waits line => exact .inl line
      | dropped hm drops => exact .inr (.inl ⟨_, hm, drops⟩)
      | got hm renewed returned =>
          exact .inr (.inr ⟨_, hm, _, renewed, renewed.value_eq, returned⟩)

/-- Two callers wait while the login of a third is in flight. -/
def sharedHistory : List Moment :=
  replay (.userpass "userpass" "user" ⟨"password"⟩) 500 []
    [(0, .begin 0 .getToken), (0, .proceed 0), (10, .begin 1 .getToken),
      (20, .begin 2 .getToken), (100, .answer 0 (.granted ⟨"a", 1000, true⟩)),
      (110, .proceed 1), (120, .proceed 2)]

theorem shares_logins_sharedHistory :
    loginsSent sharedHistory.dropLast = [0] ∧
      ∀ w ∈ [1, 2], ∃ u ∈ sharedHistory, ∃ t : Token, t.value = ⟨"a"⟩ ∧
        .returned w (.token t) ∈ u.events := by
  have run : Run (.userpass "userpass" "user" ⟨"password"⟩) 500 sharedHistory
      (latest _ 500 sharedHistory) := Run.fresh.replay _
  let token : Token := ⟨⟨"a"⟩, 1000, true, 100, .login⟩
  have shared {u : Moment} {x : CallId} (holder : u.before.active = some (x, .granted .getToken))
      (htoken : u.before.state.token? = some token) (hnow : u.now < 1100)
      (hevents : u.events = [.returned x (.token token)]) : u.IsGood := by
    refine ⟨?_, ?_, ?_⟩
    · rintro ⟨revoke, caller, closes, -⟩
      exact nomatch holder.symm.trans closes
    · simp [hevents]
    · intro t ht
      obtain rfl := Option.some.inj (htoken.symm.trans ht)
      exact Token.isExpired_eq_false_iff.2 (.inr ⟨hnow, by decide⟩)
  have good : ∀ u ∈ sharedHistory.take 2, u.IsGood := by
    intro u hu
    rcases List.mem_cons.1 hu with rfl | hu
    · exact shared rfl rfl (by decide) rfl
    · obtain rfl := List.mem_singleton.1 hu
      exact shared rfl rfl (by decide) rfl
  obtain ⟨-, -, shares⟩ := run.shares_logins
  obtain ⟨hlogins, t, ⟨-, -, g, -, hlabel, ht⟩, -, -, served⟩ :=
    shares (sharedHistory.take 2) _ [_, _] _ _ 0 ⟨"a", 1000, true⟩ rfl List.mem_cons_self
      (by decide) rfl good
  obtain ⟨-, hg⟩ := Label.answer.inj hlabel
  obtain rfl := Answer.granted.inj hg
  refine ⟨hlogins, ?_⟩
  intro w hw
  rcases List.mem_cons.1 hw with rfl | hw
  · obtain ⟨u, hu, t', -, hvalue, returned⟩ :=
      ((served 1 (by decide) ⟨by decide, .inr ⟨by decide, .inl rfl⟩⟩ rfl).resolve_left
        (by decide)).resolve_left (by decide)
    exact ⟨u, List.mem_of_mem_take hu, t', hvalue.trans (ht ▸ rfl), returned⟩
  · obtain rfl := List.mem_singleton.1 hw
    obtain ⟨u, hu, t', -, hvalue, returned⟩ :=
      ((served 2 (by decide) ⟨by decide, .inl rfl⟩ rfl).resolve_left
        (by decide)).resolve_left (by decide)
    exact ⟨u, List.mem_of_mem_take hu, t', hvalue.trans (ht ▸ rfl), returned⟩

end Session

end SecretConfig
