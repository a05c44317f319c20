import SecretConfig.Session.Machine

set_option autoImplicit false

/-! # What a step of a session can do

`Session.step` is a function with many branches. `Session.Does` says the same as a relation
with one rule for each thing that can happen, with all that is known when it happens, and
`Session.does_of_step` opens a step into these rules. Every fact about the steps of a session
is proved by going through the rules; no proof after this file unfolds `Session.step`.

The rules leave the guard in one of four ways (`Session.GuardMove`): nobody's place changes,
a call asks for the guard, the holder keeps it in another phase, or the holder gives it up.
They change the published state in one of seven ways (`Session.Change`), at most once each. -/

namespace SecretConfig

/-! ## Tokens that grants make -/

theorem Strategy.accept_of_ne_token {strategy : Strategy} (h : ∀ v, strategy ≠ .token v)
    (g : Grant) (now : Instant) :
    strategy.accept g now = ⟨⟨g.value⟩, g.lease, g.renewable, now, .login⟩ := by
  cases strategy with
  | token v => exact absurd rfl (h v)
  | appRole | kubernetes | userpass | cert => rfl

@[simp] theorem Strategy.accept_lease (strategy : Strategy) (g : Grant) (now : Instant) :
    (strategy.accept g now).lease = g.lease := by
  cases strategy <;> rfl

@[simp] theorem Strategy.accept_issuedAt (strategy : Strategy) (g : Grant) (now : Instant) :
    (strategy.accept g now).issuedAt = now := by
  cases strategy <;> rfl

/-- The call that returns with the event. -/
def Event.returner? : Event → Option CallId
  | .returned id _ => some id
  | _ => none

namespace Session

/-! ## Parts of a step -/

@[simp] theorem publish_state (s : Session) (state : SessionState) :
    (s.publish state).state = state := rfl

@[simp] theorem publish_active (s : Session) (state : SessionState) :
    (s.publish state).active = s.active := rfl

@[simp] theorem publish_queue (s : Session) (state : SessionState) :
    (s.publish state).queue = s.queue := rfl

@[simp] theorem publish_strategy (s : Session) (state : SessionState) :
    (s.publish state).strategy = s.strategy := rfl

@[simp] theorem publish_timeout (s : Session) (state : SessionState) :
    (s.publish state).timeout = s.timeout := rfl

@[simp] theorem release_state (s : Session) : s.release.state = s.state := by
  unfold release; split <;> rfl

@[simp] theorem release_strategy (s : Session) : s.release.strategy = s.strategy := by
  unfold release; split <;> rfl

@[simp] theorem release_timeout (s : Session) : s.release.timeout = s.timeout := by
  unfold release; split <;> rfl

@[simp] theorem acquire_state (s : Session) (id : CallId) (call : Call) :
    (s.acquire id call).state = s.state := by
  unfold acquire; split <;> rfl

@[simp] theorem acquire_strategy (s : Session) (id : CallId) (call : Call) :
    (s.acquire id call).strategy = s.strategy := by
  unfold acquire; split <;> rfl

@[simp] theorem acquire_timeout (s : Session) (id : CallId) (call : Call) :
    (s.acquire id call).timeout = s.timeout := by
  unfold acquire; split <;> rfl

/-- A good token is the published one, and its lease has not ended. -/
theorem usable_eq_some_iff {s : Session} {now : Instant} {t : Token} :
    s.usable now = .ok (some t) ↔ s.state.token? = some t ∧ t.isExpired now = .ok false := by
  unfold usable
  cases s.state.token? with
  | none => simp
  | some u =>
      by_cases hu : u = t
      · subst hu
        cases he : u.isExpired now with
        | error fault => simp [Except.map, he]
        | ok expired => cases expired <;> simp [Except.map, he]
      · cases he : u.isExpired now with
        | error fault => simp [Except.map, he, hu]
        | ok expired => cases expired <;> simp [Except.map, he, hu]

/-- There is no good token: none is published, or its lease has ended. -/
theorem usable_eq_none_iff {s : Session} {now : Instant} :
    s.usable now = .ok none ↔ ∀ t, s.state.token? = some t → t.isExpired now = .ok true := by
  unfold usable
  cases s.state.token? with
  | none => simp
  | some u =>
      cases he : u.isExpired now with
      | error fault => simp [Except.map, he]
      | ok expired => cases expired <;> simp [Except.map, he]

/-! ## The rules -/

/-- The request of a call comes to its end without a grant: the store answers something else,
or the time for it is over. -/
def Label.EndsUngranted (id : CallId) : Label → Prop
  | .answer caller a => caller = id ∧ ∀ g, a ≠ .granted g
  | .expire caller => caller = id
  | _ => False

/-- What a step with a label does at an instant, rule by rule: the session after it and the
events of the step. -/
inductive Does (s : Session) (now : Instant) : Label → Session → List Event → Prop
  /-- A call gets the good token at once. -/
  | handOut {id : CallId} {t : Token} (good : s.usable now = .ok (some t)) :
      Does s now (.begin id .getToken) s [.returned id (.token t)]
  /-- The expiry of the token cannot be computed. -/
  | crashAtOnce {id : CallId} {fault : ClockFault} (bad : s.usable now = .error fault) :
      Does s now (.begin id .getToken) s [.returned id (.crashed fault)]
  /-- A call asks for the guard. -/
  | ask {id : CallId} {call : Call} (needed : call = .getToken → s.usable now = .ok none) :
      Does s now (.begin id call) (s.acquire id call) []
  /-- A call that waited for the guard finds a good token. -/
  | share {id : CallId} {t : Token} (holder : s.active = some (id, .granted .getToken))
      (good : s.usable now = .ok (some t)) :
      Does s now (.proceed id) s.release [.returned id (.token t)]
  | crash {id : CallId} {fault : ClockFault} (holder : s.active = some (id, .granted .getToken))
      (bad : s.usable now = .error fault) :
      Does s now (.proceed id) s.release [.returned id (.crashed fault)]
  /-- A token whose lease has ended is given up and a login is sent. -/
  | lapse {id : CallId} {t : Token} (holder : s.active = some (id, .granted .getToken))
      (token : s.state.token? = some t) (ended : t.isExpired now = .ok true) :
      Does s now (.proceed id)
        { s.publish .expired with active := some (id, .loggingIn false none (now + s.timeout)) }
        [.published .expired, .loginSent id false]
  /-- A login is sent because there is no token. -/
  | sendLogin {id : CallId} (holder : s.active = some (id, .granted .getToken))
      (token : s.state.token? = none) :
      Does s now (.proceed id)
        { s with active := some (id, .loggingIn false none (now + s.timeout)) }
        [.loginSent id false]
  /-- A login is sent because it was asked for. -/
  | forceLogin {id : CallId} (holder : s.active = some (id, .granted .login)) :
      Does s now (.proceed id)
        { s with active := some (id, .loggingIn true s.state.token? (now + s.timeout)) }
        [.loginSent id true]
  | noSession {id : CallId} (holder : s.active = some (id, .granted .renew))
      (token : s.state.token? = none) :
      Does s now (.proceed id) s.release [.returned id (.failed (.renewal .noSession))]
  /-- A token that cannot be renewed is returned as it is. -/
  | skipRenewal {id : CallId} {t : Token} (holder : s.active = some (id, .granted .renew))
      (token : s.state.token? = some t) (fixed : t.isRenewable = false) :
      Does s now (.proceed id) s.release [.returned id (.token t)]
  | sendRenewal {id : CallId} {t : Token} (holder : s.active = some (id, .granted .renew))
      (token : s.state.token? = some t) (renewable : t.isRenewable = true) :
      Does s now (.proceed id)
        { s.publish (.renewing t) with active := some (id, .renewing t (now + s.timeout)) }
        [.published (.renewing t), .renewalSent id t]
  /-- The session ends and its token, which came from a login, is to be revoked. -/
  | closeRevoking {id : CallId} {t : Token}
      (holder : s.active = some (id, .granted (.shutdown true)))
      (token : s.state.token? = some t) (origin : t.origin = .login) :
      Does s now (.proceed id)
        { s.publish .unauthenticated with
            active := some (id, .revoking t (now + s.timeout) .closed) }
        [.published .unauthenticated, .revocationSent id t]
  /-- The session ends and there is no token to be revoked. -/
  | close {id : CallId} {revoke : Bool}
      (holder : s.active = some (id, .granted (.shutdown revoke)))
      (keep : ∀ t, s.state.token? = some t → revoke = true → t.origin ≠ .login) :
      Does s now (.proceed id) (s.publish .unauthenticated).release
        [.published .unauthenticated, .returned id .closed]
  /-- A login succeeded and replaced no token that has to be revoked. -/
  | logIn {id : CallId} {forced : Bool} {superseded : Option Token} {deadline : Instant}
      {g : Grant} (holder : s.active = some (id, .loggingIn forced superseded deadline))
      (keep : ∀ old ∈ superseded,
        old.origin = .login → old.value = (s.strategy.accept g now).value) :
      Does s now (.answer id (.granted g))
        (s.publish (.valid (s.strategy.accept g now))).release
        [.published (.valid (s.strategy.accept g now)), .loginEnded true,
          .returned id (.token (s.strategy.accept g now))]
  /-- A login succeeded and the token that it replaced is to be revoked. -/
  | supersede {id : CallId} {forced : Bool} {old : Token} {deadline : Instant} {g : Grant}
      (holder : s.active = some (id, .loggingIn forced (some old) deadline))
      (origin : old.origin = .login) (other : old.value ≠ (s.strategy.accept g now).value) :
      Does s now (.answer id (.granted g))
        { s.publish (.valid (s.strategy.accept g now)) with
            active := some (id, .revoking old (now + s.timeout)
              (.token (s.strategy.accept g now))) }
        [.published (.valid (s.strategy.accept g now)), .loginEnded true, .revocationSent id old]
  | failLogin {l : Label} {id : CallId} {forced : Bool} {superseded : Option Token}
      {deadline : Instant} {fault : AuthenticationFault} (label : l.EndsUngranted id)
      (holder : s.active = some (id, .loggingIn forced superseded deadline)) :
      Does s now l s.release [.loginEnded false, .returned id (.failed (.authentication fault))]
  | renew {id : CallId} {current : Token} {deadline : Instant} {g : Grant}
      (holder : s.active = some (id, .renewing current deadline)) :
      Does s now (.answer id (.granted g))
        (s.publish (.valid (current.renewed g.lease g.renewable now))).release
        [.published (.valid (current.renewed g.lease g.renewable now)), .renewalEnded true,
          .returned id (.token (current.renewed g.lease g.renewable now))]
  /-- A renewal failed and the lease of the token lasts. -/
  | keep {l : Label} {id : CallId} {current : Token} {deadline : Instant} {fault : StoreFault}
      (label : l.EndsUngranted id) (holder : s.active = some (id, .renewing current deadline))
      (good : current.isExpired now = .ok false) :
      Does s now l (s.publish (.valid current)).release
        [.renewalEnded false, .published (.valid current),
          .returned id (.failed (.renewal (.store fault)))]
  /-- A renewal failed and the lease of the token has ended. -/
  | lose {l : Label} {id : CallId} {current : Token} {deadline : Instant} {fault : StoreFault}
      (label : l.EndsUngranted id) (holder : s.active = some (id, .renewing current deadline))
      (ended : current.isExpired now = .ok true) :
      Does s now l (s.publish .expired).release
        [.renewalEnded false, .published .expired,
          .returned id (.failed (.renewal (.store fault)))]
  | crashRenewing {l : Label} {id : CallId} {current : Token} {deadline : Instant}
      {fault : ClockFault} (label : l.EndsUngranted id)
      (holder : s.active = some (id, .renewing current deadline))
      (bad : current.isExpired now = .error fault) :
      Does s now l s.release [.renewalEnded false, .returned id (.crashed fault)]
  /-- A revocation has an end, whatever it is. -/
  | endRevocation {l : Label} {id : CallId} {target : Token} {deadline : Instant}
      {reply : Reply} (label : l.EndsUngranted id)
      (holder : s.active = some (id, .revoking target deadline reply)) :
      Does s now l s.release [.returned id reply]
  | dropHolder {id : CallId} {phase : Phase} (holder : s.active = some (id, phase)) :
      Does s now (.drop id) s.release []
  /-- A call is dropped that does not hold the guard. -/
  | dropWaiting {id : CallId} (waiting : ∀ phase, s.active ≠ some (id, phase)) :
      Does s now (.drop id) { s with queue := s.queue.filter fun c => c.1 ≠ id } []

variable {s s' : Session} {now : Instant} {l : Label} {events : List Event}

/-! ## Opening a step -/

theorem does_of_begin {id : CallId} {call : Call} (h : s.begin now id call = (s', events)) :
    s.Does now (.begin id call) s' events := by
  cases call with
  | getToken =>
      simp only [begin] at h
      split at h
      · obtain ⟨rfl, rfl⟩ := Prod.mk.inj h
        exact .crashAtOnce ‹_›
      · obtain ⟨rfl, rfl⟩ := Prod.mk.inj h
        exact .handOut ‹_›
      · obtain ⟨rfl, rfl⟩ := Prod.mk.inj h
        exact .ask fun _ => ‹_›
  | login =>
      obtain ⟨rfl, rfl⟩ := Prod.mk.inj h
      exact .ask nofun
  | renew =>
      obtain ⟨rfl, rfl⟩ := Prod.mk.inj h
      exact .ask nofun
  | shutdown revoke =>
      obtain ⟨rfl, rfl⟩ := Prod.mk.inj h
      exact .ask nofun

theorem does_of_proceed {id : CallId} {call : Call} (holder : s.active = some (id, .granted call))
    (h : s.proceed now id call = (s', events)) : s.Does now (.proceed id) s' events := by
  cases call with
  | getToken =>
      simp only [proceed] at h
      split at h
      · obtain ⟨rfl, rfl⟩ := Prod.mk.inj h
        exact .crash holder ‹_›
      · obtain ⟨rfl, rfl⟩ := Prod.mk.inj h
        exact .share holder ‹_›
      · rename_i none
        -- without a good token, one that is published has ended
        cases ht : s.state.token? with
        | none =>
            simp only [ht, Option.isSome_none, Bool.false_eq_true, if_false, startLogin] at h
            obtain ⟨rfl, rfl⟩ := Prod.mk.inj h
            exact .sendLogin holder ht
        | some t =>
            simp only [ht, Option.isSome_some, if_true, startLogin] at h
            obtain ⟨rfl, rfl⟩ := Prod.mk.inj h
            exact .lapse holder ht (usable_eq_none_iff.1 none t ht)
  | login =>
      obtain ⟨rfl, rfl⟩ := Prod.mk.inj h
      exact .forceLogin holder
  | renew =>
      simp only [proceed] at h
      cases ht : s.state.token? with
      | none =>
          rw [ht] at h
          obtain ⟨rfl, rfl⟩ := Prod.mk.inj h
          exact .noSession holder ht
      | some t =>
          rw [ht] at h
          cases hr : t.isRenewable with
          | true =>
              simp only [hr, if_true] at h
              obtain ⟨rfl, rfl⟩ := Prod.mk.inj h
              exact .sendRenewal holder ht hr
          | false =>
              simp only [hr, Bool.false_eq_true, if_false] at h
              obtain ⟨rfl, rfl⟩ := Prod.mk.inj h
              exact .skipRenewal holder ht hr
  | shutdown revoke =>
      simp only [proceed] at h
      split at h
      · rename_i t ht
        split at h
        · rename_i hrevoke
          simp only [Bool.and_eq_true, decide_eq_true_eq] at hrevoke
          obtain ⟨rfl, origin⟩ := hrevoke
          obtain ⟨rfl, rfl⟩ := Prod.mk.inj h
          exact .closeRevoking holder ht origin
        · rename_i hrevoke
          obtain ⟨rfl, rfl⟩ := Prod.mk.inj h
          refine .close holder fun t' ht' hrev origin => hrevoke ?_
          obtain rfl := Option.some.inj (ht.symm.trans ht')
          simp [hrev, origin]
      · rename_i ht
        obtain ⟨rfl, rfl⟩ := Prod.mk.inj h
        exact .close holder fun t' ht' => nomatch ht.symm.trans ht'

theorem does_of_loggedIn {id : CallId} {forced : Bool} {superseded : Option Token}
    {deadline : Instant} {g : Grant}
    (holder : s.active = some (id, .loggingIn forced superseded deadline))
    (h : s.loggedIn now id superseded g = (s', events)) :
    s.Does now (.answer id (.granted g)) s' events := by
  simp only [loggedIn] at h
  cases superseded with
  | none =>
      obtain ⟨rfl, rfl⟩ := Prod.mk.inj h
      exact .logIn holder (by simp)
  | some old =>
      by_cases hold : old.origin = .login ∧ old.value ≠ (s.strategy.accept g now).value
      · simp only [if_pos hold] at h
        obtain ⟨rfl, rfl⟩ := Prod.mk.inj h
        exact .supersede holder hold.1 hold.2
      · simp only [if_neg hold] at h
        obtain ⟨rfl, rfl⟩ := Prod.mk.inj h
        -- the old token came from no login, or has the value of the new one
        refine .logIn holder fun old' hmem origin => ?_
        obtain rfl := Option.mem_some_iff.1 hmem
        exact Decidable.byContradiction fun hne => hold ⟨origin, hne⟩

theorem does_of_renewalFailed {id : CallId} {current : Token} {deadline : Instant}
    {fault : StoreFault} (label : l.EndsUngranted id)
    (holder : s.active = some (id, .renewing current deadline))
    (h : s.renewalFailed now id current fault = (s', events)) : s.Does now l s' events := by
  simp only [renewalFailed] at h
  split at h
  · obtain ⟨rfl, rfl⟩ := Prod.mk.inj h
    exact .crashRenewing label holder ‹_›
  · rename_i expired he
    obtain ⟨rfl, rfl⟩ := Prod.mk.inj h
    cases expired with
    | true => exact .lose label holder he
    | false => exact .keep label holder he

theorem does_of_answer {id : CallId} {phase : Phase} {a : Answer}
    (holder : s.active = some (id, phase)) (h : s.answer now id phase a = some (s', events)) :
    s.Does now (.answer id a) s' events := by
  unfold answer at h
  split at h
  · exact does_of_loggedIn holder (Option.some.inj h)
  · obtain ⟨rfl, rfl⟩ := Prod.mk.inj (Option.some.inj h)
    exact .failLogin ⟨rfl, nofun⟩ holder
  · obtain ⟨rfl, rfl⟩ := Prod.mk.inj (Option.some.inj h)
    exact .failLogin ⟨rfl, nofun⟩ holder
  · obtain ⟨rfl, rfl⟩ := Prod.mk.inj (Option.some.inj h)
    exact .renew holder
  · exact does_of_renewalFailed ⟨rfl, nofun⟩ holder (Option.some.inj h)
  · obtain ⟨rfl, rfl⟩ := Prod.mk.inj (Option.some.inj h)
    exact .endRevocation ⟨rfl, nofun⟩ holder
  · obtain ⟨rfl, rfl⟩ := Prod.mk.inj (Option.some.inj h)
    exact .endRevocation ⟨rfl, nofun⟩ holder
  · exact nomatch h

theorem does_of_expire {id : CallId} {phase : Phase} (holder : s.active = some (id, phase))
    (h : s.expire now id phase = some (s', events)) : s.Does now (.expire id) s' events := by
  cases phase with
  | granted call => exact nomatch h
  | loggingIn forced superseded deadline =>
      simp only [expire, Option.ite_none_right_eq_some] at h
      obtain ⟨rfl, rfl⟩ := Prod.mk.inj (Option.some.inj h.2)
      exact .failLogin rfl holder
  | renewing current deadline =>
      simp only [expire, Option.ite_none_right_eq_some] at h
      exact does_of_renewalFailed rfl holder (Option.some.inj h.2)
  | revoking target deadline reply =>
      simp only [expire, Option.ite_none_right_eq_some] at h
      obtain ⟨rfl, rfl⟩ := Prod.mk.inj (Option.some.inj h.2)
      exact .endRevocation rfl holder

/-- **Every step follows a rule.** -/
theorem does_of_step (h : s.step now l = some (s', events)) : s.Does now l s' events := by
  cases l with
  | «begin» id call => exact does_of_begin (Option.some.inj h)
  | proceed id =>
      simp only [step] at h
      split at h
      · rename_i holder call hactive
        simp only [Option.ite_none_right_eq_some] at h
        obtain ⟨rfl, h⟩ := h
        exact does_of_proceed hactive (Option.some.inj h)
      · exact nomatch h
  | answer id a =>
      simp only [step] at h
      split at h
      · rename_i holder phase hactive
        simp only [Option.ite_none_right_eq_some] at h
        obtain ⟨rfl, h⟩ := h
        exact does_of_answer hactive h
      · exact nomatch h
  | expire id =>
      simp only [step] at h
      split at h
      · rename_i holder phase hactive
        simp only [Option.ite_none_right_eq_some] at h
        obtain ⟨rfl, h⟩ := h
        exact does_of_expire hactive h
      · exact nomatch h
  | drop id =>
      simp only [step] at h
      split at h
      · rename_i holder phase hactive
        split at h
        · rename_i hid
          subst hid
          obtain ⟨rfl, rfl⟩ := Prod.mk.inj (Option.some.inj h)
          exact .dropHolder hactive
        · rename_i hid
          obtain ⟨rfl, rfl⟩ := Prod.mk.inj (Option.some.inj h)
          exact .dropWaiting fun phase' he => hid (by rw [hactive] at he; simp_all)
      · rename_i hactive
        obtain ⟨rfl, rfl⟩ := Prod.mk.inj (Option.some.inj h)
        exact .dropWaiting fun phase he => by simp [hactive] at he

/-- A session keeps its strategy. -/
theorem Does.strategy_eq (h : s.Does now l s' events) : s'.strategy = s.strategy := by
  cases h with
  | handOut | crashAtOnce | lapse | sendLogin | forceLogin | sendRenewal | closeRevoking
  | supersede | dropWaiting => rfl
  | ask | share | crash | noSession | skipRenewal | close | logIn | failLogin | renew | keep
  | lose | crashRenewing | endRevocation | dropHolder => simp

/-! ## The guard -/

/-- The calls that are on: the one that holds the guard and those that wait for it. -/
def callers (s : Session) : List CallId :=
  s.active.toList.map Prod.fst ++ s.queue.map Prod.fst

/-- The label makes a call. -/
def Label.Begins (id : CallId) : Label → Prop
  | .begin caller _ => caller = id
  | _ => False

theorem Label.Begins.eq {id x : CallId} {l : Label} (h : l.Begins id) (hx : l.Begins x) :
    x = id := by
  cases l with
  | «begin» caller call => exact hx.symm.trans h
  | proceed caller | answer caller a | expire caller | drop caller => exact hx.elim

/-- A call is over with a step: it returned, or it was dropped. -/
def Ends (l : Label) (events : List Event) (id : CallId) : Prop :=
  l = .drop id ∨ ∃ reply, .returned id reply ∈ events

instance (l : Label) (events : List Event) (id : CallId) : Decidable (Ends l events id) :=
  decidable_of_iff (l = .drop id ∨ ∃ e ∈ events, e.returner? = some id) (by
    refine or_congr_right ⟨?_, ?_⟩
    · rintro ⟨e, he, hid⟩
      cases e with
      | returned caller reply =>
          obtain rfl := Option.some.inj hid
          exact ⟨reply, he⟩
      | _ => exact nomatch hid
    · rintro ⟨reply, he⟩
      exact ⟨_, he, rfl⟩)

/-- What becomes of the guard and of the calls that wait for it. -/
inductive GuardMove (s : Session) (l : Label) (s' : Session) (events : List Event) : Prop
  /-- A call is over as soon as it is made. -/
  | pass (id : CallId) (label : l.Begins id) (active : s'.active = s.active)
      (queue : s'.queue = s.queue) (ends : ∀ x, Ends l events x ↔ x = id)
  /-- A call is made and asks for the guard. -/
  | ask (id : CallId) (call : Call) (label : l = .begin id call) (next : s' = s.acquire id call)
      (ends : ∀ x, ¬ Ends l events x)
  /-- The holder goes on to another phase. -/
  | hold (id : CallId) (phase phase' : Phase) (holder : s.active = some (id, phase))
      (active : s'.active = some (id, phase')) (waits : ∀ call, phase' ≠ .granted call)
      (queue : s'.queue = s.queue) (label : ∀ x, ¬ l.Begins x) (ends : ∀ x, ¬ Ends l events x)
  /-- The holder is over and hands the guard on. -/
  | handOn (id : CallId) (phase : Phase) (holder : s.active = some (id, phase))
      (active : s'.active = s.release.active) (queue : s'.queue = s.release.queue)
      (label : ∀ x, ¬ l.Begins x) (ends : ∀ x, Ends l events x ↔ x = id)
  /-- A call that does not hold the guard is dropped. -/
  | leave (id : CallId) (label : l = .drop id) (waiting : ∀ phase, s.active ≠ some (id, phase))
      (next : s' = { s with queue := s.queue.filter fun c => c.1 ≠ id })
      (ends : ∀ x, Ends l events x ↔ x = id)

@[simp] theorem release_publish_active (s : Session) (state : SessionState) :
    (s.publish state).release.active = s.release.active := by
  unfold release; simp only [publish_queue]; split <;> rfl

@[simp] theorem release_publish_queue (s : Session) (state : SessionState) :
    (s.publish state).release.queue = s.release.queue := by
  unfold release; simp only [publish_queue]; split <;> rfl

theorem Label.EndsUngranted.not_begins {id : CallId} (h : l.EndsUngranted id) (x : CallId) :
    ¬ l.Begins x := by
  intro hx
  cases l <;> first | exact hx | exact h

theorem Label.EndsUngranted.ne_drop {id : CallId} (h : l.EndsUngranted id) (x : CallId) :
    l ≠ .drop x := by
  rintro rfl
  exact h

theorem Does.guardMove (h : s.Does now l s' events) : s.GuardMove l s' events := by
  cases h with
  | handOut | crashAtOnce => exact .pass _ rfl rfl rfl (by simp [Ends, eq_comm])
  | ask => exact .ask _ _ rfl rfl (by simp [Ends])
  | share holder | crash holder | noSession holder | skipRenewal holder | close holder =>
      exact .handOn _ _ holder (by simp) (by simp) (fun _ => id) (by simp [Ends, eq_comm])
  | lapse holder | sendLogin holder | forceLogin holder | sendRenewal holder
  | closeRevoking holder | supersede holder =>
      exact .hold _ _ _ holder rfl nofun rfl (fun _ => id) (by simp [Ends])
  | logIn holder | renew holder =>
      exact .handOn _ _ holder (by simp) (by simp) (fun _ => id) (by simp [Ends, eq_comm])
  | failLogin label holder | keep label holder | lose label holder | crashRenewing label holder
  | endRevocation label holder =>
      exact .handOn _ _ holder (by simp) (by simp) label.not_begins
        (by simp [Ends, eq_comm, label.ne_drop])
  | dropHolder holder =>
      exact .handOn _ _ holder rfl rfl (fun _ => id) (by simp [Ends, eq_comm])
  | dropWaiting waiting => exact .leave _ rfl waiting rfl (by simp [Ends, eq_comm])

/-- The calls that go on as soon as they get the guard: the holder's, if it was handed the guard
and has not gone on yet, and those of the queue. -/
def pendingCalls (s : Session) : List Call :=
  (match s.active with
    | some (_, .granted call) => [call]
    | _ => []) ++ s.queue.map Prod.snd

theorem pendingCalls_release (s : Session) : s.release.pendingCalls ⊆ s.pendingCalls := by
  intro c hc
  unfold release at hc
  split at hc
  · simp_all [pendingCalls]
  · rename_i id call rest hcons
    refine List.mem_append_right _ ?_
    simpa [pendingCalls, hcons] using hc

/-- A call is pending after a step if it was before, or if the step makes it. -/
theorem GuardMove.pendingCalls (move : s.GuardMove l s' events) {c : Call}
    (hc : c ∈ s'.pendingCalls) : c ∈ s.pendingCalls ∨ ∃ id, l = .begin id c := by
  cases move with
  | pass id label active queue =>
      exact .inl (by simpa only [Session.pendingCalls, active, queue] using hc)
  | ask id call label next =>
      subst label next
      -- the call is pending with the guard where that was free, and else at the end of the queue
      unfold acquire at hc
      split at hc
      · rename_i hnone
        simp only [Session.pendingCalls, List.cons_append, List.nil_append, List.mem_cons] at hc
        rcases hc with rfl | hc
        · exact .inr ⟨id, rfl⟩
        · exact .inl (List.mem_append_right _ hc)
      · simp only [Session.pendingCalls, List.map_append, List.map_cons, List.map_nil] at hc
        rw [← List.append_assoc, List.mem_append, List.mem_singleton] at hc
        rcases hc with hc | rfl
        · exact .inl hc
        · exact .inr ⟨id, rfl⟩
  | hold id phase phase' holder active waits queue =>
      simp only [Session.pendingCalls, active, queue] at hc
      split at hc
      · rename_i call heq
        exact absurd (Prod.mk.inj (Option.some.inj heq)).2 (waits call)
      · exact .inl (List.mem_append_right _ hc)
  | handOn id phase holder active queue =>
      have hsame : s'.pendingCalls = s.release.pendingCalls := by
        simp only [Session.pendingCalls, active, queue]
      exact .inl (pendingCalls_release s (hsame ▸ hc))
  | leave id label waiting next =>
      subst next
      left
      simp only [Session.pendingCalls, List.mem_append, List.mem_map, List.mem_filter] at hc ⊢
      rcases hc with hc | ⟨e, he, rfl⟩
      · exact .inl hc
      · exact .inr ⟨e, he.1, rfl⟩

/-! ## The published state -/

/-- The states that are published among some events. -/
def published (events : List Event) : List SessionState :=
  events.filterMap fun e => match e with
    | .published state => some state
    | _ => none

/-- The changes of the published state, each with what brings it about. -/
inductive Change (s : Session) (now : Instant) : Label → SessionState → Prop
  /-- A login succeeded. -/
  | logIn {id : CallId} {forced : Bool} {superseded : Option Token} {deadline : Instant}
      {g : Grant} (holder : s.active = some (id, .loggingIn forced superseded deadline)) :
      Change s now (.answer id (.granted g)) (.valid (s.strategy.accept g now))
  /-- A renewal is sent. -/
  | sendRenewal {id : CallId} {t : Token} (holder : s.active = some (id, .granted .renew))
      (token : s.state.token? = some t) (renewable : t.isRenewable = true) :
      Change s now (.proceed id) (.renewing t)
  /-- A renewal succeeded. -/
  | renew {id : CallId} {current : Token} {deadline : Instant} {g : Grant}
      (holder : s.active = some (id, .renewing current deadline)) :
      Change s now (.answer id (.granted g)) (.valid (current.renewed g.lease g.renewable now))
  /-- A renewal failed while the lease lasts. -/
  | keep {l : Label} {id : CallId} {current : Token} {deadline : Instant}
      (label : l.EndsUngranted id) (holder : s.active = some (id, .renewing current deadline))
      (good : current.isExpired now = .ok false) : Change s now l (.valid current)
  /-- A renewal failed after the end of the lease. -/
  | lose {l : Label} {id : CallId} {current : Token} {deadline : Instant}
      (label : l.EndsUngranted id) (holder : s.active = some (id, .renewing current deadline))
      (ended : current.isExpired now = .ok true) : Change s now l .expired
  /-- A caller found the token past the end of its lease. -/
  | lapse {id : CallId} {t : Token} (holder : s.active = some (id, .granted .getToken))
      (token : s.state.token? = some t) (ended : t.isExpired now = .ok true) :
      Change s now (.proceed id) .expired
  /-- The session is shut down. -/
  | close {id : CallId} {revoke : Bool}
      (holder : s.active = some (id, .granted (.shutdown revoke))) :
      Change s now (.proceed id) .unauthenticated

/-- A step publishes nothing and leaves the state, or publishes the state after it. -/
theorem Does.change (h : s.Does now l s' events) :
    published events = [] ∧ s'.state = s.state ∨
      published events = [s'.state] ∧ s.Change now l s'.state := by
  cases h with
  | handOut | crashAtOnce | sendLogin | forceLogin | dropWaiting => exact .inl ⟨rfl, rfl⟩
  | ask => exact .inl ⟨rfl, by simp⟩
  | share | crash | noSession | skipRenewal | failLogin | crashRenewing | endRevocation
  | dropHolder => exact .inl ⟨rfl, by simp⟩
  | lapse holder token ended => exact .inr ⟨rfl, .lapse holder token ended⟩
  | sendRenewal holder token renewable => exact .inr ⟨rfl, .sendRenewal holder token renewable⟩
  | closeRevoking holder => exact .inr ⟨rfl, .close holder⟩
  | close holder => exact .inr ⟨by simp [published], by simpa using .close holder⟩
  | logIn holder => exact .inr ⟨by simp [published], by simpa using .logIn holder⟩
  | supersede holder => exact .inr ⟨rfl, .logIn holder⟩
  | renew holder => exact .inr ⟨by simp [published], by simpa using .renew holder⟩
  | keep label holder good =>
      exact .inr ⟨by simp [published], by simpa using .keep label holder good⟩
  | lose label holder ended =>
      exact .inr ⟨by simp [published], by simpa using .lose label holder ended⟩

end Session

end SecretConfig
