import SecretConfig.Proofs.Session.Revocation

set_option autoImplicit false

/-! # How a session begins and ends

A session that has never had a token is blank, and stays so until a login hands one out
(`Does.isBlank`). A session in which everybody waits for a shutdown is unauthenticated as soon as
the first of them has gone on (`Does.state_of_isEnding`).

What a step sends for revocation is what is in flight after it (`Does.revoking?_toList`), what was
in flight has ended then (`Does.revoking?_eq_none`), and labels that only make or drop calls send
nothing and receive nothing (`Does.outside`). -/

namespace SecretConfig

namespace Session

variable {strategy : Strategy} {timeout : Duration} {history past calls : List Moment} {m : Moment}
  {s s' : Session} {now : Instant} {l : Label} {events : List Event} {id : CallId}

/-- The label makes a call or drops one. -/
def Label.isOutside : Label → Bool
  | .begin _ _ | .drop _ => true
  | .proceed _ | .answer _ _ | .expire _ => false

/-! ## Revocations in flight -/

/-- The token whose revocation is in flight. -/
def revoking? (s : Session) : Option Token :=
  match s.active with
  | some (_, .revoking target _ _) => some target
  | _ => none

theorem revoking?_of_active {phase : Phase} (holder : s.active = some (id, phase))
    (other : ∀ target deadline reply, phase ≠ .revoking target deadline reply) :
    s.revoking? = none := by
  unfold revoking?
  rw [holder]
  cases phase with
  | revoking target deadline reply => exact absurd rfl (other target deadline reply)
  | granted | loggingIn | renewing => rfl

@[simp] theorem revoking?_release (s : Session) : s.release.revoking? = none := by
  cases hactive : s.release.active with
  | none => simp [revoking?, hactive]
  | some e =>
      obtain ⟨call, hphase⟩ := release_active_granted hactive
      exact revoking?_of_active hactive (by simp [hphase])

theorem revoking?_acquire (id : CallId) (call : Call) :
    (s.acquire id call).revoking? = s.revoking? := by
  cases hactive : s.active with
  | none => simp [revoking?, acquire, hactive]
  | some holder => simp [revoking?, acquire, hactive]

/-- Only who holds the guard goes on, is answered or gives up waiting. -/
theorem Does.active_ne_none (h : s.Does now l s' events) (inside : l.isOutside = false) :
    s.active ≠ none := by
  cases h with
  | handOut | crashAtOnce | ask | dropHolder | dropWaiting => exact nomatch inside
  | share holder | crash holder | lapse holder | sendLogin holder | forceLogin holder
  | noSession holder | skipRenewal holder | sendRenewal holder | closeRevoking holder
  | close holder | logIn holder | supersede holder | renew holder =>
      rw [holder]
      exact nofun
  | failLogin label holder | keep label holder | lose label holder | crashRenewing label holder
  | endRevocation label holder =>
      rw [holder]
      exact nofun

/-- What a step of a call that is on sends for revocation is in flight after it. -/
theorem Does.revoking?_toList (h : s.Does now l s' events) (inside : l.isOutside = false) :
    s'.revoking?.toList = events.filterMap Event.revoked? := by
  cases h with
  | handOut | crashAtOnce | ask | dropHolder | dropWaiting => exact nomatch inside
  | share | crash | noSession | skipRenewal | close | logIn | failLogin | renew | keep | lose
  | crashRenewing | endRevocation =>
      rw [revoking?_release]
      rfl
  | lapse | sendLogin | forceLogin | sendRenewal | closeRevoking | supersede => rfl

/-- A revocation in flight has ended when the call that waits for it has gone on. -/
theorem Does.revoking?_eq_none (h : s.Does now l s' events) (inside : l.isOutside = false)
    (busy : s.revoking? ≠ none) : s'.revoking? = none := by
  cases h with
  | handOut | crashAtOnce | ask | dropHolder | dropWaiting => exact nomatch inside
  | share | crash | noSession | skipRenewal | close | logIn | failLogin | renew | keep | lose
  | crashRenewing | endRevocation => exact revoking?_release _
  | lapse holder | sendLogin holder | forceLogin holder | sendRenewal holder
  | closeRevoking holder | supersede holder =>
      exact absurd (revoking?_of_active holder fun _ _ _ h => nomatch h) busy

/-- Who makes or drops a call has nothing revoked and receives nothing. -/
theorem Does.outside (h : s.Does now l s' events) (outside : l.isOutside = true) :
    events.filterMap Event.revoked? = [] ∧ (s.revoking? = none → s'.revoking? = none) := by
  cases h with
  | handOut | crashAtOnce => exact ⟨rfl, fun none => none⟩
  | ask => exact ⟨rfl, fun none => (revoking?_acquire _ _).trans none⟩
  | dropWaiting => exact ⟨rfl, fun none => none⟩
  | dropHolder => exact ⟨rfl, fun _ => revoking?_release s⟩
  | failLogin label | keep label | lose label | crashRenewing label | endRevocation label =>
      cases l with
      | «begin» | drop => exact label.elim
      | proceed | answer | expire => exact nomatch outside
  | _ => exact nomatch outside

theorem Moment.outside (outside : m.label.isOutside = true) :
    m.received? = none ∧ m.issued? = none := by
  refine Moment.received?_of_not_answer ?_
  intro id g label
  rw [label] at outside
  exact nomatch outside

/-! ## Runs in which calls are only made and dropped -/

theorem Run.eq_latest (run : Run strategy timeout history s) :
    s = latest strategy timeout history := by
  cases run <;> rfl

/-- While calls are only made and dropped, nothing is received or sent for revocation. -/
theorem Run.outside (run : Run strategy timeout (calls ++ past) s')
    (before : Run strategy timeout past s) (outside : ∀ m ∈ calls, m.label.isOutside = true) :
    received (calls ++ past) = received past ∧ issued (calls ++ past) = issued past ∧
      revoked (calls ++ past) = revoked past ∧ (s.revoking? = none → s'.revoking? = none) := by
  induction calls generalizing s' with
  | nil =>
      obtain rfl : s = s' := before.eq_latest.trans run.eq_latest.symm
      exact ⟨rfl, rfl, rfl, fun none => none⟩
  | cons m rest ih =>
      obtain ⟨here, does⟩ := Run.of_cons run
      obtain rfl : m.after = s' := run.eq_latest.symm
      have hm := outside m List.mem_cons_self
      obtain ⟨hreceived, hissued, hrevoked, hrevoking⟩ :=
        ih here fun v hv => outside v (List.mem_cons_of_mem m hv)
      obtain ⟨hnone, hkeep⟩ := does.outside hm
      obtain ⟨noToken, noValue⟩ := Moment.outside hm
      refine ⟨?_, ?_, ?_, fun none => hkeep (hrevoking none)⟩
      · rw [List.cons_append, received_cons, noToken]
        exact hreceived
      · rw [List.cons_append, issued_cons, noValue]
        exact hissued
      · rw [List.cons_append, revoked_cons, Moment.revoked, hnone]
        exact hrevoked

/-! ## Before the first token -/

/-- The session has never had a token. -/
structure IsBlank (s : Session) : Prop where
  state : s.state = .unauthenticated
  revoking : s.revoking? = none

/-- A blank session stays blank, or a login succeeds and hands out its token. -/
theorem Does.isBlank (h : s.Does now l s' events) (coherent : s.Coherent) (blank : s.IsBlank) :
    s'.IsBlank ∨ ∃ id t, .returned id (.token t) ∈ events ∧
      ∀ caller reply, .returned caller reply ∈ events → reply = .token t := by
  have none : s.state.token? = none := by
    rw [blank.state]
    rfl
  cases h with
  | handOut | crashAtOnce => exact .inl blank
  | dropWaiting => exact .inl ⟨blank.state, blank.revoking⟩
  | ask =>
      exact .inl ⟨(acquire_state _ _ _).trans blank.state,
        (revoking?_acquire _ _).trans blank.revoking⟩
  | share | crash | noSession | skipRenewal | failLogin | crashRenewing | endRevocation
  | dropHolder => exact .inl ⟨(release_state _).trans blank.state, revoking?_release s⟩
  | close => exact .inl ⟨release_state _, revoking?_release _⟩
  | sendLogin | forceLogin => exact .inl ⟨blank.state, rfl⟩
  | lapse holder token | sendRenewal holder token | closeRevoking holder token =>
      exact nomatch token.symm.trans none
  | renew holder | keep label holder | lose label holder =>
      exact nomatch (coherent.renewing_state _ _ _ holder).symm.trans blank.state
  | supersede holder =>
      exact nomatch (coherent.superseded_eq _ _ _ _ holder).trans none
  | logIn =>
      refine .inr ⟨_, _, List.mem_cons_of_mem _ (List.mem_cons_of_mem _ List.mem_cons_self), ?_⟩
      intro caller reply returned
      simp only [List.mem_cons, reduceCtorEq, Event.returned.injEq, List.not_mem_nil, or_false,
        false_or] at returned
      exact returned.2

/-! ## After the last call -/

/-- The session is unauthenticated, or is as soon as the call that holds the guard goes on. -/
def IsEnding (s : Session) : Prop :=
  s.state = .unauthenticated ∨ ∃ id, s.active = some (id, .granted (.shutdown true))

theorem isEnding_acquire (free : s.active = none) (id : CallId) :
    (s.acquire id (.shutdown true)).IsEnding :=
  .inr ⟨id, by simp [acquire, free]⟩

/-- Where everybody waits for a shutdown, the session is unauthenticated after one step. -/
theorem Does.state_of_isEnding (h : s.Does now l s' events) (inside : l.isOutside = false)
    (line : ∀ e ∈ s.line, e.2 = .shutdown true) (ending : s.IsEnding) :
    s'.state = .unauthenticated := by
  have shutsDown {id : CallId} {phase : Phase} (holder : s.active = some (id, phase)) :
      phase.call = .shutdown true := by
    refine line (id, phase.call) ?_
    rw [line_of_active holder]
    exact List.mem_cons_self
  cases h with
  | handOut | crashAtOnce | ask | dropHolder | dropWaiting => cases inside
  | share holder | crash holder | lapse holder | sendLogin holder | forceLogin holder
  | noSession holder | skipRenewal holder | sendRenewal holder =>
      cases shutsDown holder
  | renew holder | keep label holder | lose label holder | crashRenewing label holder =>
      cases shutsDown holder
  | logIn holder | failLogin label holder | supersede holder =>
      have hcall := shutsDown holder
      simp only [Phase.call] at hcall
      split at hcall <;> cases hcall
  | closeRevoking => rfl
  | close => exact release_state _
  | endRevocation label holder =>
      rw [release_state]
      refine ending.resolve_right ?_
      rintro ⟨id, granted⟩
      cases holder.symm.trans granted

/-- A call that is not there is dropped without effect on the end of the session. -/
theorem Does.isEnding_of_drop (h : s.Does now (.drop id) s' events) (idle : id ∉ s.callers)
    (ending : s.IsEnding) : s'.IsEnding := by
  cases h with
  | dropHolder holder =>
      refine absurd ?_ idle
      rw [callers_release holder]
      exact List.mem_cons_self
  | dropWaiting => exact ending
  | failLogin label | keep label | lose label | crashRenewing label | endRevocation label =>
      exact label.elim

end Session

end SecretConfig
