import SecretConfig.Proofs.Session.Ending

set_option autoImplicit false

/-! # What a session publishes

The version of a session counts what it has published (`Does.version_eq`): it never goes back, and
as long as it stays the state stays too (`Does.state_eq_of_version`). Who makes or drops a call
publishes nothing (`Does.published_of_outside`). A token that is published was published before, or
the store has just granted it (`Does.granted_or_stays`). -/

namespace SecretConfig

namespace Session

variable {strategy : Strategy} {timeout : Duration} {past calls : List Moment} {s s' : Session}
  {now : Instant} {l : Label} {events : List Event} {id : CallId} {t : Token}

@[simp] theorem release_version (s : Session) : s.release.version = s.version := by
  unfold release; split <;> rfl

@[simp] theorem acquire_version (s : Session) (id : CallId) (call : Call) :
    (s.acquire id call).version = s.version := by
  unfold acquire; split <;> rfl

/-- The version counts what is published. -/
theorem Does.version_eq (h : s.Does now l s' events) :
    s'.version = s.version + (published events).length := by
  cases h with
  | handOut | crashAtOnce | lapse | sendLogin | forceLogin | sendRenewal | closeRevoking
  | supersede | dropWaiting => rfl
  | ask | share | crash | noSession | skipRenewal | failLogin | crashRenewing | endRevocation
  | dropHolder => simp [published]
  | close | logIn | renew | keep | lose => simp [published, publish]

/-- A state stays published as long as the version stays. -/
theorem Does.state_eq_of_version (h : s.Does now l s' events) (same : s'.version = s.version) :
    s'.state = s.state := by
  rcases h.change with ⟨-, hstate⟩ | ⟨hone, -⟩
  · exact hstate
  · have hversion := h.version_eq
    rw [hone, List.length_singleton] at hversion
    omega

theorem Does.version_le (h : s.Does now l s' events) : s.version ≤ s'.version := by
  rw [h.version_eq]
  exact Nat.le_add_right _ _

/-- A token that is published after a step was published before it, or the store has just granted
it. -/
theorem Does.granted_or_stays (h : s.Does now l s' events) (coherent : s.Coherent)
    (token : s'.state.token? = some t) :
    s.state.token? = some t ∨
      (∃ id g, l = .answer id (.granted g) ∧ t.lease = g.lease) ∧ s'.state = .valid t ∧
        t.issuedAt = now := by
  rcases h.change with ⟨-, hstate⟩ | ⟨-, change⟩
  · rw [hstate] at token
    exact .inl token
  · generalize hnew : s'.state = new at change token
    cases change with
    | logIn holder =>
        obtain rfl := Option.some.inj token
        exact .inr ⟨⟨_, _, rfl, Strategy.accept_lease _ _ _⟩, rfl, Strategy.accept_issuedAt _ _ _⟩
    | renew holder =>
        obtain rfl := Option.some.inj token
        exact .inr ⟨⟨_, _, rfl, rfl⟩, rfl, rfl⟩
    | sendRenewal holder before =>
        obtain rfl := Option.some.inj token
        exact .inl before
    | keep label holder =>
        obtain rfl := Option.some.inj token
        rw [coherent.renewing_state _ _ _ holder]
        exact .inl rfl
    | lose | lapse | close => exact nomatch token

/-- Who makes or drops a call publishes nothing. -/
theorem Does.published_of_outside (h : s.Does now l s' events) (outside : l.isOutside = true) :
    published events = [] := by
  cases h with
  | handOut | crashAtOnce | ask | dropHolder | dropWaiting => rfl
  | failLogin label | keep label | lose label | crashRenewing label | endRevocation label =>
      cases l with
      | «begin» | drop => exact label.elim
      | proceed | answer | expire => exact nomatch outside
  | _ => exact nomatch outside

theorem Run.published_of_outside (run : Run strategy timeout (calls ++ past) s')
    (before : Run strategy timeout past s) (outside : ∀ m ∈ calls, m.label.isOutside = true) :
    s'.version = s.version ∧ s'.state = s.state := by
  induction calls generalizing s' with
  | nil =>
      obtain rfl : s = s' := before.eq_latest.trans run.eq_latest.symm
      exact ⟨rfl, rfl⟩
  | cons m rest ih =>
      obtain ⟨here, does⟩ := Run.of_cons run
      obtain rfl : m.after = s' := run.eq_latest.symm
      obtain ⟨hversion, hstate⟩ := ih here fun v hv => outside v (List.mem_cons_of_mem m hv)
      have hnone := does.published_of_outside (outside m List.mem_cons_self)
      have hsame : m.after.version = m.before.version := by
        rw [does.version_eq, hnone]
        rfl
      exact ⟨hsame.trans hversion, (does.state_eq_of_version hsame).trans hstate⟩

end Session

end SecretConfig
