import SecretConfig.Aggregation.Build
import SecretConfig.Proofs.Session.Steps
import SecretConfig.Store

set_option autoImplicit false

/-! # A store in memory under a session

A store that has no faults to give grants every login and every renewal. That takes more than
an empty list of faults: the value of a new token must not be one that was revoked, and the token
to be renewed must not have been revoked. `MemoryStore.Healthy` says the former of the store and
`MemoryStore.Accepts` the latter of a token, and logins, renewals and revocations keep both
(`MemoryStore.login_healthy`, `MemoryStore.renew_healthy`, `MemoryStore.Healthy.revoke`).

Whatever a session asks of the store, reads find the same afterwards, and only a revocation
revokes (`Store.answer_memory`). -/

namespace SecretConfig

namespace MemoryStore

/-! ## Issued values -/

theorem issuedValue_injective {n k : Nat} (h : issuedValue n = issuedValue k) : n = k := by
  have hlist := congrArg String.toList h
  have hdigits : Nat.toDigits 10 n = Nat.toDigits 10 k := by
    simpa [issuedValue, Nat.toString_eq_ofList_toDigits] using hlist
  rw [← Nat.ofDigitChars_ten_toDigits (n := n), hdigits, Nat.ofDigitChars_ten_toDigits]

/-! ## Health -/

/-- The store grants what it is asked for: it has no faults to give, its tokens can be renewed,
and no value that it has yet to issue is revoked. -/
structure Healthy (m : MemoryStore) : Prop where
  renewable : m.renewable = true
  logins : m.loginFailures = []
  renewals : m.renewalFailures = []
  fresh : ∀ n, m.logins < n → issuedValue n ∉ m.revoked

/-- Both stores grant the same leases after the same delays. -/
structure GrantsLike (m base : MemoryStore) : Prop where
  lease : m.lease = base.lease
  renewalLease : m.renewalLease = base.renewalLease
  loginDelay : m.loginDelay = base.loginDelay
  renewalDelay : m.renewalDelay = base.renewalDelay

theorem GrantsLike.trans {m m' base : MemoryStore} (h : m'.GrantsLike m) (h' : m.GrantsLike base) :
    m'.GrantsLike base where
  lease := h.lease.trans h'.lease
  renewalLease := h.renewalLease.trans h'.renewalLease
  loginDelay := h.loginDelay.trans h'.loginDelay
  renewalDelay := h.renewalDelay.trans h'.renewalDelay

/-- The token is one that the store renews, and has its value from the strategy or from a login
that has ended. -/
structure Accepts (m : MemoryStore) (strategy : Strategy) (t : Token) : Prop where
  renewable : t.renewable = true
  unrevoked : t.value.value ∉ m.revoked
  origin : t.origin = .static ∧ strategy = .token t.value ∨
    t.origin = .login ∧ (∀ v, strategy ≠ .token v) ∧ ∃ n ≤ m.logins, t.value.value = issuedValue n

end MemoryStore

theorem Strategy.flow_eq_static {strategy : Strategy} {files : Files} {v : Secret}
    (h : strategy.flow files = .ok (.static v)) : strategy = .token v := by
  unfold flow at h
  split at h
  · split at h
    · exact nomatch h
    · rw [LoginFlow.static.inj (Except.ok.inj h)]
  · exact nomatch h
  · split at h
    · exact nomatch h
    · split at h <;> exact nomatch h
  · exact nomatch h
  · exact nomatch h

theorem Strategy.ne_token_of_flow {strategy : Strategy} {files : Files} {method : AuthMethod}
    {path : String} {body : Dict Json} (h : strategy.flow files = .ok (.login method path body))
    (v : Secret) : strategy ≠ .token v := by
  rintro rfl
  simp only [flow] at h
  split at h
  · exact nomatch h
  · exact nomatch Except.ok.inj h

namespace MemoryStore

variable {m : MemoryStore} {strategy : Strategy} {files : Files} {flow : LoginFlow} {t : Token}

/-- A login over a healthy store is granted, and makes a token that the store accepts. -/
theorem login_healthy (healthy : m.Healthy) (hflow : strategy.flow files = .ok flow)
    (configured : ∀ v, strategy = .token v → v.value ∉ m.revoked) (now : Instant) :
    ∃ g m', m.login flow = (.ok g, m') ∧ g.lease = m.lease ∧ m'.Healthy ∧ m'.GrantsLike m ∧
      m'.logins = m.logins + 1 ∧ m'.Accepts strategy (strategy.accept g now) := by
  have hhealthy : { m with logins := m.logins + 1 }.Healthy :=
    ⟨healthy.renewable, healthy.logins, healthy.renewals,
      fun n hn => healthy.fresh n (Nat.lt_of_succ_lt hn)⟩
  cases flow with
  | static v =>
      obtain rfl := Strategy.flow_eq_static hflow
      have hv := configured v rfl
      refine ⟨m.grant v.value, _, ?_, rfl, hhealthy, ⟨rfl, rfl, rfl, rfl⟩, rfl,
        healthy.renewable, hv, .inl ⟨rfl, rfl⟩⟩
      simp [login, healthy.logins, isRevoked, hv, grant]
  | login method path body =>
      have hstrategy := Strategy.ne_token_of_flow hflow
      refine ⟨m.grant (issuedValue (m.logins + 1)), _, ?_, rfl, hhealthy, ⟨rfl, rfl, rfl, rfl⟩, rfl,
        ?_⟩
      · simp [login, healthy.logins, grant]
      · rw [Strategy.accept_of_ne_token hstrategy]
        exact ⟨healthy.renewable, healthy.fresh _ (Nat.lt_succ_self _),
          .inr ⟨rfl, hstrategy, m.logins + 1, Nat.le_refl _, rfl⟩⟩

/-- A renewal of an accepted token over a healthy store is granted. -/
theorem renew_healthy (healthy : m.Healthy) (accepts : m.Accepts strategy t) (now : Instant) :
    ∃ g m', m.renew t = (.ok g, m') ∧ g.lease = m.renewalLease.getD m.lease ∧ m'.Healthy ∧
      m'.GrantsLike m ∧ m'.Accepts strategy (t.renewed g.lease g.renewable now) := by
  refine ⟨⟨t.value.value, m.renewalLease.getD m.lease, true⟩, { m with renewals := m.renewals + 1 },
    ?_, rfl, ⟨healthy.1, healthy.2, healthy.3, healthy.4⟩, ⟨rfl, rfl, rfl, rfl⟩,
    ⟨rfl, accepts.unrevoked, accepts.origin⟩⟩
  simp [renew, healthy.renewals, isRevoked, accepts.unrevoked, accepts.renewable,
    healthy.renewable]

/-- A configured token that the store granted is not revoked. -/
theorem configured_of_granted (hflow : strategy.flow files = .ok flow) {g : Grant}
    (granted : (m.login flow).1 = .ok g) (v : Secret) (h : strategy = .token v) :
    v.value ∉ m.revoked := by
  subst h
  simp only [Strategy.flow] at hflow
  split at hflow
  · exact nomatch hflow
  · obtain rfl := Except.ok.inj hflow
    simp only [login] at granted
    split at granted
    · exact nomatch granted
    · intro hv
      simp [isRevoked, hv] at granted

/-- A configured token is not revoked while the store accepts the token of the session. -/
theorem Accepts.configured (accepts : m.Accepts strategy t) (v : Secret)
    (h : strategy = .token v) : v.value ∉ m.revoked := by
  rcases accepts.origin with ⟨-, hstatic⟩ | ⟨-, hlogin, -⟩
  · obtain rfl := Strategy.token.inj (h.symm.trans hstatic)
    exact accepts.unrevoked
  · exact absurd h (hlogin v)

/-- The revocation of a token of a login leaves the store healthy. -/
theorem Healthy.revoke (healthy : m.Healthy) {n : Nat} (hn : n ≤ m.logins)
    (value : t.value.value = issuedValue n) : (m.revoke t).Healthy where
  renewable := healthy.renewable
  logins := healthy.logins
  renewals := healthy.renewals
  fresh k hk := by
    show issuedValue k ∉ m.revoked ++ [t.value.value]
    rw [List.mem_append, List.mem_singleton, value]
    rintro (hrevoked | hsame)
    · exact healthy.fresh k hk hrevoked
    · -- the revoked value was issued, so it has a lower number than those still to come
      have hlt : m.logins < k := hk
      have heq := issuedValue_injective hsame
      omega

theorem Accepts.revoke (accepts : m.Accepts strategy t) {old : Token}
    (other : old.value ≠ t.value) : (m.revoke old).Accepts strategy t where
  renewable := accepts.renewable
  unrevoked := by
    show t.value.value ∉ m.revoked ++ [old.value.value]
    rw [List.mem_append, List.mem_singleton]
    rintro (hrevoked | hsame)
    · exact accepts.unrevoked hrevoked
    · exact other (congrArg Secret.mk hsame.symm)
  origin := accepts.origin

end MemoryStore

/-! ## Reads -/

/-- Reads of both stores find the same and take as long. -/
structure MemoryStore.ReadsLike (m base : MemoryStore) : Prop where
  secrets : m.secrets = base.secrets
  faults : m.readFailures = base.readFailures
  delays : m.readDelays = base.readDelays

theorem MemoryStore.ReadsLike.readDelay {m base : MemoryStore} (h : m.ReadsLike base)
    (path : String) : m.readDelay path = base.readDelay path := by
  simp [MemoryStore.readDelay, h.delays]

/-- An answer to the session changes neither what reads find nor, unless it is that of a
revocation, what is revoked. -/
theorem Store.answer_memory (m : MemoryStore) (request : SessionRequest) :
    ∃ m', ((Store.memory m).answer request).2 = .memory m' ∧ m'.ReadsLike m ∧
      ∀ v ∈ m'.revoked, v ∈ m.revoked ∨ ∃ t, request = .revocation t ∧ v = t.value.value := by
  cases request with
  | login flow =>
      have h : (m.login flow).2.ReadsLike m ∧ (m.login flow).2.revoked = m.revoked := by
        unfold MemoryStore.login
        dsimp only
        split
        · exact ⟨⟨rfl, rfl, rfl⟩, rfl⟩
        · split <;> exact ⟨⟨rfl, rfl, rfl⟩, rfl⟩
      exact ⟨_, rfl, h.1, fun v hv => .inl (h.2 ▸ hv)⟩
  | unsent fault => exact ⟨m, rfl, ⟨rfl, rfl, rfl⟩, fun v hv => .inl hv⟩
  | renewal t =>
      have h : (m.renew t).2.ReadsLike m ∧ (m.renew t).2.revoked = m.revoked := by
        unfold MemoryStore.renew
        dsimp only
        split
        · exact ⟨⟨rfl, rfl, rfl⟩, rfl⟩
        · split
          · exact ⟨⟨rfl, rfl, rfl⟩, rfl⟩
          · split <;> exact ⟨⟨rfl, rfl, rfl⟩, rfl⟩
      exact ⟨_, rfl, h.1, fun v hv => .inl (h.2 ▸ hv)⟩
  | revocation t =>
      refine ⟨_, rfl, ⟨rfl, rfl, rfl⟩, fun v hv => ?_⟩
      rcases List.mem_append.1 hv with hv | hv
      · exact .inl hv
      · exact .inr ⟨t, rfl, List.mem_singleton.1 hv⟩

theorem Store.recordReads_eq (m : MemoryStore) (reads : List PlannedRead) :
    reads.foldl (fun store r => store.recordRead r.plan.path) (Store.memory m) =
      .memory { m with reads := m.reads ++ reads.map fun r => r.plan.path } := by
  induction reads generalizing m with
  | nil => simp
  | cons r rest ih =>
      rw [List.foldl_cons, Store.recordRead, ih]
      simp [MemoryStore.recordRead]

theorem Store.recordReads_memory (m : MemoryStore) (reads : List PlannedRead) :
    ∃ m', reads.foldl (fun store r => store.recordRead r.plan.path) (Store.memory m) =
      .memory m' ∧ m'.ReadsLike m ∧ m'.revoked = m.revoked :=
  ⟨_, Store.recordReads_eq m reads, ⟨rfl, rfl, rfl⟩, rfl⟩

/-! ## Issued and revoked -/

/-- The values that the store is asked to revoke. -/
def SessionRequest.revoked : SessionRequest → List String
  | .revocation t => [t.value.value]
  | .login _ | .unsent _ | .renewal _ => []

theorem MemoryStore.login_tally (m : MemoryStore) (flow : LoginFlow) :
    (m.login flow).2.revoked = m.revoked ∧ (m.login flow).2.logins = m.logins + 1 := by
  unfold MemoryStore.login
  dsimp only
  split
  · exact ⟨rfl, rfl⟩
  · split <;> exact ⟨rfl, rfl⟩

theorem MemoryStore.renew_tally (m : MemoryStore) (t : Token) :
    (m.renew t).2.revoked = m.revoked ∧ (m.renew t).2.logins = m.logins := by
  unfold MemoryStore.renew
  dsimp only
  split
  · exact ⟨rfl, rfl⟩
  · split
    · exact ⟨rfl, rfl⟩
    · split <;> exact ⟨rfl, rfl⟩

/-- An answer to the session revokes what it was asked to, and every login that ends counts. -/
theorem Store.answer_tally (m : MemoryStore) (request : SessionRequest) :
    ∃ m', ((Store.memory m).answer request).2 = .memory m' ∧
      m'.revoked = m.revoked ++ request.revoked ∧ m.logins ≤ m'.logins ∧
      ∀ flow, request = .login flow → m'.logins = m.logins + 1 := by
  cases request with
  | login flow =>
      obtain ⟨revoked, logins⟩ := m.login_tally flow
      exact ⟨(m.login flow).2, rfl, revoked.trans (List.append_nil _).symm,
        logins ▸ Nat.le_succ _, fun _ _ => logins⟩
  | unsent fault => exact ⟨m, rfl, (List.append_nil _).symm, Nat.le_refl _, nofun⟩
  | renewal t =>
      obtain ⟨revoked, logins⟩ := m.renew_tally t
      exact ⟨(m.renew t).2, rfl, revoked.trans (List.append_nil _).symm,
        Nat.le_of_eq logins.symm, nofun⟩
  | revocation t => exact ⟨m.revoke t, rfl, rfl, Nat.le_refl _, nofun⟩

/-- The value of a token that is new is that of the number of its login. -/
theorem Store.value_of_granted (m : MemoryStore) {flow : LoginFlow} {g : Grant}
    (other : ∀ v, flow ≠ .static v)
    (granted : ((Store.memory m).answer (.login flow)).1 = .granted g) :
    g.value = MemoryStore.issuedValue (m.logins + 1) := by
  cases flow with
  | static v => exact absurd rfl (other v)
  | login method path body =>
      simp only [Store.answer, Store.login, MemoryStore.login] at granted
      split at granted
      · exact nomatch granted
      · rw [← Answer.granted.inj granted]
        rfl

end SecretConfig
