import SecretConfig.Proofs.Agent.Undisturbed

set_option autoImplicit false

/-! # What a refresh publishes while the session changes its token

A refresh reads with one token from its first read to its last, whatever the session does
meanwhile. A login that replaces this token has it revoked, and from then on the store refuses
it: a backend that need not be there then contributes nothing although its path holds a secret
(`revokedHistory` is such a run).

`Run.refresh_contributes` says that this is the only loss. In every undisturbed run, a refresh
that succeeds publishes one layer for each backend that is enabled and resolves, and the layer of
a path that holds a secret has all of it, unless the read ended after a login had replaced the
token and had it revoked. -/

namespace SecretConfig

namespace Agent

variable {start s : Agent} {base : MemoryStore} {history : List Moment}

/-! ## What a refresh contributes -/

/-- **A refresh loses a secret only to a login that replaces its token.** When a refresh of an
undisturbed run has ended with properties, it published one layer for each backend that is
enabled and resolves, at a moment `u`. Where the path of a backend holds a secret, look at the
moment `v` at which its read ended:

* if the token that the refresh reads with was not revoked by then, the layer has exactly the
  properties of the secret, flattened and renamed;
* otherwise a login had replaced the token, the backend need not be there, and the layer is
  empty. -/
theorem Run.refresh_contributes (run : Run start history s) (undisturbed : start.Undisturbed base)
    (peaceful : ∀ m ∈ history, m.act.isPeaceful = true) (id : CallId) (endedAt : Instant)
    (ps : Properties) (ended : s.result? id = some (endedAt, .properties ps)) :
    ∃ t layers, ∃ u ∈ history, u.act = .move (.resume id) ∧
      u.after.result? id = some (endedAt, .properties ps) ∧
      u.after.source.published = Snapshot.ofLayers (Layer.sorted layers) ∧
      layers.length = start.reads.length ∧
      ∀ index r p secret, start.reads[index]? = some r →
        base.secrets.get? r.plan.path = some p → p.unwrap? r.plan.layout = some secret →
        ∃ v past m slots, v :: past <:+ history ∧ v.act = .move (.read id index) ∧
          v.before.task? id =
            some (.work .refresh (.reading start.source.options t slots)) ∧
          v.before.store = .memory m ∧
          (t.value.value ∉ m.revoked ∧ layers[index]? = some (r.contribution secret) ∨
            t.value.value ∈ m.revoked ∧ layers[index]? = some r.vacant ∧
              r.descriptor.isRequired start.source.options = false ∧
              ∃ w ∈ past, w.Supersedes t.value) := by
  obtain ⟨goal, htask⟩ := task?_of_result? ended
  have hfits := (run.upheld undisturbed peaceful).tasks _ (mem_tasks_of_task? htask)
  cases hfits with
  | called h | failed h => exact absurd rfl (h ps)
  | refreshed h =>
      obtain ⟨t, layers, u, hu, hact, htask, hpublished, hlength, hreads⟩ := h
      refine ⟨t, layers, u, hu, hact, htask, hpublished, hlength, ?_⟩
      intro index r p secret hr hstored hsecret
      obtain ⟨layer, hlayer, v, past, m, slots, hsuffix, hread, hreading, hstore, hlike, hrevoked,
        hresult⟩ := hreads index r hr
      refine ⟨v, past, m, slots, hsuffix, hread, hreading, hstore, ?_⟩
      rcases PlannedRead.layer_of_secret (hlike.faults.trans undisturbed.faults)
        (hlike.secrets ▸ hstored) hsecret hresult.symm with ⟨hgood, rfl⟩ | ⟨hbad, rfl, hfree⟩
      · exact .inl ⟨hgood, hlayer⟩
      · exact .inr ⟨hbad, hlayer, hfree, hrevoked _ hbad⟩

/-! ## A secret lost to a login -/

/-- The secret of `slowStore`. -/
def slowSecret : Payload := ⟨Dict.ofList [("k", .str "v")], none⟩

/-- A store with one secret, which takes half a second to read. -/
def slowStore : MemoryStore :=
  { secrets := Dict.ofList [("secret/app", slowSecret)]
    readDelays := Dict.ofList [("secret/app", (500 : Duration))] }

/-- An agent whose source has one backend, which reads the secret of the store. -/
def slowStart : Agent :=
  { files := default
    store := .memory slowStore
    registry := .standard
    session := { strategy := .appRole "approle" "role" (some ⟨"secret"⟩), timeout := 30000 }
    source := { descriptors := [.keyValue "kv" "secret" "app" .v1] } }

/-- The read of the backend. -/
def slowRead : PlannedRead :=
  ⟨.keyValue "kv" "secret" "app" .v1, { path := "secret/app", order := 0, source := "kv" }⟩

theorem slowStart_undisturbed : slowStart.Undisturbed slowStore where
  store := rfl
  faults := rfl
  delays := readDelay_le_of_entries (by decide)
  revoked := rfl
  requests := rfl
  tasks := rfl
  active := rfl
  queue := rfl

/-- A first login, a refresh that reads with its token, and a second login that replaces the
token while the refresh waits for its read. The revocation of the token is asked for and not
answered. -/
def overlap : List Act :=
  [.spawn (.call .login), .move (.proceed 0), .move (.answer 0), .move (.resume 0),
    .spawn .refresh, .move (.resume 1), .move (.resume 1), .move (.pass 100),
    .spawn (.call .login), .move (.proceed 2), .move (.answer 2)]

/-- The read ends before the token is revoked. -/
def lateHistory : List Moment :=
  replay slowStart [] (overlap ++
    [.move (.pass 500), .move (.read 1 0), .move (.resume 1), .move (.answer 2)])

theorem refresh_contributes_lateHistory :
    slowStart.Undisturbed slowStore ∧ (∀ m ∈ lateHistory, m.act.isPeaceful = true) ∧
      (latest slowStart lateHistory).result? 1 = some (500, .properties slowSecret.data) ∧
      ∃ (t : Token) (layers : List Layer), layers.length = 1 ∧ ∃ v past m,
        v :: past <:+ lateHistory ∧ v.act = .move (.read 1 0) ∧ v.before.store = .memory m ∧
        (t.value.value ∉ m.revoked ∧ layers[0]? = some (slowRead.contribution slowSecret) ∨
          t.value.value ∈ m.revoked ∧ layers[0]? = some slowRead.vacant) := by
  have run : Run slowStart lateHistory (latest slowStart lateHistory) := Run.start.replay _
  have peaceful : ∀ m ∈ lateHistory, m.act.isPeaceful = true := by decide
  have ended : (latest slowStart lateHistory).result? 1 =
      some (500, .properties slowSecret.data) := by decide +kernel
  refine ⟨slowStart_undisturbed, peaceful, ended, ?_⟩
  obtain ⟨t, layers, -, -, -, -, -, hlength, hreads⟩ :=
    run.refresh_contributes slowStart_undisturbed peaceful 1 500 _ ended
  obtain ⟨v, past, m, -, hsuffix, hact, -, hstore, hlayer⟩ :=
    hreads 0 slowRead slowSecret slowSecret (by decide) (by decide) (by decide)
  refine ⟨t, layers, hlength, v, past, m, hsuffix, hact, hstore, ?_⟩
  rcases hlayer with hkept | ⟨hrevoked, hvacant, -, -⟩
  · exact .inl hkept
  · exact .inr ⟨hrevoked, hvacant⟩

/-- The token is revoked before the read ends. -/
def revokedHistory : List Moment :=
  replay slowStart [] (overlap ++
    [.move (.answer 2), .move (.resume 2), .move (.pass 500), .move (.read 1 0),
      .move (.resume 1)])

/-- A refresh succeeds while the session replaces its token, the path of its only backend holds
a secret, and it publishes an empty layer. -/
theorem revokedHistory_loses_secret :
    slowStart.Undisturbed slowStore ∧
      Run slowStart revokedHistory (latest slowStart revokedHistory) ∧
      (∀ m ∈ revokedHistory, m.act.isPeaceful = true) ∧
      (latest slowStart revokedHistory).result? 1 = some (500, .properties Dict.empty) ∧
      slowStart.reads = [slowRead] ∧
      slowStore.secrets.get? slowRead.plan.path = some slowSecret ∧
      slowSecret.unwrap? slowRead.plan.layout = some slowSecret ∧
      slowRead.contribution slowSecret ≠ slowRead.vacant ∧
      (latest slowStart revokedHistory).source.published.layers = [slowRead.vacant] := by
  refine ⟨slowStart_undisturbed, Run.start.replay _, by decide, by decide +kernel, by decide,
    by decide, by decide, by decide, by decide +kernel⟩

end Agent

end SecretConfig
