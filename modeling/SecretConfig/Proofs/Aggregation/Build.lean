import SecretConfig.Aggregation.Build
import SecretConfig.Store.Memory

set_option autoImplicit false

/-! # What a build reads and makes of it

`Registry.read?` is the read of one descriptor, and a plan that succeeds has the reads of all
its descriptors in order (`Build.reads_of_plan`). Reads end in any order; `Build.collect` sees
their layers in the order of declaration again (`Build.collect_eq_ok_iff`).

Over a store in memory that puts no faults into its reads, the layer of a path that holds a
secret is one of two, and only the token decides (`PlannedRead.layer_of_secret`). -/

namespace SecretConfig

/-! ## Plans -/

/-- The read of a descriptor: there is none if it is disabled or does not resolve. -/
def Registry.read? (registry : Registry) (d : Descriptor) : Option PlannedRead :=
  if d.enabled then
    match registry.resolve d with
    | .ok p => some ⟨d, p⟩
    | .error _ => none
  else none

namespace Build

theorem reads_of_plan {registry : Registry} {o : BuildOptions} {ds : List Descriptor}
    {reads : List PlannedRead} (h : (plan registry o ds).1 = .ok reads) :
    reads = ds.filterMap registry.read? := by
  induction ds generalizing reads with
  | nil => exact (Except.ok.inj h).symm
  | cons d rest ih =>
      cases henabled : d.enabled with
      | false =>
          simp only [plan, henabled, Bool.false_eq_true, if_false] at h
          simpa [Registry.read?, henabled] using ih h
      | true =>
          cases hresolve : registry.resolve d with
          | ok p =>
              simp only [plan, henabled, if_true, hresolve] at h
              cases hrest : (plan registry o rest).1 with
              | error e => simp [hrest, Except.map] at h
              | ok tail =>
                  rw [hrest] at h
                  rw [← Except.ok.inj h, ih hrest]
                  simp [Registry.read?, henabled, hresolve]
          | error e =>
              simp only [plan, henabled, if_true, hresolve] at h
              split at h
              · exact nomatch h
              · simpa [Registry.read?, henabled, hresolve] using ih h

/-! ## Collecting layers -/

theorem allLayers_eq_ok_iff {results : List (Except Error Layer)} {layers : List Layer} :
    allLayers results = .ok layers ↔ results = layers.map .ok := by
  induction results generalizing layers with
  | nil => simp [allLayers, eq_comm]
  | cons result rest ih =>
      cases result with
      | error e =>
          constructor
          · exact nofun
          · intro h
            cases layers <;> simp at h
      | ok layer =>
          cases hrest : allLayers rest with
          | error e =>
              simp only [allLayers, hrest, Except.map, reduceCtorEq, false_iff]
              intro h
              cases layers with
              | nil => simp at h
              | cons head tail =>
                  have htail := ih.2 (List.cons.inj h).2
                  exact nomatch hrest.symm.trans htail
          | ok tail =>
              have hmap := ih.1 hrest
              simp only [allLayers, hrest, Except.map, Except.ok.injEq]
              constructor
              · rintro rfl
                simp [hmap]
              · intro h
                cases layers with
                | nil => simp at h
                | cons head tail' =>
                    obtain ⟨hhead, htail⟩ := List.cons.inj h
                    have htail' := ih.2 htail
                    rw [hrest] at htail'
                    rw [Except.ok.inj hhead, Except.ok.inj htail']

/-- A build succeeds when all of its reads do, with their layers by ascending order. -/
theorem collect_eq_ok_iff {results : List (Except Error Layer)} {layers : List Layer} :
    collect results = .ok layers ↔
      ∃ made, results = made.map .ok ∧ layers = Layer.sorted made := by
  unfold collect
  cases hall : allLayers results with
  | error e =>
      simp only [Except.map, reduceCtorEq, false_iff]
      rintro ⟨made, hmade, -⟩
      exact nomatch hall.symm.trans (allLayers_eq_ok_iff.2 hmade)
  | ok made =>
      have hmade := allLayers_eq_ok_iff.1 hall
      simp only [Except.map, Except.ok.injEq]
      constructor
      · rintro rfl
        exact ⟨made, hmade, rfl⟩
      · rintro ⟨made', hmade', rfl⟩
        rw [Except.ok.inj (hall.symm.trans (allLayers_eq_ok_iff.2 hmade'))]

end Build

/-! ## The layer of a secret -/

/-- The read of a path that holds a secret gives the properties of the secret, or, if the token
was revoked, nothing; a backend that has to be there gives no layer then. -/
theorem PlannedRead.layer_of_secret {r : PlannedRead} {o : BuildOptions} {m : MemoryStore}
    {t : Token} {p secret : Payload} {layer : Layer} (faults : m.readFailures = Dict.empty)
    (stored : m.secrets.get? r.plan.path = some p) (holds : p.unwrap? r.plan.layout = some secret)
    (h : (r.layer o (m.read r.plan.path t)).1 = .ok layer) :
    t.value.value ∉ m.revoked ∧ layer = r.contribution secret ∨
      t.value.value ∈ m.revoked ∧ layer = r.vacant ∧ r.descriptor.isRequired o = false := by
  by_cases hrevoked : t.value.value ∈ m.revoked
  · right
    have hread : m.read r.plan.path t = .error MemoryStore.refusal := by
      simp [MemoryStore.read, faults, MemoryStore.isRevoked, hrevoked]
    have hsecret : r.secret (m.read r.plan.path t) = .error MemoryStore.refusal := by
      rw [hread]
      rfl
    have hunauthorized : MemoryStore.refusal.isUnauthorized = true := rfl
    simp only [PlannedRead.layer, hsecret, hunauthorized, if_true] at h
    cases hrequired : r.descriptor.isRequired o with
    | true =>
        rw [hrequired] at h
        exact nomatch h
    | false =>
        rw [hrequired] at h
        exact ⟨hrevoked, (Except.ok.inj h).symm, rfl⟩
  · left
    have hread : m.read r.plan.path t = .ok (some p) := by
      simp [MemoryStore.read, faults, MemoryStore.isRevoked, hrevoked, stored]
    simp only [hread, PlannedRead.layer, PlannedRead.secret, holds, Except.ok.injEq] at h
    exact ⟨hrevoked, h.symm⟩

end SecretConfig
