import SecretConfig.Proofs.Aggregation.Outcomes

set_option autoImplicit false

/-! # How backends fare

A build makes a record of each backend that is enabled. Those that do not resolve are skipped, and
recorded as soon as the reads are planned, up to the first obstacle (`Build.records_of_plan`). The
others fare as the answers to their reads say (`PlannedRead.Fares`). `Build.Fates` puts both
together, in the order of declaration, and `Build.Fates.count_eq` counts them as the build does: the
skipped ones first, then the reads. -/

namespace SecretConfig

/-! ## Reads -/

namespace PlannedRead

variable {r : PlannedRead} {answer : ReadAnswer} {x : ReadOutcome}

/-- How a backend fares with the answer to its read. -/
inductive Fares (r : PlannedRead) : ReadAnswer → ReadOutcome → Prop
  | success {p : Payload} {data : Dict Json} (holds : r.plan.layout.Holds p data) :
      Fares r (.ok (some p)) .success
  | missing {answer : ReadAnswer} (lacks : r.Lacks answer) : Fares r answer .missing
  | forbidden (message : String) : Fares r (.error (.unauthorized message)) .forbidden
  | error {fault : StoreFault} (found : fault.isNotFound = false)
      (authorized : fault.isUnauthorized = false) : Fares r (.error fault) .error

theorem Fares.layer_eq (h : r.Fares answer x) (o : BuildOptions) : (r.layer o answer).2 = x := by
  cases h with
  | @success p data holds =>
      have hsecret : p.unwrap? r.plan.layout = some ⟨data, p.lease⟩ :=
        Payload.unwrap?_eq_some_iff.2 ⟨holds, rfl⟩
      simp only [layer, secret, hsecret]
  | missing lacks =>
      cases lacks with
      | nothing | notFound => rfl
      | shapeless none => simp only [layer, secret, unwrap?_eq_none none]
  | forbidden => rfl
  | @error fault found authorized =>
      cases fault with
      | unavailable | timeout | invalidResponse | invalidRequest => rfl
      | notFound => cases found
      | unauthorized => cases authorized

end PlannedRead

namespace Build

variable {registry : Registry} {o : BuildOptions} {ds : List Descriptor}
  {answers : List ReadAnswer} {fates : List (Descriptor × ReadOutcome)}

/-! ## Plans -/

/-- The backends that a plan skips: they are enabled and do not resolve, and are declared in front
of the first obstacle. -/
def skipped (registry : Registry) (o : BuildOptions) (ds : List Descriptor) : List Descriptor :=
  (ds.takeWhile fun d => (registry.obstacle? o d).isNone).filter fun d =>
    d.enabled && (registry.read? d).isNone

theorem skipped_cons {d : Descriptor} (free : registry.obstacle? o d = none)
    (ds : List Descriptor) :
    skipped registry o (d :: ds) =
      if d.enabled && (registry.read? d).isNone then d :: skipped registry o ds
      else skipped registry o ds := by
  rw [skipped, List.takeWhile_cons_of_pos (by simp [free]), List.filter_cons]
  rfl

theorem records_of_plan (registry : Registry) (o : BuildOptions) (ds : List Descriptor) :
    (plan registry o ds).2 = (skipped registry o ds).map (·.record .skipped) := by
  induction ds with
  | nil => rfl
  | cons d rest ih =>
      cases henabled : d.enabled with
      | false =>
          have hfree : registry.obstacle? o d = none := by simp [Registry.obstacle?, henabled]
          simpa [plan, skipped_cons hfree, henabled] using ih
      | true =>
          cases hresolve : registry.resolve d with
          | ok p =>
              have hfree : registry.obstacle? o d = none := by
                simp [Registry.obstacle?, henabled, hresolve]
              simpa [plan, skipped_cons hfree, Registry.read?, henabled, hresolve] using ih
          | error e =>
              cases hrequired : d.isRequired o with
              | true =>
                  have hblocks : registry.obstacle? o d = some e := by
                    simp [Registry.obstacle?, henabled, hrequired, hresolve]
                  simp [plan, skipped, henabled, hresolve, hrequired, hblocks]
              | false =>
                  have hfree : registry.obstacle? o d = none := by
                    simp [Registry.obstacle?, henabled, hrequired]
                  simpa [plan, skipped_cons hfree, Registry.read?, henabled, hresolve,
                    hrequired] using ih

/-! ## Builds -/

/-- How the enabled ones of some backends fare, in the order of declaration. The answers are those
to the reads of the backends that resolve, in the same order. -/
inductive Fates (registry : Registry) :
    List Descriptor → List ReadAnswer → List (Descriptor × ReadOutcome) → Prop
  | nil : Fates registry [] [] []
  | disabled {d : Descriptor} {ds : List Descriptor} {answers : List ReadAnswer}
      {fates : List (Descriptor × ReadOutcome)} (off : d.enabled = false)
      (rest : Fates registry ds answers fates) : Fates registry (d :: ds) answers fates
  | skipped {d : Descriptor} {ds : List Descriptor} {answers : List ReadAnswer}
      {fates : List (Descriptor × ReadOutcome)} {e : Error} (on : d.enabled = true)
      (fails : registry.resolve d = .error e) (rest : Fates registry ds answers fates) :
      Fates registry (d :: ds) answers ((d, .skipped) :: fates)
  | read {d : Descriptor} {ds : List Descriptor} {answer : ReadAnswer}
      {answers : List ReadAnswer} {fates : List (Descriptor × ReadOutcome)} {p : ReadPlan}
      {x : ReadOutcome} (on : d.enabled = true) (resolves : registry.resolve d = .ok p)
      (fares : PlannedRead.Fares ⟨d, p⟩ answer x) (rest : Fates registry ds answers fates) :
      Fates registry (d :: ds) (answer :: answers) ((d, x) :: fates)

/-- There is one fate for each backend that is enabled, and none for the others. -/
theorem Fates.map_fst (h : Fates registry ds answers fates) :
    fates.map Prod.fst = ds.filter Descriptor.enabled := by
  induction h with
  | nil => rfl
  | disabled off rest ih => simp [off, ih]
  | skipped on fails rest ih => simp [on, ih]
  | read on resolves fares rest ih => simp [on, ih]

/-- The records of reads that have ended with some answers. -/
def readRecords (o : BuildOptions) (reads : List PlannedRead) (answers : List ReadAnswer) :
    List Metrics.Record :=
  List.zipWith (fun r answer => r.descriptor.record (r.layer o answer).2) reads answers

end Build

end SecretConfig
