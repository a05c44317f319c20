import SecretConfig.Aggregation.Build
import SecretConfig.Proofs.Backend.Plans
import SecretConfig.Proofs.Property.Lossless
import SecretConfig.Proofs.Property.Renames

set_option autoImplicit false

/-! # Where issued credentials go

A backend that issues credentials answers with an object, whose members that hold credentials are
renamed to configured properties. Their keys are plain, so such a member is a property under its own
key, whatever else the object holds (`Properties.get?_flatten_of_isPlain`). All other members pass
under their own names. Where one of them is called as a credential is to be called, or two
credentials are to have one name, the greatest of the old names decides
(`Descriptor.delivers_credentials`), and a credential can be lost
(`Descriptor.passedProperty_displaces_credential`). -/

namespace SecretConfig

/-- The keys of the credentials that a backend issues. -/
def BackendSettings.issuedKeys : BackendSettings → List String
  | keyValue _ _ => []
  | database _ _ _ | rabbitMq _ _ => ["username", "password"]
  | consul _ => ["token"]
  | aws _ _ _ => ["access_key", "secret_key", "security_token"]

/-- The value is neither an object nor an array. -/
def Json.isScalar : Json → Bool
  | .obj _ | .arr _ => false
  | _ => true

theorem Json.isLeaf_of_isScalar {v : Json} (scalar : v.isScalar = true) : v.isLeaf = true := by
  cases v with
  | obj | arr => exact nomatch scalar
  | null | bool | num | str => rfl

namespace Descriptor

variable {d : Descriptor} {plan : ReadPlan} {key : String}

theorem isPlain_of_mem_issuedKeys (c : BackendSettings) (h : key ∈ c.issuedKeys) :
    Json.isPlain key = true := by
  have hall : c.issuedKeys.all Json.isPlain = true := by
    cases c with
    | keyValue | database | rabbitMq | consul | aws => rfl
  exact List.all_eq_true.1 hall key h

theorem issuedKeys_eq (c : BackendSettings) : c.issuedKeys = c.credentialKeys.map (·.key) := by
  cases c with
  | keyValue | database | rabbitMq | consul | aws => rfl

/-- The keys of the issued credentials get new names, and no others do. -/
theorem names_of_resolve (resolves : Registry.standard.resolve d = .ok plan)
    (issues : d.kind ≠ .keyValue) :
    plan.layout = .flat ∧ ∃ names, plan.names = some names ∧
      ∀ key, (∃ target, names.target? key = some target) ↔ key ∈ d.settings.issuedKeys := by
  have hcarries := carries_of_resolve resolves
  have hlayout : plan.layout = .flat :=
    hcarries.layout.trans (BackendSettings.layout_eq_flat issues)
  have hrenaming : ∃ names, d.settings.renaming? = some names := ⟨_, if_neg issues⟩
  obtain ⟨names, hnames⟩ := hrenaming
  refine ⟨hlayout, names, hcarries.names.trans hnames, fun key => ?_⟩
  rw [issuedKeys_eq, List.mem_map]
  constructor
  · rintro ⟨target, htarget⟩
    obtain ⟨k, hk, hkey, -⟩ := (BackendSettings.target?_iff hnames key target).1 htarget
    exact ⟨k, hk, hkey⟩
  · rintro ⟨k, hk, hkey⟩
    exact ⟨k.target, (BackendSettings.target?_iff hnames key _).2 ⟨k, hk, hkey, rfl⟩⟩

/-- **A credential reaches its property unless a rival does.** The layer that an answer makes has
each issued credential under the name that its key gets, or the greatest of its rivals. -/
theorem delivers_credentials (d : Descriptor) (plan : ReadPlan)
    (resolves : Registry.standard.resolve d = .ok plan) (issues : d.kind ≠ .keyValue)
    (o : BuildOptions) (p : Payload) :
    ∃ names layer, plan.names = some names ∧
      PlannedRead.layer o ⟨d, plan⟩ (.ok (some p)) = (.ok layer, .success) ∧
      (∀ key, (∃ target, names.target? key = some target) ↔ key ∈ d.settings.issuedKeys) ∧
      ∀ key target, names.target? key = some target →
        ∀ v, p.data.get? key = some v → v.isScalar = true →
          ((∀ other, ¬ names.Rivals (Properties.flatten p.data) key other) ∧
            layer.properties.get? target = some v) ∨
          ∃ other, names.Rivals (Properties.flatten p.data) key other ∧
            (∀ other', names.Rivals (Properties.flatten p.data) key other' → other' ≤ other) ∧
            layer.properties.get? target = (Properties.flatten p.data).get? other := by
  obtain ⟨hlayout, names, hnames, hkeys⟩ := names_of_resolve resolves issues
  refine ⟨names, PlannedRead.contribution ⟨d, plan⟩ p, hnames, ?_, hkeys, ?_⟩
  · simp only [PlannedRead.layer, PlannedRead.secret, hlayout, Payload.unwrap?]
  intro key target htarget v hv scalar
  have plain := isPlain_of_mem_issuedKeys d.settings ((hkeys key).1 ⟨target, htarget⟩)
  have found := Properties.get?_flatten_of_isPlain plain hv (Json.isLeaf_of_isScalar scalar)
  have hproperties : (PlannedRead.contribution ⟨d, plan⟩ p).properties =
      names.apply (Properties.flatten p.data) := by
    simp only [PlannedRead.contribution, hnames]
  rw [hproperties, ← Renaming.rename_of_target? htarget]
  exact Renaming.get?_apply_rename found

/-- A database with the default property names. -/
def orders : Descriptor := .ofKind .database "db" "database" "readonly" .v2

/-- The names of its credentials. -/
def ordersNames : Renaming :=
  .ofList [("username", "spring.datasource.username"), ("password", "spring.datasource.password")]

/-- The plan of the database. -/
def ordersPlan : ReadPlan :=
  { path := "database/creds/readonly", order := 0, source := "db", names := some ordersNames }

/-- Credentials, and a member that is called as the password is to be called. -/
def passedPayload : Payload :=
  ⟨Dict.ofList [("username", .str "v-app-1"), ("password", .str "A1b2"),
    ("spring.datasource.password", .str "old")], none⟩

/-- The user name has no rival, and the password has one. -/
theorem delivers_credentials_orders :
    Registry.standard.resolve orders = .ok ordersPlan ∧
      (PlannedRead.contribution ⟨orders, ordersPlan⟩ passedPayload).properties.get?
        "spring.datasource.username" = some (.str "v-app-1") ∧
      (PlannedRead.contribution ⟨orders, ordersPlan⟩ passedPayload).properties.get?
        "spring.datasource.password" = some (.str "old") := by
  have hresolve : Registry.standard.resolve orders = .ok ordersPlan := by decide +kernel
  obtain ⟨names, layer, hnames, hlayer, -, hdelivers⟩ :=
    delivers_credentials orders ordersPlan hresolve (by decide) {} passedPayload
  obtain rfl : ordersNames = names := Option.some.inj hnames
  obtain rfl := Except.ok.inj (congrArg Prod.fst hlayer)
  have husername : ∀ other ∈ (Properties.flatten passedPayload.data).keys,
      ¬ ordersNames.Rivals (Properties.flatten passedPayload.data) "username" other := by decide
  have hpassword : ∀ other ∈ (Properties.flatten passedPayload.data).keys,
      ordersNames.Rivals (Properties.flatten passedPayload.data) "password" other ↔
        other = "spring.datasource.password" := by decide
  refine ⟨hresolve, ?_, ?_⟩
  · rcases hdelivers "username" "spring.datasource.username" (by decide) (.str "v-app-1")
      (by decide) rfl with ⟨-, hvalue⟩ | ⟨other, rivals, -, -⟩
    · exact hvalue
    · exact absurd rivals (husername other rivals.held)
  · rcases hdelivers "password" "spring.datasource.password" (by decide) (.str "A1b2")
      (by decide) rfl with ⟨none, -⟩ | ⟨other, rivals, -, hvalue⟩
    · exact absurd ((hpassword _ (by decide)).2 rfl) (none _)
    · rw [hvalue, (hpassword other rivals.held).1 rivals]
      decide

/-- Not every issued credential reaches its property. -/
theorem passedProperty_displaces_credential :
    ¬ ∀ (d : Descriptor) (plan : ReadPlan), Registry.standard.resolve d = .ok plan →
      d.kind ≠ .keyValue → ∀ (o : BuildOptions) (p : Payload) (names : Renaming) (layer : Layer),
        plan.names = some names →
        PlannedRead.layer o ⟨d, plan⟩ (.ok (some p)) = (.ok layer, .success) →
        ∀ key target, names.target? key = some target →
          ∀ v, p.data.get? key = some v → v.isScalar = true →
            layer.properties.get? target = some v := by
  intro always
  have hresolve : Registry.standard.resolve orders = .ok ordersPlan := by decide +kernel
  have hpassword := always orders ordersPlan hresolve (by decide) {} passedPayload ordersNames
    (PlannedRead.contribution ⟨orders, ordersPlan⟩ passedPayload) rfl rfl
    "password" "spring.datasource.password" (by decide) (.str "A1b2") (by decide) rfl
  exact absurd hpassword (by decide)

end Descriptor

end SecretConfig
