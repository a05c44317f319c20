import SecretConfig.Proofs.Backend.Faults
import SecretConfig.Proofs.Property.Simultaneous

set_option autoImplicit false

/-! # What descriptors resolve to

A descriptor has a list of inputs (`Descriptor.inputs`): the mount, the role or the context, and the
names of the properties of its credentials, each with what its check answers. A registry that has
the resolver of the library for the kind of the descriptor fails exactly if one of them is refused,
with the error of the first, and otherwise plans the read as the descriptor says
(`Descriptor.ResolvesBy`). Resolvers can be registered in any order and number; they concern the
kinds that they are registered for, and of those for one kind the last is in use
(`Registry.resolves_by_inputs`). -/

namespace SecretConfig

/-- The keys of issued credentials in the order of their checks, each with the field that configures
its property and the name that the property has by default. -/
def BackendSettings.credentialKeys : BackendSettings → List Resolver.CredentialKey
  | keyValue _ _ => []
  | database _ username password =>
    [⟨"username", "username_property", username, "spring.datasource.username"⟩,
     ⟨"password", "password_property", password, "spring.datasource.password"⟩]
  | rabbitMq username password =>
    [⟨"username", "username_property", username, "spring.rabbitmq.username"⟩,
     ⟨"password", "password_property", password, "spring.rabbitmq.password"⟩]
  | consul token => [⟨"token", "token_property", token, "spring.cloud.consul.token"⟩]
  | aws accessKey secretKey sessionToken =>
    [⟨"access_key", "access_key_property", accessKey, "cloud.aws.credentials.accessKey"⟩,
     ⟨"secret_key", "secret_key_property", secretKey, "cloud.aws.credentials.secretKey"⟩,
     ⟨"security_token", "session_token_property", sessionToken,
      "cloud.aws.credentials.sessionToken"⟩]

theorem BackendSettings.nodup_credentialKeys (c : BackendSettings) :
    (c.credentialKeys.map (·.key)).Nodup := by
  cases c with
  | keyValue => exact List.nodup_nil
  | database | rabbitMq =>
    show ["username", "password"].Nodup
    decide
  | consul => exact List.nodup_singleton _
  | aws =>
    show ["access_key", "secret_key", "security_token"].Nodup
    decide

/-- The name of a property: the configured one without the blanks around it, or the default. -/
def Resolver.CredentialKey.target (k : Resolver.CredentialKey) : String :=
  (k.configured.map Text.trim).getD k.default

/-- Where the secret lies in the answers of a backend: only the second version of key-value stores
nests it. -/
def BackendSettings.layout : BackendSettings → PayloadLayout
  | keyValue _ .v2 => .versioned
  | keyValue _ .v1 | database _ _ _ | rabbitMq _ _ | consul _ | aws _ _ _ => .flat

theorem BackendSettings.layout_eq_versioned_iff {c : BackendSettings} :
    c.layout = .versioned ↔ ∃ context, c = .keyValue context .v2 := by
  cases c with
  | keyValue context version =>
    cases version with
    | v1 => exact ⟨nofun, nofun⟩
    | v2 => exact ⟨fun _ => ⟨context, rfl⟩, fun _ => rfl⟩
  | database | rabbitMq | consul | aws => exact ⟨nofun, nofun⟩

/-- Credentials are never nested. -/
theorem BackendSettings.layout_eq_flat {c : BackendSettings} (issues : c.kind ≠ .keyValue) :
    c.layout = .flat := by
  cases c with
  | keyValue => exact absurd rfl issues
  | database | rabbitMq | consul | aws => rfl

/-- The renaming of issued credentials: each key gets its target. -/
def BackendSettings.renaming? (c : BackendSettings) : Option Renaming :=
  if c.kind = .keyValue then none
  else some (Renaming.ofList (c.credentialKeys.map fun k => (k.key, k.target)))

/-- The new names of the keys are their targets, and no other name is changed. -/
theorem BackendSettings.target?_iff {c : BackendSettings} {names : Renaming}
    (h : c.renaming? = some names) (key target : String) :
    names.target? key = some target ↔ ∃ k ∈ c.credentialKeys, k.key = key ∧ k.target = target := by
  have hnodup : ((c.credentialKeys.map fun k => (k.key, k.target)).map Prod.fst).Nodup := by
    rw [List.map_map]
    exact c.nodup_credentialKeys
  unfold renaming? at h
  split at h
  · exact nomatch h
  · obtain rfl := Option.some.inj h
    rw [Renaming.target?, Renaming.targets_ofList, Dict.get?_eq_some_iff,
      Dict.ofList, (Entries.ofPairs_perm hnodup).mem_iff, List.mem_map]
    simp only [Prod.mk.injEq]

namespace Descriptor

variable {d : Descriptor} {plan : ReadPlan}

/-! ## The inputs and their checks -/

/-- The inputs in the order in which they are checked: the field of each, and what the check of its
value answers. -/
def inputs (d : Descriptor) : List (String × Except Error String) :=
  ("mount", d.require "mount" d.mount) :: (d.target.1, d.require d.target.1 d.target.2) ::
    d.settings.credentialKeys.map fun k => (k.field, d.propertyOr k.field k.configured k.default)

/-- The field and the error of an input that is refused. -/
def refusal (i : String × Except Error String) : Option (String × Error) :=
  match i.2 with
  | .ok _ => none
  | .error e => some (i.1, e)

/-- The first input that is refused. -/
def firstRefused (d : Descriptor) : Option (String × Error) := d.inputs.findSome? refusal

/-- A fault with its error. -/
def reported (d : Descriptor) (p : String × BackendFault) : String × Error :=
  (p.1, d.fault p.1 p.2)

theorem refusal_of_checks {field : String} {x : Except Error String}
    {found : List (String × BackendFault)} (checks : d.Checks found x)
    (hfield : ∀ p ∈ found, p.1 = field) : refusal (field, x) = found.head?.map d.reported := by
  cases found with
  | nil =>
    obtain ⟨value, rfl⟩ := checks
    rfl
  | cons p rest =>
    obtain rfl : x = .error (d.fault p.1 p.2) := checks
    obtain rfl : p.1 = field := hfield p List.mem_cons_self
    rfl

theorem refusal_require (d : Descriptor) (field : String) (value : Option String) :
    refusal (field, d.require field value) = (unmet field value).head?.map d.reported := by
  refine refusal_of_checks (d.checks_require field value) ?_
  intro p hp
  unfold unmet at hp
  split at hp
  · rw [List.mem_singleton.1 hp]
  · exact absurd hp List.not_mem_nil

theorem refusal_propertyOr (d : Descriptor) (field : String) (configured : Option String)
    (default : String) : refusal (field, d.propertyOr field configured default) =
      (unnamed [(field, configured)]).head?.map d.reported := by
  refine refusal_of_checks (d.checks_propertyOr field configured default) ?_
  intro p hp
  obtain ⟨f, hf, rfl⟩ := List.mem_map.1 hp
  rw [List.mem_singleton.1 (List.mem_filter.1 hf).1]

/-- The first refused name is the first fault among the names. -/
theorem findSome?_names (d : Descriptor) (keys : List Resolver.CredentialKey) :
    (keys.map fun k => (k.field, d.propertyOr k.field k.configured k.default)).findSome? refusal =
      (unnamed (keys.map fun k => (k.field, k.configured))).head?.map d.reported := by
  induction keys with
  | nil => rfl
  | cons k rest ih =>
    rw [List.map_cons, List.map_cons, unnamed_cons, List.head?_append, Option.map_or,
      List.findSome?_cons, ih, refusal_propertyOr]
    cases (unnamed [(k.field, k.configured)]).head? with
    | none => rfl
    | some p => rfl

theorem map_credentialKeys (c : BackendSettings) :
    (c.credentialKeys.map fun k => (k.field, k.configured)) = c.propertyNames := by
  cases c with
  | keyValue | database | rabbitMq | consul | aws => rfl

/-- The first refused input is the first fault of a descriptor. -/
theorem firstRefused_eq (d : Descriptor) : d.firstRefused = d.faults.head?.map d.reported := by
  have hnames := d.findSome?_names d.settings.credentialKeys
  rw [map_credentialKeys] at hnames
  rw [firstRefused, inputs, List.findSome?_cons, List.findSome?_cons, hnames, refusal_require,
    refusal_require, faults, List.head?_append, List.head?_append, Option.map_or, Option.map_or]
  cases (unmet "mount" d.mount).head? with
  | some p => rfl
  | none =>
    cases (unmet d.target.1 d.target.2).head? with
    | some p => rfl
    | none => rfl

/-- A refused input is a fault of its field. -/
theorem of_firstRefused {field : String} {e : Error} (h : d.firstRefused = some (field, e)) :
    ∃ f, e = d.fault field f := by
  rw [firstRefused_eq] at h
  obtain ⟨p, -, hp⟩ := Option.map_eq_some_iff.1 h
  obtain ⟨rfl, rfl⟩ := Prod.mk.inj hp
  exact ⟨p.2, rfl⟩

/-- The fields of inputs are those of a descriptor, never its kind or its settings as a whole. -/
theorem field_of_mem_inputs {i : String × Except Error String} (h : i ∈ d.inputs) :
    i.1 ≠ "kind" ∧ i.1 ≠ "settings" := by
  have hinputs : d.inputs.map Prod.fst =
      "mount" :: d.target.1 :: d.settings.propertyNames.map Prod.fst := by
    rw [inputs, ← map_credentialKeys, List.map_cons, List.map_cons, List.map_map, List.map_map]
    rfl
  have hall : ((d.inputs.map Prod.fst).all fun field =>
      decide (field ≠ "kind" ∧ field ≠ "settings")) = true := by
    rw [hinputs, target]
    cases d.settings with
    | keyValue | database | rabbitMq | consul | aws => rfl
  exact of_decide_eq_true (List.all_eq_true.1 hall i.1 (List.mem_map_of_mem h))

/-! ## What a descriptor that resolves plans -/

/-- A plan says of a descriptor what the library says of its kind. -/
structure Carries (d : Descriptor) (plan : ReadPlan) : Prop where
  order : plan.order = d.order
  source : plan.source = d.name
  layout : plan.layout = d.settings.layout
  names : plan.names = d.settings.renaming?

theorem carries_of_keyValue {context : Option String} {version : KvVersion}
    (settings : d.settings = .keyValue context version)
    (resolves : Registry.standard.resolve d = .ok plan) : d.Carries plan := by
  have hresolve : Resolver.ofKind d.settings.kind d = .ok plan := resolves
  rw [settings] at hresolve
  simp only [BackendSettings.kind, Resolver.ofKind, Resolver.keyValue, settings] at hresolve
  obtain ⟨mount, -, hresolve⟩ := Except.eq_ok_of_bind hresolve
  obtain ⟨below, -, hresolve⟩ := Except.eq_ok_of_bind hresolve
  cases version with
  | v1 =>
    obtain rfl := Except.ok.inj hresolve
    exact ⟨rfl, rfl, by rw [settings]; rfl, by rw [settings]; rfl⟩
  | v2 =>
    obtain rfl := Except.ok.inj hresolve
    exact ⟨rfl, rfl, by rw [settings]; rfl, by rw [settings]; rfl⟩

/-- A descriptor of any other kind resolves as one that issues credentials under its keys. -/
theorem resolve_credentials (issues : d.kind ≠ .keyValue) :
    ∃ segment, Registry.standard.resolve d =
      Resolver.credentials d segment d.settings.credentialKeys := by
  have hresolve : Registry.standard.resolve d = Resolver.ofKind d.settings.kind d := rfl
  rw [hresolve]
  cases hsettings : d.settings with
  | keyValue context version => exact absurd (congrArg BackendSettings.kind hsettings) issues
  | database staticRole username password =>
    simp only [BackendSettings.kind, Resolver.ofKind, Resolver.database, hsettings]
    exact ⟨_, rfl⟩
  | rabbitMq username password =>
    simp only [BackendSettings.kind, Resolver.ofKind, Resolver.rabbitMq, hsettings]
    exact ⟨_, rfl⟩
  | consul token =>
    simp only [BackendSettings.kind, Resolver.ofKind, Resolver.consul, hsettings]
    exact ⟨_, rfl⟩
  | aws accessKey secretKey sessionToken =>
    simp only [BackendSettings.kind, Resolver.ofKind, Resolver.aws, hsettings]
    exact ⟨_, rfl⟩

theorem eq_target_of_propertyOr {k : Resolver.CredentialKey} {name : String}
    (h : d.propertyOr k.field k.configured k.default = .ok name) : name = k.target := by
  unfold propertyOr at h
  unfold Resolver.CredentialKey.target
  cases hconfigured : k.configured with
  | none =>
    rw [hconfigured] at h
    exact (Except.ok.inj h).symm
  | some configured =>
    simp only [hconfigured, Option.map_some] at h
    split at h
    · exact nomatch h
    · exact (Except.ok.inj h).symm

theorem eq_map_of_namesOf {keys : List Resolver.CredentialKey} {pairs : List (String × String)}
    (h : Resolver.namesOf d keys = .ok pairs) : pairs = keys.map fun k => (k.key, k.target) := by
  induction keys generalizing pairs with
  | nil => exact (Except.ok.inj h).symm
  | cons k rest ih =>
    obtain ⟨name, hname, h⟩ := Except.eq_ok_of_bind h
    obtain ⟨later, hlater, h⟩ := Except.eq_ok_of_bind h
    rw [← Except.ok.inj h, List.map_cons, ← ih hlater, eq_target_of_propertyOr hname]

/-- What is planned for a descriptor that resolves. -/
theorem carries_of_resolve (resolves : Registry.standard.resolve d = .ok plan) :
    d.Carries plan := by
  by_cases hkind : d.settings.kind = .keyValue
  · cases hsettings : d.settings with
    | keyValue context version => exact carries_of_keyValue hsettings resolves
    | database | rabbitMq | consul | aws =>
      rw [hsettings] at hkind
      exact nomatch hkind
  · obtain ⟨segment, hresolve⟩ := resolve_credentials hkind
    rw [hresolve] at resolves
    obtain ⟨path, -, resolves⟩ := Except.eq_ok_of_bind resolves
    obtain ⟨pairs, hpairs, resolves⟩ := Except.eq_ok_of_bind resolves
    obtain rfl := Except.ok.inj resolves
    refine ⟨rfl, rfl, (BackendSettings.layout_eq_flat hkind).symm, ?_⟩
    rw [BackendSettings.renaming?, if_neg hkind, eq_map_of_namesOf hpairs]

/-! ## Resolving by the inputs -/

/-- The outcome of resolving a descriptor is what its inputs ask for. -/
structure ResolvesBy (d : Descriptor) (x : Except Error ReadPlan) : Prop where
  /-- A refused input makes it fail, and nothing else does. -/
  fails_iff : (∃ e, x = .error e) ↔ ∃ i ∈ d.inputs, ∃ e, i.2 = .error e
  /-- The error is that of the first refused input. -/
  error_iff : ∀ e, x = .error e ↔ ∃ field, d.firstRefused = some (field, e)
  /-- The error names the descriptor and the field of that input. -/
  names : ∀ field e, d.firstRefused = some (field, e) →
    e.kind = "Configuration" ∧ e.backend? = some d.name ∧ e.field? = some field
  /-- It never names the kind, or the settings as a whole. -/
  names_input : ∀ e, x = .error e → e.field? ≠ some "kind" ∧ e.field? ≠ some "settings"
  /-- A plan has the order and the name of the descriptor. -/
  carries : ∀ plan, x = .ok plan → plan.order = d.order ∧ plan.source = d.name
  /-- The second version of key-value stores nests its secrets, and nothing else does. -/
  versioned_iff : ∀ plan, x = .ok plan →
    (plan.layout = .versioned ↔ ∃ context, d.settings = .keyValue context .v2)
  /-- Backends of the other kinds rename the keys of their credentials, and no other names. -/
  renames : ∀ plan, x = .ok plan →
    (plan.names = none ↔ d.kind = .keyValue) ∧
    ∀ names, plan.names = some names → ∀ key target, names.target? key = some target ↔
      ∃ k ∈ d.settings.credentialKeys, k.key = key ∧ k.target = target

/-- Resolving succeeds, and no input is refused, or fails with the first refused input. -/
theorem resolve_cases (d : Descriptor) :
    (∃ plan, Registry.standard.resolve d = .ok plan) ∧ d.firstRefused = none ∨
      ∃ field e, Registry.standard.resolve d = .error e ∧ d.firstRefused = some (field, e) := by
  have hchecks := d.resolve_standard
  rw [firstRefused_eq]
  cases hfaults : d.faults with
  | nil =>
    rw [hfaults] at hchecks
    exact .inl ⟨hchecks, rfl⟩
  | cons p rest =>
    rw [hfaults] at hchecks
    exact .inr ⟨p.1, d.fault p.1 p.2, hchecks, rfl⟩

theorem exists_refused_iff :
    (∃ field e, d.firstRefused = some (field, e)) ↔ ∃ i ∈ d.inputs, ∃ e, i.2 = .error e := by
  constructor
  · rintro ⟨field, e, h⟩
    obtain ⟨i, hi, hrefusal⟩ := List.exists_of_findSome?_eq_some h
    unfold refusal at hrefusal
    split at hrefusal
    · exact nomatch hrefusal
    · rename_i e' he
      exact ⟨i, hi, e', he⟩
  · rintro ⟨i, hi, e, he⟩
    cases h : d.firstRefused with
    | some p => exact ⟨p.1, p.2, rfl⟩
    | none =>
      have hnone := List.findSome?_eq_none_iff.1 h i hi
      rw [refusal, he] at hnone
      exact nomatch hnone

/-- With the resolvers of the library, descriptors resolve by their inputs. -/
theorem resolvesBy_standard (d : Descriptor) : d.ResolvesBy (Registry.standard.resolve d) := by
  have herror (e : Error) : Registry.standard.resolve d = .error e ↔
      ∃ field, d.firstRefused = some (field, e) := by
    rcases d.resolve_cases with ⟨⟨plan, hplan⟩, hnone⟩ | ⟨field, e', he, hsome⟩
    · rw [hplan, hnone]
      exact ⟨nofun, nofun⟩
    · rw [he, hsome]
      constructor
      · intro h
        exact ⟨field, by rw [Except.error.inj h]⟩
      · rintro ⟨field', h⟩
        rw [(Prod.mk.inj (Option.some.inj h)).2]
  have hnames (field : String) (e : Error) (h : d.firstRefused = some (field, e)) :
      e.kind = "Configuration" ∧ e.backend? = some d.name ∧ e.field? = some field := by
    obtain ⟨f, rfl⟩ := of_firstRefused h
    exact ⟨rfl, rfl, rfl⟩
  refine ⟨?_, herror, hnames, ?_, ?_, ?_, ?_⟩
  · rw [← exists_refused_iff, exists_comm]
    exact exists_congr herror
  · intro e he
    obtain ⟨field, h⟩ := (herror e).1 he
    obtain ⟨i, hi, hrefusal⟩ := List.exists_of_findSome?_eq_some h
    have hfield : i.1 = field := by
      unfold refusal at hrefusal
      split at hrefusal
      · exact nomatch hrefusal
      · exact (Prod.mk.inj (Option.some.inj hrefusal)).1
    rw [(hnames field e h).2.2, ← hfield]
    have hinput := field_of_mem_inputs hi
    exact ⟨fun hkind => hinput.1 (Option.some.inj hkind),
      fun hsettings => hinput.2 (Option.some.inj hsettings)⟩
  · intro plan hplan
    have hcarries := carries_of_resolve hplan
    exact ⟨hcarries.order, hcarries.source⟩
  · intro plan hplan
    rw [(carries_of_resolve hplan).layout]
    exact BackendSettings.layout_eq_versioned_iff
  · intro plan hplan
    rw [(carries_of_resolve hplan).names]
    refine ⟨?_, fun names h => BackendSettings.target?_iff h⟩
    rw [BackendSettings.renaming?, kind]
    split
    · rename_i hkind
      exact ⟨fun _ => hkind, fun _ => rfl⟩
    · rename_i hkind
      exact ⟨nofun, fun h => absurd h hkind⟩

end Descriptor

/-! ## Registering resolvers -/

namespace Registry

variable {r : Registry} {kind : BackendKind} {calls : List (BackendKind × Resolver)}

/-- The registry after some resolvers have been registered, from left to right. -/
def registerAll (r : Registry) (calls : List (BackendKind × Resolver)) : Registry :=
  calls.foldl (fun r c => r.register c.1 c.2) r

theorem resolver?_register (resolver : Resolver) (kind' : BackendKind) :
    (r.register kind resolver).resolver? kind' =
      if kind' = kind then some resolver else r.resolver? kind' := rfl

/-- A kind that is not registered for keeps its resolver. -/
theorem resolver?_registerAll_of_ne (other : ∀ c ∈ calls, c.1 ≠ kind) :
    (r.registerAll calls).resolver? kind = r.resolver? kind := by
  induction calls generalizing r with
  | nil => rfl
  | cons c rest ih =>
    have hhead : kind ≠ c.1 := fun h => other c List.mem_cons_self h.symm
    have htail := ih (r := r.register c.1 c.2) fun c' hc' => other c' (List.mem_cons_of_mem _ hc')
    rw [resolver?_register, if_neg hhead] at htail
    exact htail

/-- Of the resolvers registered for a kind the last is in use. -/
theorem resolver?_registerAll_of_last {before after : List (BackendKind × Resolver)}
    {resolver : Resolver} (last : ∀ c ∈ after, c.1 ≠ kind) :
    (r.registerAll (before ++ (kind, resolver) :: after)).resolver? kind = some resolver := by
  have hsplit : r.registerAll (before ++ (kind, resolver) :: after) =
      ((r.registerAll before).register kind resolver).registerAll after := by
    rw [registerAll, List.foldl_append]
    rfl
  rw [hsplit, resolver?_registerAll_of_ne last, resolver?_register, if_pos rfl]

/-- **What resolving does is decided by the inputs of a descriptor.** Whatever has been registered,
a descriptor of a kind that nothing has been registered for fails exactly if an input is refused,
with the error of the first, and otherwise gets the plan that its inputs ask for. A descriptor of
any other kind is left to the last resolver registered for that kind. -/
theorem resolves_by_inputs (calls : List (BackendKind × Resolver)) (d : Descriptor) :
    ((∀ c ∈ calls, c.1 ≠ d.kind) → d.ResolvesBy ((standard.registerAll calls).resolve d)) ∧
    (∀ before resolver after, calls = before ++ (d.kind, resolver) :: after →
      (∀ c ∈ after, c.1 ≠ d.kind) → (standard.registerAll calls).resolve d = resolver d) := by
  constructor
  · intro other
    have hresolve : (standard.registerAll calls).resolve d = standard.resolve d := by
      rw [resolve, resolve, resolver?_registerAll_of_ne other]
    rw [hresolve]
    exact d.resolvesBy_standard
  · rintro before resolver after rfl last
    rw [resolve, resolver?_registerAll_of_last last]

/-- A resolver that takes the role of a descriptor for the path. -/
def roleAsPath : Resolver := fun d =>
  .ok { path := d.role.getD "", order := d.order, source := d.name }

/-- Resolvers for two kinds, one of which gets two of them. -/
def overlay : List (BackendKind × Resolver) :=
  [(.rabbitMq, Resolver.consul), (.aws, Resolver.keyValue), (.rabbitMq, roleAsPath)]

/-- A database with nothing left of its role, and with blank names. -/
def halfNamed : Descriptor :=
  { name := "db", mount := some "database", role := some " / ",
    settings := .database true (some " ") (some "") }

/-- A database with one name configured. -/
def renamedOrders : Descriptor :=
  { name := "db", mount := some "database", role := some "readonly", order := 3,
    settings := .database false (some " app.user ") none }

/-- The role is checked before the names, a name is trimmed, and the last resolver is in use. -/
theorem resolves_by_inputs_overlay :
    (standard.registerAll overlay).resolve halfNamed =
        .error (.configuration (.backend "db" "role" .missing)) ∧
      (∃ names, (standard.registerAll overlay).resolve renamedOrders =
          .ok { path := "database/creds/readonly", order := 3, source := "db",
                names := some names } ∧
        names.target? "username" = some "app.user" ∧ names.target? "ttl" = none) ∧
      (standard.registerAll overlay).resolve (.ofKind .rabbitMq "mq" "rabbitmq" "foo" .v2) =
        .ok { path := "foo", order := 0, source := "mq" } := by
  have hdatabase : ∀ c ∈ overlay, c.1 ≠ BackendKind.database := by decide
  have hplan : ∃ names, (standard.registerAll overlay).resolve renamedOrders =
      .ok { path := "database/creds/readonly", order := 3, source := "db", names := some names } :=
    ⟨_, rfl⟩
  refine ⟨?_, ?_, ?_⟩
  · exact (((resolves_by_inputs overlay halfNamed).1 hdatabase).error_iff _).2
      ⟨"role", by decide +kernel⟩
  · obtain ⟨names, hplan⟩ := hplan
    have hrenames := (((resolves_by_inputs overlay renamedOrders).1 hdatabase).renames _ hplan).2
      names rfl
    refine ⟨names, hplan, (hrenames _ _).2 ⟨_, List.mem_cons_self, rfl, by decide +kernel⟩, ?_⟩
    refine Option.eq_none_iff_forall_ne_some.2 fun target htarget => ?_
    obtain ⟨k, hk, hkey, -⟩ := (hrenames _ _).1 htarget
    have hkeys : ∀ k ∈ renamedOrders.settings.credentialKeys, k.key ≠ "ttl" := by decide
    exact hkeys k hk hkey
  · exact (resolves_by_inputs overlay _).2 [(.rabbitMq, Resolver.consul), (.aws, Resolver.keyValue)]
      roleAsPath [] rfl nofun

end Registry

end SecretConfig
