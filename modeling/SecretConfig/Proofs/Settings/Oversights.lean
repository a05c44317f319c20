import SecretConfig.Aggregation.Build
import SecretConfig.Proofs.Backend.Faults
import SecretConfig.Settings.Validation

set_option autoImplicit false

/-! # What validation overlooks

Validation asks that mounts have a character at least and that roles are not blank. Resolution asks
for more: that something is left of both without the slashes around it, and that property names are
not blank. So settings that pass validation may still have a backend that does not resolve.

`Descriptor.oversights` lists what may be wrong with a descriptor of validated settings, and
`Settings.resolves_of_validate` says that nothing else is. -/

namespace SecretConfig

namespace Descriptor

/-- What may keep a descriptor of validated settings from resolving: a mount that is blank or has
nothing but slashes, a role or a context that is not blank but has nothing but slashes, and property
names that are blank. -/
def oversights (d : Descriptor) : List (String × BackendFault) :=
  unmet "mount" d.mount
    ++ (if d.target.2.any fun s => !Text.isAllBlank s && Text.isOnlySlashes s then
          [(d.target.1, .missing)] else [])
    ++ unnamed d.settings.propertyNames

/-- Where the role or the context is not blank, nothing else is wrong. -/
theorem faults_eq_oversights {d : Descriptor} {s : String} (target : d.target.2 = some s)
    (present : Text.isAllBlank s = false) : d.faults = d.oversights := by
  unfold faults oversights unmet
  rw [target]
  simp only [Option.all_some, Option.any_some, present, Bool.not_false, Bool.true_and]

end Descriptor

namespace Settings

variable {c : Settings} {d : Descriptor}

/-! ## What validation asks for -/

theorem check_of_validate (h : c.validate = .ok ()) : c.backends.check = .ok () := by
  unfold validate at h
  obtain ⟨-, -, h⟩ := Except.eq_ok_of_bind h
  obtain ⟨-, -, h⟩ := Except.eq_ok_of_bind h
  obtain ⟨-, -, h⟩ := Except.eq_ok_of_bind h
  obtain ⟨-, -, h⟩ := Except.eq_ok_of_bind h
  exact h

/-- An enabled database has a role. -/
theorem role_of_checkDatabases {seen : List String} {databases : List Database}
    (h : checkDatabases seen databases = .ok ()) {database : Database}
    (hmem : database ∈ databases) (enabled : database.enabled = true) :
    Text.isAllBlank database.role = false := by
  induction databases generalizing seen with
  | nil => exact nomatch hmem
  | cons first rest ih =>
      unfold checkDatabases at h
      split at h
      · exact nomatch h
      · split at h
        · exact nomatch h
        · rename_i fine
          rcases List.mem_cons.1 hmem with rfl | hrest
          · cases hblank : Text.isAllBlank database.role with
            | true => exact absurd ⟨enabled, hblank⟩ fine
            | false => rfl
          · exact ih h hrest

/-- An enabled backend has a role. -/
theorem role_of_checkRole {name role : String} {enabled : Bool}
    (h : checkRole name enabled role = .ok ()) (on : enabled = true) :
    Text.isAllBlank role = false := by
  cases hblank : Text.isAllBlank role with
  | false => rfl
  | true =>
      rw [checkRole, if_pos ⟨on, hblank⟩] at h
      exact nomatch h

/-- The roles of validated backends. -/
structure Backends.HasRoles (c : Backends) : Prop where
  databases : ∀ database ∈ c.databases, database.enabled = true →
    Text.isAllBlank database.role = false
  rabbitMq : c.rabbitMq.enabled = true → Text.isAllBlank c.rabbitMq.role = false
  consul : c.consul.enabled = true → Text.isAllBlank c.consul.role = false
  aws : c.aws.enabled = true → Text.isAllBlank c.aws.role = false

theorem Backends.hasRoles_of_check {c : Backends} (h : c.check = .ok ()) : c.HasRoles := by
  unfold check at h
  dsimp only at h
  split at h
  · exact nomatch h
  · obtain ⟨_, hdatabases, h⟩ := Except.eq_ok_of_bind h
    obtain ⟨_, hrabbit, h⟩ := Except.eq_ok_of_bind h
    obtain ⟨_, hconsul, haws⟩ := Except.eq_ok_of_bind h
    exact ⟨fun database hmem enabled => role_of_checkDatabases hdatabases hmem enabled,
      role_of_checkRole hrabbit, role_of_checkRole hconsul, role_of_checkRole haws⟩

/-! ## The descriptors of validated settings -/

/-- No context is blank, as each begins with a trimmed name that is not empty. -/
theorem KeyValue.not_blank_of_contexts {c : KeyValue} {application context : String}
    {profiles : List String} (h : context ∈ c.contexts application profiles) :
    Text.isAllBlank context = false := by
  have begun {name : String} (left : (Text.trim name).isEmpty = false)
      (hmem : context ∈ c.withProfiles profiles (Text.trim name)) :
      Text.isAllBlank context = false := by
    rcases List.mem_cons.1 hmem with rfl | hprofile
    · simpa using Text.isAllBlank_trim_append left ""
    · obtain ⟨profile, -, rfl⟩ := List.mem_map.1 hprofile
      rw [String.append_assoc]
      exact Text.isAllBlank_trim_append left _
  simp only [contexts, List.mem_append] at h
  rcases h with hbase | happlication
  · split at hbase
    · exact nomatch hbase
    · rename_i left
      exact begun (by simpa using left) hbase
  · split at happlication
    · exact nomatch happlication
    · rename_i left
      exact begun (by simpa using fun h => left (.inl h)) happlication

/-- An enabled descriptor of validated settings has a role or a context that is not blank. -/
theorem Backends.HasRoles.target {c : Backends} (h : c.HasRoles) (hd : d ∈ c.descriptors)
    (enabled : d.enabled = true) :
    ∃ s, d.target.2 = some s ∧ Text.isAllBlank s = false := by
  simp only [Backends.descriptors, List.mem_append] at hd
  rcases hd with (((hkv | hdatabase) | hrabbit) | hconsul) | haws
  · unfold KeyValue.descriptors at hkv
    split at hkv
    · obtain ⟨index, hindex, rfl⟩ := List.mem_mapIdx.1 hkv
      exact ⟨_, rfl, KeyValue.not_blank_of_contexts (List.getElem_mem hindex)⟩
    · exact nomatch hkv
  · obtain ⟨database, hmem, rfl⟩ := List.mem_map.1 hdatabase
    exact ⟨_, rfl, h.databases database hmem enabled⟩
  · obtain ⟨on, rfl⟩ : c.rabbitMq.enabled = true ∧ d = c.rabbitMq.descriptor := by
      simpa using hrabbit
    exact ⟨_, rfl, h.rabbitMq on⟩
  · obtain ⟨on, rfl⟩ : c.consul.enabled = true ∧ d = c.consul.descriptor := by
      simpa using hconsul
    exact ⟨_, rfl, h.consul on⟩
  · obtain ⟨on, rfl⟩ : c.aws.enabled = true ∧ d = c.aws.descriptor := by
      simpa using haws
    exact ⟨_, rfl, h.aws on⟩

/-- A plan of descriptors that all resolve has a read for each. -/
theorem plan_of_resolves {registry : Registry} (o : BuildOptions) {ds : List Descriptor}
    (h : ∀ d ∈ ds, d.enabled = true → ∃ plan, registry.resolve d = .ok plan) :
    ∃ reads, Build.plan registry o ds = (.ok reads, []) ∧
      reads.map PlannedRead.descriptor = ds.filter (·.enabled) := by
  induction ds with
  | nil => exact ⟨[], rfl, rfl⟩
  | cons d rest ih =>
      obtain ⟨reads, hplan, hreads⟩ := ih fun e he => h e (List.mem_cons_of_mem d he)
      cases enabled : d.enabled with
      | false =>
          refine ⟨reads, ?_, ?_⟩
          · simpa only [Build.plan, enabled, Bool.false_eq_true, if_false] using hplan
          · rw [List.filter_cons_of_neg (by simp [enabled]), hreads]
      | true =>
          obtain ⟨plan, hresolve⟩ := h d List.mem_cons_self enabled
          refine ⟨⟨d, plan⟩ :: reads, ?_, ?_⟩
          · simp only [Build.plan, enabled, if_true, hresolve, hplan]
            rfl
          · rw [List.filter_cons_of_pos enabled, List.map_cons, hreads]

/-- **What validated settings resolve to.** With the resolvers of the library, an enabled descriptor
of validated settings resolves if nothing has been overlooked about it, and fails with the first of
its oversights if something has. If nothing has been overlooked at all, a build plans a read for
each enabled descriptor, and neither skips one nor fails. -/
theorem resolves_of_validate (valid : c.validate = .ok ()) :
    (∀ d ∈ c.backends.descriptors, d.enabled = true →
      ((∃ plan, Registry.standard.resolve d = .ok plan) ↔ d.oversights = []) ∧
        ∀ field f rest, d.oversights = (field, f) :: rest →
          Registry.standard.resolve d = .error (.configuration (.backend d.name field f))) ∧
      ((∀ d ∈ c.backends.descriptors, d.enabled = true → d.oversights = []) →
        ∀ o, ∃ reads, Build.plan Registry.standard o c.backends.descriptors = (.ok reads, []) ∧
          reads.map PlannedRead.descriptor = c.backends.descriptors.filter (·.enabled)) := by
  have roles := Backends.hasRoles_of_check (check_of_validate valid)
  have checks (d : Descriptor) (hd : d ∈ c.backends.descriptors) (enabled : d.enabled = true) :
      d.Checks d.oversights (Registry.standard.resolve d) := by
    obtain ⟨s, target, present⟩ := roles.target hd enabled
    rw [← Descriptor.faults_eq_oversights target present]
    exact d.resolve_standard
  refine ⟨fun d hd enabled => ?_, fun fine o => ?_⟩
  · have hchecks := checks d hd enabled
    cases hfound : d.oversights with
    | nil =>
        rw [hfound] at hchecks
        exact ⟨⟨fun _ => rfl, fun _ => hchecks⟩, nofun⟩
    | cons first rest =>
        rw [hfound] at hchecks
        have failed : Registry.standard.resolve d = .error (d.fault first.1 first.2) := hchecks
        refine ⟨⟨?_, nofun⟩, ?_⟩
        · rintro ⟨plan, resolved⟩
          exact nomatch failed.symm.trans resolved
        · rintro field f rest' ⟨⟩
          exact failed
  · refine plan_of_resolves o fun d hd enabled => ?_
    have hchecks := checks d hd enabled
    rw [fine d hd enabled] at hchecks
    exact hchecks

/-- Settings with a token and one database. -/
def withDatabase (database : Database) : Settings :=
  { authentication := { token := some ⟨"s.token"⟩ }
    backends := { databases := [database] } }

/-- Settings about which nothing has been overlooked. -/
def plainSettings : Settings := withDatabase { name := "db", role := "r" }

/-- The user of the database is to be published under a blank name. -/
def blankSettings : Settings :=
  withDatabase { name := "db", role := "r", usernameProperty := some " " }

/-- The backend of `blankSettings` that does not resolve. -/
def blankBackend : Descriptor :=
  { Descriptor.credentials "db" "database" "r"
      (.database false (some " ") (some "spring.datasource.password")) with order := 10 }

theorem validate_plainSettings : plainSettings.validate = .ok () := by decide +kernel

theorem validate_blankSettings : blankSettings.validate = .ok () := by decide +kernel

theorem resolves_of_validate_plainSettings :
    plainSettings.validate = .ok () ∧ blankSettings.validate = .ok () ∧
      (∃ reads, Build.plan Registry.standard {} plainSettings.backends.descriptors =
        (.ok reads, []) ∧ reads.length = 2) ∧
      Registry.standard.resolve blankBackend =
        .error (.configuration (.backend "db" "username_property" .blankName)) := by
  refine ⟨validate_plainSettings, validate_blankSettings, ?_, ?_⟩
  · have fine : ∀ d ∈ plainSettings.backends.descriptors, d.enabled = true →
        d.oversights = [] := by decide +kernel
    have two : (plainSettings.backends.descriptors.filter (·.enabled)).length = 2 := by
      decide +kernel
    obtain ⟨-, planned⟩ := resolves_of_validate validate_plainSettings
    obtain ⟨reads, hplan, hreads⟩ := planned fine {}
    rw [← hreads, List.length_map] at two
    exact ⟨reads, hplan, two⟩
  · have found : blankBackend.oversights = [("username_property", .blankName)] := by
      decide +kernel
    obtain ⟨resolves, -⟩ := resolves_of_validate validate_blankSettings
    exact (resolves blankBackend (by decide +kernel) rfl).2 _ _ _ found

/-- Settings pass validation although an enabled backend does not resolve; a build skips it, or
fails if it has to be there. -/
theorem blankSettings_misconfigures_backend :
    blankSettings.validate = .ok () ∧ blankBackend ∈ blankSettings.backends.descriptors ∧
      blankBackend.enabled = true ∧
      (∀ plan, Registry.standard.resolve blankBackend ≠ .ok plan) ∧
      (Build.plan Registry.standard {} blankSettings.backends.descriptors).2 =
        [blankBackend.record .skipped] ∧
      (Build.plan Registry.standard { failFast := true } blankSettings.backends.descriptors).1 =
        .error (.configuration (.backend "db" "username_property" .blankName)) := by
  have failed : Registry.standard.resolve blankBackend =
      .error (.configuration (.backend "db" "username_property" .blankName)) := by
    decide +kernel
  refine ⟨validate_blankSettings, by decide +kernel, rfl, ?_, by decide +kernel, by decide +kernel⟩
  intro plan resolved
  exact nomatch failed.symm.trans resolved

end Settings

end SecretConfig
