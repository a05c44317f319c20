import SecretConfig.Backend.Resolution
import SecretConfig.Proofs.Text.Trimming

set_option autoImplicit false

/-! # Why a descriptor does not resolve

A descriptor needs a mount and a role or a context, of which something must be left without the
blanks and the slashes around it, and property names that are not blank. `Descriptor.faults` lists
the fields that break this, in the order in which they are checked. A descriptor without any
resolves, and all others fail with the first (`Descriptor.resolve_standard`).

Each part of the resolution checks some of the fields, and parts that follow each other check the
fields of both (`Checks.bind`). -/

namespace SecretConfig

/-- What follows a computation that succeeds is reached. -/
theorem Except.eq_ok_of_bind {ε α β : Type} {x : Except ε α} {f : α → Except ε β} {b : β}
    (h : x >>= f = .ok b) : ∃ a, x = .ok a ∧ f a = .ok b := by
  cases x with
  | error e => exact nomatch h
  | ok a => exact ⟨a, rfl, h⟩

/-- The text is blank, or has nothing but slashes between the blanks around it. -/
def Text.isOnlySlashes (s : String) : Bool := (trim s).toList.all (· = '/')

/-- The fields of a backend that have property names. -/
def BackendSettings.propertyNames : BackendSettings → List (String × Option String)
  | keyValue _ _ => []
  | database _ username password | rabbitMq username password =>
    [("username_property", username), ("password_property", password)]
  | consul token => [("token_property", token)]
  | aws accessKey secretKey sessionToken =>
    [("access_key_property", accessKey), ("secret_key_property", secretKey),
     ("session_token_property", sessionToken)]

namespace Descriptor

variable {d : Descriptor} {α β : Type}

/-- What is read below the mount: a context or the credentials of a role. -/
def target (d : Descriptor) : String × Option String :=
  match d.settings with
  | .keyValue context _ => ("context", context)
  | _ => ("role", d.role)

/-- A field that is needed, if nothing is left of it. -/
def unmet (field : String) (value : Option String) : List (String × BackendFault) :=
  if value.all Text.isOnlySlashes then [(field, .missing)] else []

/-- The fields with property names that are configured to be blank. -/
def unnamed (fields : List (String × Option String)) : List (String × BackendFault) :=
  (fields.filter fun f => f.2.any Text.isAllBlank).map fun f => (f.1, .blankName)

/-- The fields that keep a descriptor from resolving, in the order in which they are checked. -/
def faults (d : Descriptor) : List (String × BackendFault) :=
  unmet "mount" d.mount ++ unmet d.target.1 d.target.2 ++ unnamed d.settings.propertyNames

/-- A computation fails with the first of some faults of a descriptor, and succeeds if there are
none. -/
def Checks (d : Descriptor) (found : List (String × BackendFault)) (x : Except Error α) : Prop :=
  match found with
  | [] => ∃ a, x = .ok a
  | (field, f) :: _ => x = .error (d.fault field f)

theorem Checks.of_ok (a : α) : d.Checks [] (.ok a) := ⟨a, rfl⟩

theorem Checks.bind {found found' : List (String × BackendFault)} {x : Except Error α}
    {f : α → Except Error β} (h : d.Checks found x) (h' : ∀ a, d.Checks found' (f a)) :
    d.Checks (found ++ found') (x >>= f) := by
  cases found with
  | nil =>
      obtain ⟨a, rfl⟩ := h
      exact h' a
  | cons e rest =>
      obtain rfl : x = .error (d.fault e.1 e.2) := h
      rfl

theorem checks_require (d : Descriptor) (field : String) (value : Option String) :
    d.Checks (unmet field value) (d.require field value) := by
  unfold unmet require
  cases value with
  | none => rfl
  | some v =>
      have hleft : (Text.strip (· = '/') (Text.trim v)).isEmpty = Text.isOnlySlashes v :=
        Text.isEmpty_strip _ _
      cases hbad : Text.isOnlySlashes v with
      | true =>
          simp only [Option.map_some, Option.all_some, hleft, hbad, if_true]
          rfl
      | false =>
          simp only [Option.map_some, Option.all_some, hleft, hbad, Bool.false_eq_true, if_false]
          exact .of_ok _

theorem checks_propertyOr (d : Descriptor) (field : String) (configured : Option String)
    (default : String) :
    d.Checks (unnamed [(field, configured)]) (d.propertyOr field configured default) := by
  unfold unnamed propertyOr
  cases configured with
  | none => exact .of_ok default
  | some name =>
      cases hblank : Text.isAllBlank name with
      | true =>
          simp only [Option.map_some, Text.isEmpty_trim, Option.any_some, List.filter_cons, hblank,
            if_true]
          rfl
      | false =>
          simp only [Option.map_some, Text.isEmpty_trim, Option.any_some, List.filter_cons, hblank,
            Bool.false_eq_true, if_false]
          exact .of_ok _

theorem unnamed_cons (f : String × Option String) (fields : List (String × Option String)) :
    unnamed (f :: fields) = unnamed [f] ++ unnamed fields := by
  unfold unnamed
  rw [← List.map_append, ← List.filter_append]
  rfl

theorem checks_namesOf (d : Descriptor) (keys : List Resolver.CredentialKey) :
    d.Checks (unnamed (keys.map fun k => (k.field, k.configured))) (Resolver.namesOf d keys) := by
  induction keys with
  | nil => exact .of_ok []
  | cons k rest ih =>
      rw [List.map_cons, unnamed_cons]
      refine (d.checks_propertyOr k.field k.configured k.default).bind fun target => ?_
      rw [← List.append_nil (unnamed _)]
      exact ih.bind fun names => .of_ok ((k.key, target) :: names)

theorem checks_credentials (d : Descriptor) (segment : String)
    {keys : List Resolver.CredentialKey} {fields : List (String × Option String)}
    (hfields : (keys.map fun k => (k.field, k.configured)) = fields) :
    d.Checks (unmet "mount" d.mount ++ unmet "role" d.role ++ unnamed fields)
      (Resolver.credentials d segment keys) := by
  subst hfields
  have hpath : d.Checks (unmet "mount" d.mount ++ unmet "role" d.role)
      (Resolver.credentialsPath d segment) := by
    refine (d.checks_require "mount" d.mount).bind fun mount => ?_
    rw [← List.append_nil (unmet _ _)]
    exact (d.checks_require "role" d.role).bind fun role => .of_ok _
  refine hpath.bind fun path => ?_
  rw [← List.append_nil (unnamed _)]
  exact (d.checks_namesOf keys).bind fun pairs => .of_ok _

/-- **Why a descriptor does not resolve.** With the resolvers of the library a descriptor fails with
the first of its faults, and resolves if it has none. -/
theorem resolve_standard (d : Descriptor) : d.Checks d.faults (Registry.standard.resolve d) := by
  have hresolve : Registry.standard.resolve d = Resolver.ofKind d.settings.kind d := rfl
  rw [hresolve]
  unfold faults target
  cases hsettings : d.settings with
  | keyValue context version =>
      simp only [BackendSettings.kind, Resolver.ofKind, Resolver.keyValue, hsettings]
      rw [List.append_assoc]
      refine (d.checks_require "mount" d.mount).bind fun mount => ?_
      refine (d.checks_require "context" context).bind fun below => ?_
      cases version with
      | v1 => exact .of_ok _
      | v2 => exact .of_ok _
  | database staticRole username password =>
      simp only [BackendSettings.kind, Resolver.ofKind, Resolver.database, hsettings]
      exact d.checks_credentials _ rfl
  | rabbitMq username password =>
      simp only [BackendSettings.kind, Resolver.ofKind, Resolver.rabbitMq, hsettings]
      exact d.checks_credentials _ rfl
  | consul token =>
      simp only [BackendSettings.kind, Resolver.ofKind, Resolver.consul, hsettings]
      exact d.checks_credentials _ rfl
  | aws accessKey secretKey sessionToken =>
      simp only [BackendSettings.kind, Resolver.ofKind, Resolver.aws, hsettings]
      exact d.checks_credentials _ rfl

end Descriptor

end SecretConfig
