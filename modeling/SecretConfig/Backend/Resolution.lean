import SecretConfig.Backend.Descriptor
import SecretConfig.Error
import SecretConfig.Property.Renaming
import SecretConfig.Text.Blank

set_option autoImplicit false

/-! # Resolving descriptors

Resolution turns a descriptor into the instructions for one read: the path, the shape of the
answer and the names of the properties. It is a function of the descriptor alone.

A key-value context is read at `mount/context` in version 1 and at `mount/data/context` in
version 2; credentials are read at `mount/creds/role`, those of a static database role at
`mount/static-creds/role`. Inputs are checked in the order mount, role or context, property
names, and the first that fails is the error. -/

namespace SecretConfig

/-- Where the secret lies in an answer. -/
inductive PayloadLayout where
  /-- The answer is the secret. -/
  | flat
  /-- The secret is the member `data` of the answer. -/
  | versioned
deriving DecidableEq, Repr, Inhabited

/-- The name of a layout. -/
def PayloadLayout.name : PayloadLayout → String
  | flat => "flat"
  | versioned => "versioned"

/-- The instructions for the read of one backend. -/
structure ReadPlan where
  path : String
  order : Int32
  /-- The name of the layer. -/
  source : String
  layout : PayloadLayout := .flat
  names : Option Renaming := none
deriving DecidableEq, Repr, Inhabited

namespace Descriptor

/-- The error of a field of a backend. -/
def fault (d : Descriptor) (field : String) (f : BackendFault) : Error :=
  .configuration (.backend d.name field f)

/-- A needed input without the blanks around it and then without the slashes around it;
something must be left. -/
def require (d : Descriptor) (field : String) (value : Option String) : Except Error String :=
  match value.map (fun v => Text.strip (· = '/') (Text.trim v)) with
  | some v => if v.isEmpty then .error (d.fault field .missing) else .ok v
  | none => .error (d.fault field .missing)

/-- The configured property name, or a default when there is none; it must not be blank. -/
def propertyOr (d : Descriptor) (field : String) (configured : Option String)
    (default : String) : Except Error String :=
  match configured.map Text.trim with
  | none => .ok default
  | some p => if p.isEmpty then .error (d.fault field .blankName) else .ok p

end Descriptor

/-! ## The resolver of each kind -/

/-- A resolver of descriptors. -/
abbrev Resolver := Descriptor → Except Error ReadPlan

namespace Resolver

/-- The settings are those of another kind. -/
def mismatch (d : Descriptor) (expected : BackendKind) : Except Error ReadPlan :=
  .error (d.fault "settings" (.mismatch d.kind expected))

/-- Resolve a key-value backend. -/
def keyValue : Resolver := fun d =>
  match d.settings with
  | .keyValue context version => do
    let mount ← d.require "mount" d.mount
    let context ← d.require "context" context
    match version with
    | .v1 => return { path := mount ++ "/" ++ context, order := d.order, source := d.name }
    | .v2 => return { path := mount ++ "/data/" ++ context, order := d.order, source := d.name,
                      layout := .versioned }
  | _ => mismatch d .keyValue

/-- The path of the credentials for a role. -/
def credentialsPath (d : Descriptor) (segment : String) : Except Error String := do
  let mount ← d.require "mount" d.mount
  let role ← d.require "role" d.role
  return mount ++ "/" ++ segment ++ "/" ++ role

/-- One renamed key of issued credentials: the key, the field that configures its property,
the configured name and the default. -/
structure CredentialKey where
  key : String
  field : String
  configured : Option String
  default : String

/-- The names for the keys of issued credentials, checked in order. -/
def namesOf (d : Descriptor) : List CredentialKey → Except Error (List (String × String))
  | [] => .ok []
  | k :: rest => do
    let target ← d.propertyOr k.field k.configured k.default
    return (k.key, target) :: (← namesOf d rest)

/-- Resolve a backend that issues credentials. -/
def credentials (d : Descriptor) (segment : String) (keys : List CredentialKey) :
    Except Error ReadPlan := do
  let path ← credentialsPath d segment
  let pairs ← namesOf d keys
  return { path, order := d.order, source := d.name, names := some (Renaming.ofList pairs) }

/-- Resolve a database backend. -/
def database : Resolver := fun d =>
  match d.settings with
  | .database staticRole username password =>
    credentials d (if staticRole then "static-creds" else "creds")
      [⟨"username", "username_property", username, "spring.datasource.username"⟩,
       ⟨"password", "password_property", password, "spring.datasource.password"⟩]
  | _ => mismatch d .database

/-- Resolve a message broker backend. -/
def rabbitMq : Resolver := fun d =>
  match d.settings with
  | .rabbitMq username password =>
    credentials d "creds"
      [⟨"username", "username_property", username, "spring.rabbitmq.username"⟩,
       ⟨"password", "password_property", password, "spring.rabbitmq.password"⟩]
  | _ => mismatch d .rabbitMq

/-- Resolve a service registry backend. -/
def consul : Resolver := fun d =>
  match d.settings with
  | .consul token =>
    credentials d "creds" [⟨"token", "token_property", token, "spring.cloud.consul.token"⟩]
  | _ => mismatch d .consul

/-- Resolve a cloud credentials backend. -/
def aws : Resolver := fun d =>
  match d.settings with
  | .aws accessKey secretKey sessionToken =>
    credentials d "creds"
      [⟨"access_key", "access_key_property", accessKey, "cloud.aws.credentials.accessKey"⟩,
       ⟨"secret_key", "secret_key_property", secretKey, "cloud.aws.credentials.secretKey"⟩,
       ⟨"security_token", "session_token_property", sessionToken,
        "cloud.aws.credentials.sessionToken"⟩]
  | _ => mismatch d .aws

/-- The resolver that a kind has by default. -/
def ofKind : BackendKind → Resolver
  | .keyValue => keyValue
  | .database => database
  | .rabbitMq => rabbitMq
  | .consul => consul
  | .aws => aws

end Resolver

/-! ## The registry -/

/-- The resolver registered for each kind. -/
structure Registry where
  resolver? : BackendKind → Option Resolver

namespace Registry

/-- The registry in which every kind has its default resolver. -/
def standard : Registry := ⟨fun k => some (Resolver.ofKind k)⟩

/-- The registry without resolvers. -/
def empty : Registry := ⟨fun _ => none⟩

instance : Inhabited Registry := ⟨standard⟩

/-- Register a resolver in place of the one that the kind had. -/
def register (r : Registry) (kind : BackendKind) (resolver : Resolver) : Registry :=
  ⟨fun k => if k = kind then some resolver else r.resolver? k⟩

/-- The kinds that have a resolver. -/
def registered (r : Registry) : List BackendKind :=
  BackendKind.all.filter (fun k => (r.resolver? k).isSome)

/-- The kinds that have none. -/
def unregistered (r : Registry) : List BackendKind :=
  BackendKind.all.filter (fun k => (r.resolver? k).isNone)

/-- Resolve a descriptor with the resolver of its kind. -/
def resolve (r : Registry) : Resolver := fun d =>
  match r.resolver? d.kind with
  | none => .error (d.fault "kind" (.unresolvable d.kind))
  | some resolver => resolver d

end Registry

end SecretConfig
