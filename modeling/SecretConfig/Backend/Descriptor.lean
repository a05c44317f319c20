import SecretConfig.Backend.Kind
import SecretConfig.Tree

set_option autoImplicit false

/-! # Backend descriptors

A descriptor is the configured intent for one secret backend: where it is mounted, which
role or context it reads, and under which names its secrets are wanted. `Descriptor.toJson`
writes it and `Descriptor.ofTree?` reads it; the kind of the settings stands among them as
the member `kind`. -/

namespace SecretConfig

/-- The version of a key-value store. In the second a secret is nested under `data`, and so
is its path. -/
inductive KvVersion where
  | v1
  | v2
deriving DecidableEq, Repr, Inhabited

namespace KvVersion

/-- The digit of a version. -/
def name : KvVersion → String
  | v1 => "1"
  | v2 => "2"

/-- The version of a digit. -/
def ofName? (s : String) : Option KvVersion :=
  if s = "1" then some v1 else if s = "2" then some v2 else none

theorem ofName?_name (v : KvVersion) : ofName? v.name = some v := by cases v <;> decide

end KvVersion

/-- What is configured for a backend of each kind. A property name that is absent has a
default. -/
inductive BackendSettings where
  | keyValue (context : Option String) (version : KvVersion)
  | database (staticRole : Bool) (usernameProperty passwordProperty : Option String)
  | rabbitMq (usernameProperty passwordProperty : Option String)
  | consul (tokenProperty : Option String)
  | aws (accessKeyProperty secretKeyProperty sessionTokenProperty : Option String)
deriving DecidableEq, Repr, Inhabited

namespace BackendSettings

/-- The kind that the settings are for. -/
def kind : BackendSettings → BackendKind
  | keyValue _ _ => .keyValue
  | database _ _ _ => .database
  | rabbitMq _ _ => .rabbitMq
  | consul _ => .consul
  | aws _ _ _ => .aws

/-- A text that may be absent. -/
def optionalText : Option String → Json := Json.ofOption Json.str

/-- The settings as a JSON object. -/
def toJson : BackendSettings → Json
  | keyValue context version => Json.object
      [("kind", .str BackendKind.keyValue.name), ("context", optionalText context),
       ("version", .str version.name)]
  | database staticRole username password => Json.object
      [("kind", .str BackendKind.database.name), ("static_role", .bool staticRole),
       ("username_property", optionalText username), ("password_property", optionalText password)]
  | rabbitMq username password => Json.object
      [("kind", .str BackendKind.rabbitMq.name), ("username_property", optionalText username),
       ("password_property", optionalText password)]
  | consul token => Json.object
      [("kind", .str BackendKind.consul.name), ("token_property", optionalText token)]
  | aws accessKey secretKey sessionToken => Json.object
      [("kind", .str BackendKind.aws.name), ("access_key_property", optionalText accessKey),
       ("secret_key_property", optionalText secretKey),
       ("session_token_property", optionalText sessionToken)]

/-- The settings of a kind from the remaining fields. -/
def ofFields? (kind : BackendKind) (t : Tree) : Option BackendSettings :=
  match kind with
  | .keyValue => do
    let fs ← t.fields? ["context", "version"]
    return keyValue (← fs.nullable "context" Tree.asText?)
      (← fs.required "version" (Tree.asChoice? KvVersion.ofName?))
  | .database => do
    let fs ← t.fields? ["static_role", "username_property", "password_property"]
    return database (← fs.required "static_role" Tree.asBool?)
      (← fs.nullable "username_property" Tree.asText?)
      (← fs.nullable "password_property" Tree.asText?)
  | .rabbitMq => do
    let fs ← t.fields? ["username_property", "password_property"]
    return rabbitMq (← fs.nullable "username_property" Tree.asText?)
      (← fs.nullable "password_property" Tree.asText?)
  | .consul => do
    let fs ← t.fields? ["token_property"]
    return consul (← fs.nullable "token_property" Tree.asText?)
  | .aws => do
    let fs ← t.fields? ["access_key_property", "secret_key_property", "session_token_property"]
    return aws (← fs.nullable "access_key_property" Tree.asText?)
      (← fs.nullable "secret_key_property" Tree.asText?)
      (← fs.nullable "session_token_property" Tree.asText?)

/-- Read settings: the kind is the member `kind` of a map, or the first item of a list. -/
def ofTree? : Tree → Option BackendSettings
  | .map fields => do
    let tag ← Tree.single? "kind" fields
    let kind ← (← tag).asText?.bind BackendKind.ofName?
    ofFields? kind (.map (fields.filter (fun f => f.1 ≠ "kind")))
  | .seq (tag :: rest) true => do
    let kind ← tag.asText?.bind BackendKind.ofName?
    ofFields? kind (.seq rest true)
  | _ => none

end BackendSettings

/-- One configured backend. -/
structure Descriptor where
  /-- The name in errors, and of the layer that the backend contributes. -/
  name : String
  enabled : Bool := true
  /-- A missing or forbidden secret is an error and not an empty layer. -/
  failFast : Bool := false
  /-- The place among the layers; a higher order wins. -/
  order : Int32 := 0
  mount : Option String
  role : Option String := none
  settings : BackendSettings
deriving DecidableEq, Repr, Inhabited

namespace Descriptor

/-- The kind of the backend. -/
def kind (d : Descriptor) : BackendKind := d.settings.kind

/-- A key-value backend that reads a context. -/
def keyValue (name mount context : String) (version : KvVersion) : Descriptor :=
  { name, mount := some mount, settings := .keyValue (some context) version }

/-- A backend with settings of its own that issues credentials for a role. -/
def credentials (name mount role : String) (settings : BackendSettings) : Descriptor :=
  { name, mount := some mount, role := some role, settings }

/-- A backend of a kind with nothing configured but its mount and its role or context. -/
def ofKind (kind : BackendKind) (name mount role : String) (version : KvVersion) : Descriptor :=
  match kind with
  | .keyValue => keyValue name mount role version
  | .database => credentials name mount role (.database false none none)
  | .rabbitMq => credentials name mount role (.rabbitMq none none)
  | .consul => credentials name mount role (.consul none)
  | .aws => credentials name mount role (.aws none none none)

/-- The descriptor as a JSON object. -/
def toJson (d : Descriptor) : Json :=
  Json.object
    [("name", .str d.name), ("enabled", .bool d.enabled), ("fail_fast", .bool d.failFast),
     ("order", Json.int d.order.toInt), ("mount", BackendSettings.optionalText d.mount),
     ("role", BackendSettings.optionalText d.role), ("settings", d.settings.toJson)]

/-- Read a descriptor. -/
def ofTree? (t : Tree) : Option Descriptor := do
  let fs ← t.fields? ["name", "enabled", "fail_fast", "order", "mount", "role", "settings"]
  return {
    name := ← fs.required "name" Tree.asText?
    enabled := ← fs.required "enabled" Tree.asBool?
    failFast := ← fs.required "fail_fast" Tree.asBool?
    order := ← fs.required "order" Tree.asInt32?
    mount := ← fs.nullable "mount" Tree.asText?
    role := ← fs.nullable "role" Tree.asText?
    settings := ← fs.required "settings" BackendSettings.ofTree? }

/-- Read a descriptor from JSON. -/
def ofJson? (v : Json) : Option Descriptor := ofTree? (Tree.ofJson v)

end Descriptor

end SecretConfig
