import SecretConfig.Backend.Descriptor
import SecretConfig.Settings.Connection

set_option autoImplicit false

/-! # Settings of the backends

The key-value section stands for several descriptors, one for each context: the default
context and the application, each alone and with every profile. Later contexts have higher
orders, up to the greatest order there is. -/

namespace SecretConfig.Settings

/-- The default context, the application and its profiles, read from a key-value store. -/
structure KeyValue where
  enabled : Bool := true
  backend : String := "secret"
  defaultContext : String := "application"
  profileSeparator : String := "/"
  version : KvVersion := .v2
  order : Int32 := 0
  failFast : Bool := false
deriving DecidableEq, Repr, Inhabited

namespace KeyValue

/-- Read the section. -/
def ofTree? (t : Tree) : Option KeyValue := do
  let fs ← t.fields? ["enabled", "backend", "default_context", "profile_separator", "version",
    "order", "fail_fast"]
  let d : KeyValue := {}
  return {
    enabled := ← fs.withDefault "enabled" d.enabled Tree.asBool?
    backend := ← fs.withDefault "backend" d.backend Tree.asText?
    defaultContext := ← fs.withDefault "default_context" d.defaultContext Tree.asText?
    profileSeparator := ← fs.withDefault "profile_separator" d.profileSeparator Tree.asText?
    version := ← fs.withDefault "version" d.version (Tree.asChoice? KvVersion.ofName?)
    order := ← fs.withDefault "order" d.order Tree.asInt32?
    failFast := ← fs.withDefault "fail_fast" d.failFast Tree.asBool? }

/-- Write the section. -/
def toJson (c : KeyValue) : Json :=
  Json.object
    [("enabled", .bool c.enabled), ("backend", .str c.backend),
     ("default_context", .str c.defaultContext), ("profile_separator", .str c.profileSeparator),
     ("version", .str c.version.name), ("order", Json.int c.order.toInt),
     ("fail_fast", .bool c.failFast)]

/-- A context alone and then with each profile. -/
def withProfiles (c : KeyValue) (profiles : List String) (base : String) : List String :=
  base :: profiles.map fun p => base ++ c.profileSeparator ++ Text.trim p

/-- The contexts in the order of their precedence. -/
def contexts (c : KeyValue) (application : String) (profiles : List String) : List String :=
  let base := Text.trim c.defaultContext
  let application := Text.trim application
  (if base.isEmpty then [] else c.withProfiles profiles base)
    ++ (if application.isEmpty ∨ application = base then []
        else c.withProfiles profiles application)

/-- An order raised by an index, at most to the greatest order. -/
def raise (order : Int32) (index : Nat) : Int32 :=
  let offset := (Int32.ofInt index).toInt
  Int32.ofInt (max Int32.minValue.toInt (min Int32.maxValue.toInt (order.toInt + offset)))

/-- The descriptor of the context at a place. -/
def descriptor (c : KeyValue) (index : Nat) (context : String) : Descriptor :=
  { Descriptor.keyValue (c.backend ++ "/" ++ context) c.backend context c.version with
    order := raise c.order index
    failFast := c.failFast }

/-- The descriptors of the contexts. -/
def descriptors (c : KeyValue) (application : String) (profiles : List String) :
    List Descriptor :=
  if c.enabled then (c.contexts application profiles).mapIdx c.descriptor else []

end KeyValue

/-- The brand of a database, which decides defaults only. -/
inductive DatabaseFlavor where
  | database
  | mysql
  | postgresql
  | mongodb
  | cassandra
  | couchbase
deriving DecidableEq, Repr, Inhabited

namespace DatabaseFlavor

/-- The name of a brand, and its mount by default. -/
def name : DatabaseFlavor → String
  | database => "database"
  | mysql => "mysql"
  | postgresql => "postgresql"
  | mongodb => "mongodb"
  | cassandra => "cassandra"
  | couchbase => "couchbase"

/-- All brands. -/
def all : List DatabaseFlavor := [database, mysql, postgresql, mongodb, cassandra, couchbase]

/-- The brand of a name. -/
def ofName? (s : String) : Option DatabaseFlavor := all.find? (fun f => f.name = s)

theorem ofName?_name (f : DatabaseFlavor) : ofName? f.name = some f := by cases f <;> decide

/-- The properties that user name and password have by default. -/
def defaultProperties : DatabaseFlavor → String × String
  | database | mysql | postgresql =>
    ("spring.datasource.username", "spring.datasource.password")
  | mongodb => ("spring.data.mongodb.username", "spring.data.mongodb.password")
  | cassandra => ("spring.data.cassandra.username", "spring.data.cassandra.password")
  | couchbase => ("spring.couchbase.username", "spring.couchbase.password")

end DatabaseFlavor

/-- Credentials for one database. -/
structure Database where
  name : String := "database"
  flavor : DatabaseFlavor := .database
  enabled : Bool := true
  /-- The mount; the brand has one by default. -/
  backend : Option String := none
  role : String := ""
  staticRole : Bool := false
  usernameProperty : Option String := none
  passwordProperty : Option String := none
  order : Int32 := 10
  failFast : Bool := false
deriving DecidableEq, Repr, Inhabited

namespace Database

/-- Read the section. -/
def ofTree? (t : Tree) : Option Database := do
  let fs ← t.fields? ["name", "flavor", "enabled", "backend", "role", "static_role",
    "username_property", "password_property", "order", "fail_fast"]
  let d : Database := {}
  return {
    name := ← fs.withDefault "name" d.name Tree.asText?
    flavor := ← fs.withDefault "flavor" d.flavor (Tree.asChoice? DatabaseFlavor.ofName?)
    enabled := ← fs.withDefault "enabled" d.enabled Tree.asBool?
    backend := ← fs.withDefault "backend" d.backend (Tree.asOption? Tree.asText?)
    role := ← fs.withDefault "role" d.role Tree.asText?
    staticRole := ← fs.withDefault "static_role" d.staticRole Tree.asBool?
    usernameProperty :=
      ← fs.withDefault "username_property" d.usernameProperty (Tree.asOption? Tree.asText?)
    passwordProperty :=
      ← fs.withDefault "password_property" d.passwordProperty (Tree.asOption? Tree.asText?)
    order := ← fs.withDefault "order" d.order Tree.asInt32?
    failFast := ← fs.withDefault "fail_fast" d.failFast Tree.asBool? }

/-- Write the section. -/
def toJson (c : Database) : Json :=
  Json.object
    [("name", .str c.name), ("flavor", .str c.flavor.name), ("enabled", .bool c.enabled),
     ("backend", optionalText c.backend), ("role", .str c.role),
     ("static_role", .bool c.staticRole), ("username_property", optionalText c.usernameProperty),
     ("password_property", optionalText c.passwordProperty), ("order", Json.int c.order.toInt),
     ("fail_fast", .bool c.failFast)]

/-- The descriptor of the section. -/
def descriptor (c : Database) : Descriptor :=
  let (username, password) := c.flavor.defaultProperties
  { Descriptor.credentials c.name (c.backend.getD c.flavor.name) c.role
      (.database c.staticRole (some (c.usernameProperty.getD username))
        (some (c.passwordProperty.getD password))) with
    enabled := c.enabled
    order := c.order
    failFast := c.failFast }

end Database

/-- Credentials for a message broker. -/
structure RabbitMq where
  enabled : Bool := false
  backend : String := "rabbitmq"
  role : String := ""
  usernameProperty : Option String := none
  passwordProperty : Option String := none
  order : Int32 := 10
  failFast : Bool := false
deriving DecidableEq, Repr, Inhabited

namespace RabbitMq

/-- Read the section. -/
def ofTree? (t : Tree) : Option RabbitMq := do
  let fs ← t.fields? ["enabled", "backend", "role", "username_property", "password_property",
    "order", "fail_fast"]
  let d : RabbitMq := {}
  return {
    enabled := ← fs.withDefault "enabled" d.enabled Tree.asBool?
    backend := ← fs.withDefault "backend" d.backend Tree.asText?
    role := ← fs.withDefault "role" d.role Tree.asText?
    usernameProperty :=
      ← fs.withDefault "username_property" d.usernameProperty (Tree.asOption? Tree.asText?)
    passwordProperty :=
      ← fs.withDefault "password_property" d.passwordProperty (Tree.asOption? Tree.asText?)
    order := ← fs.withDefault "order" d.order Tree.asInt32?
    failFast := ← fs.withDefault "fail_fast" d.failFast Tree.asBool? }

/-- Write the section. -/
def toJson (c : RabbitMq) : Json :=
  Json.object
    [("enabled", .bool c.enabled), ("backend", .str c.backend), ("role", .str c.role),
     ("username_property", optionalText c.usernameProperty),
     ("password_property", optionalText c.passwordProperty), ("order", Json.int c.order.toInt),
     ("fail_fast", .bool c.failFast)]

/-- The descriptor of the section. -/
def descriptor (c : RabbitMq) : Descriptor :=
  { Descriptor.credentials "rabbitmq" c.backend c.role
      (.rabbitMq c.usernameProperty c.passwordProperty) with
    order := c.order
    failFast := c.failFast }

end RabbitMq

/-- A token for a service registry. -/
structure Consul where
  enabled : Bool := false
  backend : String := "consul"
  role : String := ""
  tokenProperty : Option String := none
  order : Int32 := 10
  failFast : Bool := false
deriving DecidableEq, Repr, Inhabited

namespace Consul

/-- Read the section. -/
def ofTree? (t : Tree) : Option Consul := do
  let fs ← t.fields? ["enabled", "backend", "role", "token_property", "order", "fail_fast"]
  let d : Consul := {}
  return {
    enabled := ← fs.withDefault "enabled" d.enabled Tree.asBool?
    backend := ← fs.withDefault "backend" d.backend Tree.asText?
    role := ← fs.withDefault "role" d.role Tree.asText?
    tokenProperty :=
      ← fs.withDefault "token_property" d.tokenProperty (Tree.asOption? Tree.asText?)
    order := ← fs.withDefault "order" d.order Tree.asInt32?
    failFast := ← fs.withDefault "fail_fast" d.failFast Tree.asBool? }

/-- Write the section. -/
def toJson (c : Consul) : Json :=
  Json.object
    [("enabled", .bool c.enabled), ("backend", .str c.backend), ("role", .str c.role),
     ("token_property", optionalText c.tokenProperty), ("order", Json.int c.order.toInt),
     ("fail_fast", .bool c.failFast)]

/-- The descriptor of the section. -/
def descriptor (c : Consul) : Descriptor :=
  { Descriptor.credentials "consul" c.backend c.role (.consul c.tokenProperty) with
    order := c.order
    failFast := c.failFast }

end Consul

/-- Credentials for a cloud. -/
structure Aws where
  enabled : Bool := false
  backend : String := "aws"
  role : String := ""
  accessKeyProperty : Option String := none
  secretKeyProperty : Option String := none
  sessionTokenProperty : Option String := none
  order : Int32 := 10
  failFast : Bool := false
deriving DecidableEq, Repr, Inhabited

namespace Aws

/-- Read the section. -/
def ofTree? (t : Tree) : Option Aws := do
  let fs ← t.fields? ["enabled", "backend", "role", "access_key_property",
    "secret_key_property", "session_token_property", "order", "fail_fast"]
  let d : Aws := {}
  return {
    enabled := ← fs.withDefault "enabled" d.enabled Tree.asBool?
    backend := ← fs.withDefault "backend" d.backend Tree.asText?
    role := ← fs.withDefault "role" d.role Tree.asText?
    accessKeyProperty :=
      ← fs.withDefault "access_key_property" d.accessKeyProperty (Tree.asOption? Tree.asText?)
    secretKeyProperty :=
      ← fs.withDefault "secret_key_property" d.secretKeyProperty (Tree.asOption? Tree.asText?)
    sessionTokenProperty :=
      ← fs.withDefault "session_token_property" d.sessionTokenProperty
        (Tree.asOption? Tree.asText?)
    order := ← fs.withDefault "order" d.order Tree.asInt32?
    failFast := ← fs.withDefault "fail_fast" d.failFast Tree.asBool? }

/-- Write the section. -/
def toJson (c : Aws) : Json :=
  Json.object
    [("enabled", .bool c.enabled), ("backend", .str c.backend), ("role", .str c.role),
     ("access_key_property", optionalText c.accessKeyProperty),
     ("secret_key_property", optionalText c.secretKeyProperty),
     ("session_token_property", optionalText c.sessionTokenProperty),
     ("order", Json.int c.order.toInt), ("fail_fast", .bool c.failFast)]

/-- The descriptor of the section. -/
def descriptor (c : Aws) : Descriptor :=
  { Descriptor.credentials "aws" c.backend c.role
      (.aws c.accessKeyProperty c.secretKeyProperty c.sessionTokenProperty) with
    order := c.order
    failFast := c.failFast }

end Aws

/-- Which backends are read, and how. -/
structure Backends where
  failFast : Bool := false
  applicationName : String := "application"
  profiles : List String := []
  /-- Seconds that the read of one backend may take. -/
  readTimeout : UInt64 := 10
  kv : KeyValue := {}
  databases : List Database := []
  rabbitMq : RabbitMq := {}
  consul : Consul := {}
  aws : Aws := {}
deriving DecidableEq, Repr, Inhabited

namespace Backends

/-- Read the section. -/
def ofTree? (t : Tree) : Option Backends := do
  let fs ← t.fields? ["fail_fast", "application_name", "profiles", "read_timeout_seconds", "kv",
    "databases", "rabbitmq", "consul", "aws"]
  let d : Backends := {}
  return {
    failFast := ← fs.withDefault "fail_fast" d.failFast Tree.asBool?
    applicationName := ← fs.withDefault "application_name" d.applicationName Tree.asText?
    profiles := ← fs.withDefault "profiles" d.profiles (Tree.asList? Tree.asText?)
    readTimeout := ← fs.withDefault "read_timeout_seconds" d.readTimeout Tree.asUInt64?
    kv := ← fs.withDefault "kv" d.kv KeyValue.ofTree?
    databases := ← fs.withDefault "databases" d.databases (Tree.asList? Database.ofTree?)
    rabbitMq := ← fs.withDefault "rabbitmq" d.rabbitMq RabbitMq.ofTree?
    consul := ← fs.withDefault "consul" d.consul Consul.ofTree?
    aws := ← fs.withDefault "aws" d.aws Aws.ofTree? }

/-- Write the section. -/
def toJson (c : Backends) : Json :=
  Json.object
    [("fail_fast", .bool c.failFast), ("application_name", .str c.applicationName),
     ("profiles", Json.strings c.profiles), ("read_timeout_seconds", Json.nat c.readTimeout.toNat),
     ("kv", c.kv.toJson), ("databases", .arr (c.databases.map Database.toJson)),
     ("rabbitmq", c.rabbitMq.toJson), ("consul", c.consul.toJson), ("aws", c.aws.toJson)]

/-- The descriptors of all sections: contexts and databases always, the others where they are
enabled. -/
def descriptors (c : Backends) : List Descriptor :=
  c.kv.descriptors c.applicationName c.profiles
    ++ c.databases.map Database.descriptor
    ++ (if c.rabbitMq.enabled then [c.rabbitMq.descriptor] else [])
    ++ (if c.consul.enabled then [c.consul.descriptor] else [])
    ++ (if c.aws.enabled then [c.aws.descriptor] else [])

end Backends

end SecretConfig.Settings
