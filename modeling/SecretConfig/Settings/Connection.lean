import SecretConfig.Session.Token
import SecretConfig.Tree

set_option autoImplicit false

/-! # Settings of the connection to the store

Each section of the settings reads itself from a tree, in which an absent field has its
default, and writes itself as JSON. -/

namespace SecretConfig.Settings

/-- A text that may be absent. -/
def optionalText : Option String → Json := Json.ofOption Json.str

/-- A secret that may be absent; it is written by the text that stands for every secret. -/
def optionalSecret : Option Secret → Json := Json.ofOption fun _ => Json.str Secret.redacted

/-- Read a secret. -/
def readSecret? (t : Tree) : Option Secret := t.asText?.map Secret.mk

/-- Seconds as a duration. -/
def seconds (n : UInt64) : Duration := n.toNat * 1000

/-- Where the store is and how to talk to it. -/
structure Connection where
  address : String := "http://127.0.0.1:8200"
  /-- The part of the store that every request is for. -/
  scope : Option String := none
  /-- Seconds that connecting may take. -/
  connectTimeout : UInt64 := 5
  /-- Seconds that a request may take. -/
  requestTimeout : UInt64 := 15
  /-- A file of certificates to trust. -/
  caCertPath : Option String := none
  /-- A file with the certificate and the key of the client. -/
  identityPath : Option String := none
deriving DecidableEq, Repr, Inhabited

namespace Connection

/-- The fields by name. -/
def fieldNames : List String :=
  ["address", "namespace", "connect_timeout_seconds", "request_timeout_seconds", "ca_cert_path",
   "client_identity_path"]

/-- Read the section. -/
def ofTree? (t : Tree) : Option Connection := do
  let fs ← t.fields? fieldNames
  let d : Connection := {}
  return {
    address := ← fs.withDefault "address" d.address Tree.asText?
    scope := ← fs.withDefault "namespace" d.scope (Tree.asOption? Tree.asText?)
    connectTimeout := ← fs.withDefault "connect_timeout_seconds" d.connectTimeout Tree.asUInt64?
    requestTimeout := ← fs.withDefault "request_timeout_seconds" d.requestTimeout Tree.asUInt64?
    caCertPath := ← fs.withDefault "ca_cert_path" d.caCertPath (Tree.asOption? Tree.asText?)
    identityPath :=
      ← fs.withDefault "client_identity_path" d.identityPath (Tree.asOption? Tree.asText?) }

/-- Write the section. -/
def toJson (c : Connection) : Json :=
  Json.object
    [("address", .str c.address), ("namespace", optionalText c.scope),
     ("connect_timeout_seconds", Json.nat c.connectTimeout.toNat),
     ("request_timeout_seconds", Json.nat c.requestTimeout.toNat),
     ("ca_cert_path", optionalText c.caCertPath),
     ("client_identity_path", optionalText c.identityPath)]

end Connection

end SecretConfig.Settings
