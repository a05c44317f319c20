import SecretConfig.Settings.Authentication
import SecretConfig.Settings.Backends
import SecretConfig.Settings.Lifecycle

set_option autoImplicit false

/-! # Settings

All sections together. Every section and every field has a default, so an empty document
describes complete settings. -/

namespace SecretConfig

/-- The settings of a run. -/
structure Settings where
  connection : Settings.Connection := {}
  authentication : Settings.Authentication := {}
  lifecycle : Settings.Lifecycle := {}
  backends : Settings.Backends := {}
  observability : Settings.Observability := {}
deriving DecidableEq, Inhabited

namespace Settings

/-- Read settings. -/
def ofTree? (t : Tree) : Option Settings := do
  let fs ← t.fields? ["vault", "authentication", "session", "backends", "observability"]
  let d : Settings := {}
  return {
    connection := ← fs.withDefault "vault" d.connection Connection.ofTree?
    authentication := ← fs.withDefault "authentication" d.authentication Authentication.ofTree?
    lifecycle := ← fs.withDefault "session" d.lifecycle Lifecycle.ofTree?
    backends := ← fs.withDefault "backends" d.backends Backends.ofTree?
    observability := ← fs.withDefault "observability" d.observability Observability.ofTree? }

/-- Read settings from JSON. -/
def ofJson? (v : Json) : Option Settings := ofTree? (Tree.ofJson v)

/-- Write settings. -/
def toJson (c : Settings) : Json :=
  Json.object
    [("vault", c.connection.toJson), ("authentication", c.authentication.toJson),
     ("session", c.lifecycle.toJson), ("backends", c.backends.toJson),
     ("observability", c.observability.toJson)]

end Settings

end SecretConfig
