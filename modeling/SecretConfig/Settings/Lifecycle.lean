import SecretConfig.Session.Policy
import SecretConfig.Settings.Connection

set_option autoImplicit false

/-! # Settings of the session and of what is observed of it -/

namespace SecretConfig.Settings

/-- When to renew the token, in seconds. -/
structure Renewal where
  enabled : Bool := true
  expiryThreshold : UInt64 := 5
  minInterval : UInt64 := 1
deriving DecidableEq, Repr, Inhabited

namespace Renewal

/-- Read the section. -/
def ofTree? (t : Tree) : Option Renewal := do
  let fs ← t.fields? ["enabled", "expiry_threshold_seconds", "min_renewal_interval_seconds"]
  let d : Renewal := {}
  return {
    enabled := ← fs.withDefault "enabled" d.enabled Tree.asBool?
    expiryThreshold :=
      ← fs.withDefault "expiry_threshold_seconds" d.expiryThreshold Tree.asUInt64?
    minInterval := ← fs.withDefault "min_renewal_interval_seconds" d.minInterval Tree.asUInt64? }

/-- Write the section. -/
def toJson (c : Renewal) : Json :=
  Json.object
    [("enabled", .bool c.enabled), ("expiry_threshold_seconds", Json.nat c.expiryThreshold.toNat),
     ("min_renewal_interval_seconds", Json.nat c.minInterval.toNat)]

/-- The policy that the section describes. -/
def policy (c : Renewal) : RenewalPolicy :=
  ⟨c.enabled, seconds c.expiryThreshold, seconds c.minInterval⟩

end Renewal

/-- How long a session lives. -/
structure Lifecycle where
  renewal : Renewal := {}
  /-- Seconds that a login, a renewal or a revocation may take. -/
  operationTimeout : UInt64 := 10
  /-- Revoke the token of a login at the end. -/
  revokeOnShutdown : Bool := true
deriving DecidableEq, Repr, Inhabited

namespace Lifecycle

/-- Read the section. -/
def ofTree? (t : Tree) : Option Lifecycle := do
  let fs ← t.fields? ["renewal", "operation_timeout_seconds", "revoke_on_shutdown"]
  let d : Lifecycle := {}
  return {
    renewal := ← fs.withDefault "renewal" d.renewal Renewal.ofTree?
    operationTimeout :=
      ← fs.withDefault "operation_timeout_seconds" d.operationTimeout Tree.asUInt64?
    revokeOnShutdown := ← fs.withDefault "revoke_on_shutdown" d.revokeOnShutdown Tree.asBool? }

/-- Write the section. -/
def toJson (c : Lifecycle) : Json :=
  Json.object
    [("renewal", c.renewal.toJson),
     ("operation_timeout_seconds", Json.nat c.operationTimeout.toNat),
     ("revoke_on_shutdown", .bool c.revokeOnShutdown)]

end Lifecycle

/-- What is logged and measured. -/
structure Observability where
  serviceName : String := "vaultline"
  logLevel : String := "info"
  jsonLogging : Bool := false
  enableMetrics : Bool := false
  metricsHost : String := "0.0.0.0"
  /-- The port that metrics are offered on; there is none at zero. -/
  metricsPort : UInt16 := 9090
deriving DecidableEq, Repr, Inhabited

namespace Observability

/-- Read the section. -/
def ofTree? (t : Tree) : Option Observability := do
  let fs ← t.fields? ["service_name", "log_level", "json_logging", "enable_metrics",
    "metrics_host", "metrics_port"]
  let d : Observability := {}
  return {
    serviceName := ← fs.withDefault "service_name" d.serviceName Tree.asText?
    logLevel := ← fs.withDefault "log_level" d.logLevel Tree.asText?
    jsonLogging := ← fs.withDefault "json_logging" d.jsonLogging Tree.asBool?
    enableMetrics := ← fs.withDefault "enable_metrics" d.enableMetrics Tree.asBool?
    metricsHost := ← fs.withDefault "metrics_host" d.metricsHost Tree.asText?
    metricsPort := ← fs.withDefault "metrics_port" d.metricsPort Tree.asUInt16? }

/-- Write the section. -/
def toJson (c : Observability) : Json :=
  Json.object
    [("service_name", .str c.serviceName), ("log_level", .str c.logLevel),
     ("json_logging", .bool c.jsonLogging), ("enable_metrics", .bool c.enableMetrics),
     ("metrics_host", .str c.metricsHost), ("metrics_port", Json.nat c.metricsPort.toNat)]

/-- The address that metrics are offered on. -/
def metricsAddress (c : Observability) : Option String :=
  if c.metricsPort = 0 then none
  else some (c.metricsHost ++ ":" ++ toString c.metricsPort.toNat)

end Observability

end SecretConfig.Settings
