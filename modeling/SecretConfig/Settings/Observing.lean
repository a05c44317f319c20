import SecretConfig.Error
import SecretConfig.Settings.Lifecycle
import SecretConfig.Url.Host

set_option autoImplicit false

/-! # Starting to observe

Before a run starts, its log filter and the address for its metrics are checked. A filter is a
list of directives: a level, or a target or a span with an optional level. -/

namespace SecretConfig.Settings

/-! ## Log filters -/

/-- The text names a level. -/
def isLevel (cs : List Char) : Bool :=
  Text.asciiLower (String.ofList cs) ∈
    ["trace", "debug", "info", "warn", "error", "off", "0", "1", "2", "3", "4", "5"]

/-- A character of the name of a target. -/
def isTargetChar (c : Char) : Bool :=
  c.isAlphanum || c = '_' || c = ':' || c = '-' || 0x80 ≤ c.toNat

/-- What stands behind a target or a span. -/
def skipTarget? (cs : List Char) : Option (List Char) :=
  match cs with
  | '[' :: rest =>
    match rest.dropWhile (· ≠ ']') with
    | _ :: rest => some rest
    | [] => none
  | c :: _ => if isTargetChar c then some (cs.dropWhile isTargetChar) else none
  | [] => none

/-- The text ends here, or with a level. -/
def endsInLevel (cs : List Char) : Bool :=
  match cs with
  | [] => true
  | '=' :: level => level.isEmpty || isLevel level
  | _ => false

/-- The text is a directive. -/
def isDirective (cs : List Char) : Bool :=
  isLevel cs ||
    match skipTarget? cs with
    | none => false
    | some rest => endsInLevel rest || (skipTarget? rest).any endsInLevel

/-- The text is a list of directives. -/
def isLogFilter (s : String) : Bool :=
  (s.splitOn ",").all fun d => d.isEmpty || isDirective d.toList

/-! ## Addresses for metrics -/

/-- The text is an address with a port: four decimal bytes, or an address in brackets. -/
def isSocketAddress (s : String) : Bool :=
  let cs := s.toList
  let port := (cs.reverse.takeWhile (· ≠ ':')).reverse
  let host := cs.take (cs.length - port.length - 1)
  let isPort := !port.isEmpty && port.all Char.isDigit
    && Json.Document.ofDigits (port.map fun c => c.toNat - '0'.toNat) < UInt16.size
  let isHost := match host, host.reverse with
    | '[' :: _, ']' :: _ => (Url.ipv6? ((host.drop 1).dropLast)).isSome
    | host, _ => (Url.embeddedIpv4? host).isSome
  isPort && isHost

namespace Observability

/-- Check the log filter. One from outside takes the place of the configured level when it
makes sense. -/
def checkLogging (c : Observability) (filter : Option String) : Except Error Unit :=
  if filter.any isLogFilter ∨ isLogFilter c.logLevel then .ok ()
  else .error (.configuration (.badLogLevel c.logLevel))

/-- Check the address for metrics, if there is one. -/
def checkMetrics (c : Observability) : Except Error Unit :=
  if c.enableMetrics then
    match c.metricsAddress with
    | none => .ok ()
    | some address =>
      if isSocketAddress address then .ok ()
      else .error (.configuration (.badMetricsAddress address))
  else .ok ()

/-- Check everything that observing needs. -/
def check (c : Observability) (filter : Option String) : Except Error Unit := do
  c.checkLogging filter
  c.checkMetrics

end Observability

end SecretConfig.Settings
