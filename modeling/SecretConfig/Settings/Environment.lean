import SecretConfig.Error
import SecretConfig.Settings

set_option autoImplicit false

/-! # Overriding settings from the environment

Each `Override` is a setting that variables can take over. Of its variables the first with a
value that is not blank counts, trimmed. The overrides are applied in the order of
`Override.all`; a value that cannot be read ends that, and what was applied before stays. -/

namespace SecretConfig

/-- A setting that the environment can take over. -/
inductive Override where
  | address
  | scope
  | token
  | method
  | roleId
  | secretId
  | kubernetesRole
  | applicationName
  | profiles
  | failFast
  | logLevel
  | jsonLogging
  | enableMetrics
  | metricsPort
deriving DecidableEq, Repr, Inhabited

/-- The environment: a value for some variables. -/
abbrev Environment := String → Option String

namespace Environment

/-- The first value that is not blank, trimmed. -/
def first? (env : Environment) (names : List String) : Option String :=
  names.findSome? fun n => (env n).bind Text.nonBlank?

end Environment

namespace Override

/-- All overrides in the order in which they are applied. -/
def all : List Override :=
  [address, scope, token, method, roleId, secretId, kubernetesRole, applicationName, profiles,
   failFast, logLevel, jsonLogging, enableMetrics, metricsPort]

/-- The variables of a setting, the one that counts first in front. -/
def names : Override → List String
  | address => ["VAULTLINE_ADDR", "VAULT_ADDR"]
  | scope => ["VAULTLINE_NAMESPACE", "VAULT_NAMESPACE"]
  | token => ["VAULTLINE_TOKEN", "VAULT_TOKEN"]
  | method => ["VAULTLINE_AUTH_METHOD"]
  | roleId => ["VAULTLINE_ROLE_ID"]
  | secretId => ["VAULTLINE_SECRET_ID"]
  | kubernetesRole => ["VAULTLINE_KUBERNETES_ROLE"]
  | applicationName => ["VAULTLINE_APPLICATION_NAME"]
  | profiles => ["VAULTLINE_PROFILES"]
  | failFast => ["VAULTLINE_FAIL_FAST"]
  | logLevel => ["VAULTLINE_LOG_LEVEL"]
  | jsonLogging => ["VAULTLINE_JSON_LOGGING"]
  | enableMetrics => ["VAULTLINE_ENABLE_METRICS"]
  | metricsPort => ["VAULTLINE_METRICS_PORT"]

/-- The truth value that a variable holds. -/
def readBool (key value : String) : Except Error Bool :=
  let word := Text.asciiLower value
  if word ∈ ["1", "true", "yes", "on"] then .ok true
  else if word ∈ ["0", "false", "no", "off"] then .ok false
  else .error (.configuration (.notBoolean key value))

/-- Read the digits of a port after a number; the first digit that makes it too great, or is
none, is the fault. -/
def readPortDigits : List Char → Nat → Except String UInt16
  | [], n => .ok (UInt16.ofNat n)
  | c :: rest, n =>
    if c.isDigit = false then .error "invalid digit found in string"
    else if UInt16.size ≤ n * 10 + (c.toNat - '0'.toNat) then
      .error "number too large to fit in target type"
    else readPortDigits rest (n * 10 + (c.toNat - '0'.toNat))

/-- The port number that a text writes, with at most one plus sign in front. -/
def readPort (value : String) : Except String UInt16 :=
  match value.toList with
  | ['+'] => .error "invalid digit found in string"
  | '+' :: ds => readPortDigits ds 0
  | ds => readPortDigits ds 0

/-- The profiles that a text lists, separated by commas; blank ones are left out. -/
def readProfiles (value : String) : List String :=
  ((value.toList.splitOn ',').map String.ofList).filterMap Text.nonBlank?

/-- Put a value in the place of a setting. -/
def assign (c : Settings) (value : String) : Override → Except Error Settings
  | address => .ok { c with connection := { c.connection with address := value } }
  | scope => .ok { c with connection := { c.connection with scope := some value } }
  | token => .ok { c with authentication := { c.authentication with token := some ⟨value⟩ } }
  | method => do
    let method ← AuthMethod.read value
    return { c with authentication := { c.authentication with method } }
  | roleId =>
    let appRole := { c.authentication.appRole with roleId := some value }
    .ok { c with authentication := { c.authentication with appRole } }
  | secretId =>
    let appRole := { c.authentication.appRole with secretId := some ⟨value⟩ }
    .ok { c with authentication := { c.authentication with appRole } }
  | kubernetesRole =>
    let kubernetes := { c.authentication.kubernetes with role := some value }
    .ok { c with authentication := { c.authentication with kubernetes } }
  | applicationName => .ok { c with backends := { c.backends with applicationName := value } }
  | profiles => .ok { c with backends := { c.backends with profiles := readProfiles value } }
  | failFast => do
    let b ← readBool "VAULTLINE_FAIL_FAST" value
    return { c with backends := { c.backends with failFast := b } }
  | logLevel => .ok { c with observability := { c.observability with logLevel := value } }
  | jsonLogging => do
    let b ← readBool "VAULTLINE_JSON_LOGGING" value
    return { c with observability := { c.observability with jsonLogging := b } }
  | enableMetrics => do
    let b ← readBool "VAULTLINE_ENABLE_METRICS" value
    return { c with observability := { c.observability with enableMetrics := b } }
  | metricsPort =>
    match readPort value with
    | .ok port => .ok { c with observability := { c.observability with metricsPort := port } }
    | .error reason => .error (.configuration (.notPort "VAULTLINE_METRICS_PORT" value reason))

end Override

namespace Settings

/-- Apply overrides in order, up to the first whose value cannot be read. -/
def overrideAll (env : Environment) : List Override → Settings → Settings × Option Error
  | [], c => (c, none)
  | o :: rest, c =>
    match env.first? o.names with
    | none => overrideAll env rest c
    | some value =>
      match o.assign c value with
      | .ok c => overrideAll env rest c
      | .error e => (c, some e)

/-- Take over what the environment says: the settings after it, and the first error. -/
def applyEnvironment (env : Environment) (c : Settings) : Settings × Option Error :=
  overrideAll env Override.all c

end Settings

end SecretConfig
