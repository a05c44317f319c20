import SecretConfig.Auth.Method
import SecretConfig.Backend.Kind
import SecretConfig.Files
import SecretConfig.Store.Fault

set_option autoImplicit false

/-! # Errors

Errors are told apart by their cause; `Error.message` gives the text, and
`Error.backend?`, `Error.field?` and `Error.source?` name what the error is about. Each
group of causes has one `told` case, for an error that is given by its text. -/

namespace SecretConfig

/-- Why a login produced no token. -/
inductive AuthenticationFault where
  /-- The store refused or failed the login. -/
  | loginFailed (method : AuthMethod) (cause : StoreFault)
  /-- The login did not end within a limit in milliseconds. -/
  | loginTimedOut (method : AuthMethod) (limit : Nat)
  /-- The configured token is blank. -/
  | blankToken
  /-- The file with the service account token cannot be read. -/
  | unreadableServiceToken (path : String) (reason : FileFault)
  /-- The file with the service account token holds nothing but blanks. -/
  | emptyServiceToken (path : String)
  | told (message : String) (cause : Option StoreFault)
deriving DecidableEq, Repr, Inhabited

/-- Why a renewal produced no fresh lease. -/
inductive RenewalFault where
  /-- There is no token to renew. -/
  | noSession
  /-- The store refused or failed the renewal, or took too long. -/
  | store (cause : StoreFault)
deriving DecidableEq, Repr, Inhabited

/-- What is wrong with a configured backend. -/
inductive BackendFault where
  /-- A needed input is absent, or holds only blanks and slashes. -/
  | missing
  /-- A property name is configured but blank. -/
  | blankName
  /-- No resolver is registered for the kind. -/
  | unresolvable (kind : BackendKind)
  /-- The settings are those of another kind. -/
  | mismatch (actual expected : BackendKind)
  /-- Two database backends have one name. -/
  | duplicateDatabase
  /-- An enabled database backend has a blank role. -/
  | databaseWithoutRole
  /-- Another enabled backend has a blank role. -/
  | withoutRole
deriving DecidableEq, Repr, Inhabited

/-- What is wrong with a configuration as a whole. -/
inductive ConfigurationFault where
  /-- A field of a backend is at fault. -/
  | backend (name field : String) (fault : BackendFault)
  /-- The file name ends in an unknown way. -/
  | unsupportedFormat (extension : String)
  | invalidToml
  | invalidYaml
  /-- An environment variable holds no truth value. -/
  | notBoolean (key value : String)
  /-- An environment variable holds no port number. -/
  | notPort (key value reason : String)
  /-- The address for metrics is no socket address. -/
  | badMetricsAddress (address : String)
  /-- The log level is no filter of log messages. -/
  | badLogLevel (level : String)
  /-- The certificate and the key of the client make no sense. -/
  | invalidIdentity
  /-- The connection cannot be set up. -/
  | unusableConnection
  /-- A fault given by its text, and what it is about where that is known. -/
  | told (message : String) (about : Option (String × String))
deriving DecidableEq, Repr, Inhabited

/-- The rule that a field breaks. -/
inductive FieldRule where
  /-- A text has too few characters. -/
  | length
  /-- A number is too small or too large. -/
  | range
deriving DecidableEq, Repr, Inhabited

/-- The name of a rule. -/
def FieldRule.name : FieldRule → String
  | length => "length"
  | range => "range"

/-- A field that breaks a rule. -/
structure Finding where
  path : String
  message : String
  rule : FieldRule
deriving DecidableEq, Repr, Inhabited

/-- What a valid configuration may not hold. -/
inductive ValidationFault where
  | unknownMethod (text : String)
  /-- Fields are too short or out of range; the text tells one, not several. -/
  | fields (findings : List Finding)
  | badAddress (address reason : String)
  /-- The authentication method lacks an input. -/
  | methodRequires (method : AuthMethod) (field : String)
  | certRequiresIdentity
  | blankProfile
  | told (message : String) (field : Option String)
deriving DecidableEq, Repr, Inhabited

/-- Why an operation failed. -/
inductive Error where
  | authentication (fault : AuthenticationFault)
  | renewal (fault : RenewalFault)
  | configuration (fault : ConfigurationFault)
  /-- A backend that must not fail found nothing at its path. -/
  | missingSecret (backend path : String)
  /-- The store was unavailable or too slow. -/
  | transient (operation : String) (cause : StoreFault)
  /-- Any other fault of the store. -/
  | store (cause : StoreFault)
  | validation (fault : ValidationFault)
  /-- A file could not be read; the context says what for. -/
  | file (context : String) (reason : FileFault)
  | internal (message : String)
deriving DecidableEq, Repr, Inhabited

namespace AuthenticationFault

/-- The text of a fault. -/
def message : AuthenticationFault → String
  | loginFailed m cause => m.name ++ " login failed: " ++ cause.message
  | loginTimedOut m _ => m.name ++ " login timed out"
  | blankToken => "token authentication requires a token"
  | unreadableServiceToken path reason =>
    "cannot read service account token from '" ++ path ++ "': " ++ reason.message
  | emptyServiceToken path => "service account token at '" ++ path ++ "' is empty"
  | told m _ => m

/-- The fault of the store behind it. -/
def source? : AuthenticationFault → Option StoreFault
  | loginFailed _ cause => some cause
  | loginTimedOut _ limit => some (.timedOutAfter "login" limit)
  | told _ cause => cause
  | blankToken | unreadableServiceToken _ _ | emptyServiceToken _ => none

end AuthenticationFault

namespace RenewalFault

/-- The text of a fault. -/
def message : RenewalFault → String
  | noSession => "No active session to renew"
  | store cause => "Token renewal failed: " ++ cause.message

/-- The name of a fault. -/
def name : RenewalFault → String
  | noSession => "NoSession"
  | store _ => "Store"

/-- The fault of the store behind it. -/
def source? : RenewalFault → Option StoreFault
  | noSession => none
  | store cause => some cause

end RenewalFault

namespace BackendFault

/-- The text of a fault of the backend called `name` at `field`. -/
def message (name field : String) : BackendFault → String
  | missing => "backend '" ++ name ++ "' requires '" ++ field ++ "'"
  | blankName => "backend '" ++ name ++ "' has a blank '" ++ field ++ "'"
  | unresolvable kind => "no resolver registered for backend kind '" ++ kind.name ++ "'"
  | mismatch actual expected =>
    "backend '" ++ name ++ "' has " ++ actual.name ++ " settings, expected " ++ expected.name
  | duplicateDatabase => "Database backend names must be unique"
  | databaseWithoutRole => "Database backend requires a role"
  | withoutRole => "Backend '" ++ name ++ "' requires a role"

end BackendFault

namespace ConfigurationFault

/-- The text of a fault. -/
def message : ConfigurationFault → String
  | backend name field fault => fault.message name field
  | unsupportedFormat extension => "Unsupported configuration format '." ++ extension ++ "'"
  | invalidToml => "Invalid TOML configuration"
  | invalidYaml => "Invalid YAML configuration"
  | notBoolean key value => "Invalid boolean for " ++ key ++ ": '" ++ value ++ "'"
  | notPort key value reason => "Invalid " ++ key ++ " '" ++ value ++ "': " ++ reason
  | badMetricsAddress address =>
    "Invalid metrics bind address '" ++ address ++ "': invalid socket address syntax"
  | badLogLevel level => "Invalid log level '" ++ level ++ "'"
  | invalidIdentity => "invalid client identity"
  | unusableConnection => "failed to build HTTP client"
  | told m _ => m

end ConfigurationFault

namespace ValidationFault

/-- The text of a fault. -/
def message : ValidationFault → String
  | unknownMethod text => "Unknown authentication method '" ++ text ++ "'"
  | fields [finding] => "Validation failed: " ++ finding.path ++ ": " ++ finding.message
  | fields _ => "Validation failed"
  | badAddress address reason => "Invalid Vault address '" ++ address ++ "': " ++ reason
  | methodRequires method field =>
    "Authentication method '" ++ method.name ++ "' requires '" ++ field ++ "'"
  | certRequiresIdentity =>
    "Certificate authentication requires vault.client_identity_path"
  | blankProfile => "Profiles cannot be blank"
  | told m _ => m

/-- The field at fault. -/
def field? : ValidationFault → Option String
  | unknownMethod _ => some "authentication.method"
  | fields _ => none
  | badAddress _ _ => some "vault.address"
  | methodRequires _ field => some field
  | certRequiresIdentity => some "vault.client_identity_path"
  | blankProfile => some "backends.profiles"
  | told _ field => field

end ValidationFault

namespace Error

/-- The name of the group of causes. -/
def kind : Error → String
  | authentication _ => "Authentication"
  | renewal _ => "Renewal"
  | configuration _ => "Configuration"
  | missingSecret _ _ => "MissingSecret"
  | transient _ _ => "Transient"
  | store _ => "Store"
  | validation _ => "Validation"
  | file _ _ => "Io"
  | internal _ => "Internal"

/-- The text of an error. -/
def message : Error → String
  | authentication fault => "Authentication error: " ++ fault.message
  | renewal fault => fault.message
  | configuration fault => "Configuration error: " ++ fault.message
  | missingSecret backend path =>
    "Missing secret for backend '" ++ backend ++ "' at '" ++ path ++ "'"
  | transient operation cause =>
    "Transient failure during " ++ operation ++ ": " ++ cause.message
  | store cause => "Secret store error: " ++ cause.message
  | validation fault => "Validation error: " ++ fault.message
  | file context _ => "I/O error: " ++ context
  | internal m => "Internal error: " ++ m

/-- The backend that the error is about. -/
def backend? : Error → Option String
  | configuration (.backend name _ _) => some name
  | configuration (.told _ (some (name, _))) => some name
  | missingSecret backend _ => some backend
  | _ => none

/-- The field that the error is about. -/
def field? : Error → Option String
  | configuration (.backend _ field _) => some field
  | configuration (.told _ (some (_, field))) => some field
  | validation fault => fault.field?
  | _ => none

/-- The fault of the store behind the error. -/
def source? : Error → Option StoreFault
  | authentication fault => fault.source?
  | renewal fault => fault.source?
  | transient _ cause | store cause => some cause
  | _ => none

/-- Another attempt may succeed. -/
def isRetryable : Error → Bool
  | transient _ _ => true
  | store cause | renewal (.store cause) => cause.isTransient
  | _ => false

/-- The error of an operation that the store failed. -/
def ofStore (operation : String) (cause : StoreFault) : Error :=
  if cause.isTransient then transient operation cause else store cause

/-- The texts of the causes below the error, outermost first. A text that repeats its cause
is not a cause of its own. -/
def causes : Error → List String
  | authentication fault => (fault.source?.map StoreFault.message).toList
  | transient _ cause => [cause.message]
  | file _ reason => [reason.message]
  | renewal (.store cause) => [cause.message]
  | _ => []

end Error

/-- The method that a text names, or the error that it names none. -/
def AuthMethod.read (s : String) : Except Error AuthMethod :=
  match AuthMethod.parse? s with
  | some m => .ok m
  | none => .error (.validation (.unknownMethod (AuthMethod.normalize s)))

end SecretConfig
