import SecretConfig.Settings
import SecretConfig.Url

set_option autoImplicit false

/-! # Validating settings

First every field is checked on its own, and all fields that break their rule are reported
together. Then come, one after the other, the checks that look at more than one field: the
address, the inputs of the login method, the profiles and the backends. -/

namespace SecretConfig.Settings

/-! ## Fields -/

/-- A text that needs a character at least. -/
def nonEmpty (path message value : String) : List Finding :=
  if value.isEmpty then [⟨path, message, .length⟩] else []

/-- A number with a least and a greatest value. -/
def inRange (path message : String) (low high : Nat) (value : UInt64) : List Finding :=
  if low ≤ value.toNat ∧ value.toNat ≤ high then [] else [⟨path, message, .range⟩]

/-- The fields of the connection that break their rule. -/
def Connection.findings (c : Connection) : List Finding :=
  nonEmpty "vault.address" "Vault address cannot be empty" c.address
    ++ inRange "vault.connect_timeout_seconds"
      "Connect timeout must be between 1 and 300 seconds" 1 300 c.connectTimeout
    ++ inRange "vault.request_timeout_seconds"
      "Request timeout must be between 1 and 300 seconds" 1 300 c.requestTimeout

/-- The fields of the login that break their rule. -/
def Authentication.findings (c : Authentication) : List Finding :=
  nonEmpty "authentication.app_role.mount" "AppRole mount cannot be empty" c.appRole.mount
    ++ nonEmpty "authentication.kubernetes.mount" "Kubernetes mount cannot be empty"
      c.kubernetes.mount
    ++ nonEmpty "authentication.userpass.mount" "Userpass mount cannot be empty" c.userpass.mount
    ++ nonEmpty "authentication.cert.mount" "Cert mount cannot be empty" c.cert.mount

/-- The fields of the session that break their rule. -/
def Lifecycle.findings (c : Lifecycle) : List Finding :=
  inRange "session.renewal.expiry_threshold_seconds" "Expiry threshold must be at most one day"
      0 86400 c.renewal.expiryThreshold
    ++ inRange "session.renewal.min_renewal_interval_seconds"
      "Minimum renewal interval must be between 1 and 3600 seconds" 1 3600 c.renewal.minInterval
    ++ inRange "session.operation_timeout_seconds"
      "Operation timeout must be between 1 and 300 seconds" 1 300 c.operationTimeout

/-- The fields of the database at a place that break their rule. -/
def Database.findings (index : Nat) (c : Database) : List Finding :=
  nonEmpty ("backends.databases[" ++ toString index ++ "].name")
    "Database backend name cannot be empty" c.name

/-- The fields of the backends that break their rule. -/
def Backends.findings (c : Backends) : List Finding :=
  nonEmpty "backends.application_name" "Application name cannot be empty" c.applicationName
    ++ inRange "backends.read_timeout_seconds" "Read timeout must be between 1 and 300 seconds"
      1 300 c.readTimeout
    ++ nonEmpty "backends.kv.backend" "KV backend mount cannot be empty" c.kv.backend
    ++ nonEmpty "backends.kv.profile_separator" "Profile separator cannot be empty"
      c.kv.profileSeparator
    ++ (c.databases.mapIdx Database.findings).flatten
    ++ nonEmpty "backends.rabbitmq.backend" "RabbitMQ mount cannot be empty" c.rabbitMq.backend
    ++ nonEmpty "backends.consul.backend" "Consul mount cannot be empty" c.consul.backend
    ++ nonEmpty "backends.aws.backend" "AWS mount cannot be empty" c.aws.backend

/-- The fields of logging and measuring that break their rule. -/
def Observability.findings (c : Observability) : List Finding :=
  nonEmpty "observability.service_name" "Service name cannot be empty" c.serviceName
    ++ nonEmpty "observability.log_level" "Log level cannot be empty" c.logLevel
    ++ nonEmpty "observability.metrics_host" "Metrics host cannot be empty" c.metricsHost

/-- All fields that break their rule. -/
def findings (c : Settings) : List Finding :=
  c.connection.findings ++ c.authentication.findings ++ c.lifecycle.findings
    ++ c.backends.findings ++ c.observability.findings

/-! ## Checks across fields -/

/-- No field breaks its rule. -/
def checkFields (c : Settings) : Except Error Unit :=
  if c.findings.isEmpty then .ok () else .error (.validation (.fields c.findings))

/-- The address is a URL. -/
def Connection.checkAddress (c : Connection) : Except Error Unit :=
  match Url.parse? c.address with
  | .ok _ => .ok ()
  | .error fault => .error (.validation (.badAddress c.address fault.message))

/-- A login with a certificate has one. -/
def checkIdentity (c : Settings) : Except Error Unit :=
  if c.connection.identityPath.isNone ∧ c.authentication.method = .cert then
    .error (.validation .certRequiresIdentity)
  else .ok ()

/-- A fault of a backend. -/
def backendFault (name field : String) (fault : BackendFault) : Except Error Unit :=
  .error (.configuration (.backend name field fault))

/-- The names of databases are unique and enabled databases have a role; `seen` holds the
names in front. -/
def checkDatabases (seen : List String) : List Database → Except Error Unit
  | [] => .ok ()
  | d :: rest =>
    if d.name ∈ seen then backendFault d.name "name" .duplicateDatabase
    else if d.enabled ∧ Text.isAllBlank d.role then
      backendFault d.name "role" .databaseWithoutRole
    else checkDatabases (d.name :: seen) rest

/-- A backend that is enabled has a role. -/
def checkRole (name : String) (enabled : Bool) (role : String) : Except Error Unit :=
  if enabled ∧ Text.isAllBlank role then backendFault name "role" .withoutRole else .ok ()

/-- The checks of the backends. -/
def Backends.check (c : Backends) : Except Error Unit := do
  if c.profiles.any Text.isAllBlank then .error (.validation .blankProfile)
  checkDatabases [] c.databases
  checkRole "rabbitmq" c.rabbitMq.enabled c.rabbitMq.role
  checkRole "consul" c.consul.enabled c.consul.role
  checkRole "aws" c.aws.enabled c.aws.role

/-- Settings that a run can start with. -/
def validate (c : Settings) : Except Error Unit := do
  c.checkFields
  c.connection.checkAddress
  let _ ← c.authentication.strategy
  c.checkIdentity
  c.backends.check

end SecretConfig.Settings
