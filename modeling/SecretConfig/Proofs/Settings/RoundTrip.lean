import SecretConfig.Proofs.Tree.Records
import SecretConfig.Settings

set_option autoImplicit false

/-! # Settings that are read back

What settings are written as is read back as the settings with every secret replaced by the text
that stands for it (`Settings.redacted`), also from the text of the document, and is what those are
written as in turn (`Settings.reads_back_redacted`). As an absent field would have its default, it
is shown of each section that its members stand under the names of its fields, one for each, and
that the reader of a field takes its member for the value of the field. -/

namespace SecretConfig.Settings

open SecretConfig.Tree (Encodes)

/-! ## Replacing secrets -/

/-- A secret, if there is one, with the text that stands for it in its place. -/
def redactedSecret : Option Secret → Option Secret := Option.map fun _ => ⟨Secret.redacted⟩

/-- The section with its secret replaced. -/
def AppRole.redacted (c : AppRole) : AppRole := { c with secretId := redactedSecret c.secretId }

/-- The section with its secret replaced. -/
def Userpass.redacted (c : Userpass) : Userpass := { c with password := redactedSecret c.password }

/-- The section with all its secrets replaced. -/
def Authentication.redacted (c : Authentication) : Authentication :=
  { c with
    token := redactedSecret c.token
    appRole := c.appRole.redacted
    userpass := c.userpass.redacted }

/-- The settings with all their secrets replaced. -/
def redacted (c : Settings) : Settings := { c with authentication := c.authentication.redacted }

theorem optionalSecret_redactedSecret (s : Option Secret) :
    optionalSecret (redactedSecret s) = optionalSecret s := by
  cases s with
  | none => rfl
  | some s => rfl

/-- Settings are written like those with their secrets replaced. -/
theorem toJson_redacted (c : Settings) : c.redacted.toJson = c.toJson := by
  have happRole : c.authentication.appRole.redacted.toJson = c.authentication.appRole.toJson := by
    simp only [AppRole.toJson, AppRole.redacted, optionalSecret_redactedSecret]
  have huserpass :
      c.authentication.userpass.redacted.toJson = c.authentication.userpass.toJson := by
    simp only [Userpass.toJson, Userpass.redacted, optionalSecret_redactedSecret]
  have hauthentication : c.authentication.redacted.toJson = c.authentication.toJson := by
    simp only [Authentication.toJson, Authentication.redacted, optionalSecret_redactedSecret,
      happRole, huserpass]
  simp only [toJson, redacted, hauthentication]

/-! ## Fields -/

theorem encodes_optionalText (n : Nat) (s : Option String) :
    Encodes n (Tree.asOption? Tree.asText?) (optionalText s) s := Encodes.optionalText n s

theorem encodes_optionalSecret (n : Nat) (s : Option Secret) :
    Encodes n (Tree.asOption? readSecret?) (optionalSecret s) (redactedSecret s) :=
  .option s (fun _ => ⟨.str n Secret.redacted, rfl⟩) nofun

/-! ## Sections without secrets -/

theorem Connection.encodes (n : Nat) (c : Connection) : Encodes (n + 1) ofTree? c.toJson c := by
  have haddress := Encodes.text n c.address
  have hscope := encodes_optionalText n c.scope
  have hconnect := Encodes.uint64 n c.connectTimeout
  have hrequest := Encodes.uint64 n c.requestTimeout
  have hca := encodes_optionalText n c.caCertPath
  have hidentity := encodes_optionalText n c.identityPath
  refine .record rfl (by decide) ?_ ?_
  · simp [haddress.writable, hscope.writable, hconnect.writable, hrequest.writable,
      hca.writable, hidentity.writable]
  · simp [Tree.Fields.withDefault, haddress.reads, hscope.reads, hconnect.reads, hrequest.reads,
      hca.reads, hidentity.reads]

theorem Renewal.encodes (n : Nat) (c : Renewal) : Encodes (n + 1) ofTree? c.toJson c := by
  have henabled := Encodes.bool n c.enabled
  have hthreshold := Encodes.uint64 n c.expiryThreshold
  have hinterval := Encodes.uint64 n c.minInterval
  refine .record rfl (by decide) ?_ ?_
  · simp [henabled.writable, hthreshold.writable, hinterval.writable]
  · simp [Tree.Fields.withDefault, henabled.reads, hthreshold.reads, hinterval.reads]

theorem Lifecycle.encodes (n : Nat) (c : Lifecycle) : Encodes (n + 2) ofTree? c.toJson c := by
  have hrenewal := Renewal.encodes n c.renewal
  have htimeout := Encodes.uint64 (n + 1) c.operationTimeout
  have hrevoke := Encodes.bool (n + 1) c.revokeOnShutdown
  refine .record rfl (by decide) ?_ ?_
  · simp [hrenewal.writable, htimeout.writable, hrevoke.writable]
  · simp [Tree.Fields.withDefault, hrenewal.reads, htimeout.reads, hrevoke.reads]

theorem Observability.encodes (n : Nat) (c : Observability) :
    Encodes (n + 1) ofTree? c.toJson c := by
  have hservice := Encodes.text n c.serviceName
  have hlevel := Encodes.text n c.logLevel
  have hjson := Encodes.bool n c.jsonLogging
  have hmetrics := Encodes.bool n c.enableMetrics
  have hhost := Encodes.text n c.metricsHost
  have hport := Encodes.uint16 n c.metricsPort
  refine .record rfl (by decide) ?_ ?_
  · simp [hservice.writable, hlevel.writable, hjson.writable, hmetrics.writable, hhost.writable,
      hport.writable]
  · simp [Tree.Fields.withDefault, hservice.reads, hlevel.reads, hjson.reads, hmetrics.reads,
      hhost.reads, hport.reads]

theorem KeyValue.encodes (n : Nat) (c : KeyValue) : Encodes (n + 1) ofTree? c.toJson c := by
  have henabled := Encodes.bool n c.enabled
  have hbackend := Encodes.text n c.backend
  have hcontext := Encodes.text n c.defaultContext
  have hseparator := Encodes.text n c.profileSeparator
  have hversion := Encodes.choice n c.version.ofName?_name
  have horder := Encodes.int32 n c.order
  have hfailFast := Encodes.bool n c.failFast
  refine .record rfl (by decide) ?_ ?_
  · simp [henabled.writable, hbackend.writable, hcontext.writable, hseparator.writable,
      hversion.writable, horder.writable, hfailFast.writable]
  · simp [Tree.Fields.withDefault, henabled.reads, hbackend.reads, hcontext.reads,
      hseparator.reads, hversion.reads, horder.reads, hfailFast.reads]

theorem Database.encodes (n : Nat) (c : Database) : Encodes (n + 1) ofTree? c.toJson c := by
  have hname := Encodes.text n c.name
  have hflavor := Encodes.choice n c.flavor.ofName?_name
  have henabled := Encodes.bool n c.enabled
  have hbackend := encodes_optionalText n c.backend
  have hrole := Encodes.text n c.role
  have hstatic := Encodes.bool n c.staticRole
  have husername := encodes_optionalText n c.usernameProperty
  have hpassword := encodes_optionalText n c.passwordProperty
  have horder := Encodes.int32 n c.order
  have hfailFast := Encodes.bool n c.failFast
  refine .record rfl (by decide) ?_ ?_
  · simp [hname.writable, hflavor.writable, henabled.writable, hbackend.writable, hrole.writable,
      hstatic.writable, husername.writable, hpassword.writable, horder.writable,
      hfailFast.writable]
  · simp [Tree.Fields.withDefault, hname.reads, hflavor.reads, henabled.reads, hbackend.reads,
      hrole.reads, hstatic.reads, husername.reads, hpassword.reads, horder.reads,
      hfailFast.reads]

theorem RabbitMq.encodes (n : Nat) (c : RabbitMq) : Encodes (n + 1) ofTree? c.toJson c := by
  have henabled := Encodes.bool n c.enabled
  have hbackend := Encodes.text n c.backend
  have hrole := Encodes.text n c.role
  have husername := encodes_optionalText n c.usernameProperty
  have hpassword := encodes_optionalText n c.passwordProperty
  have horder := Encodes.int32 n c.order
  have hfailFast := Encodes.bool n c.failFast
  refine .record rfl (by decide) ?_ ?_
  · simp [henabled.writable, hbackend.writable, hrole.writable, husername.writable,
      hpassword.writable, horder.writable, hfailFast.writable]
  · simp [Tree.Fields.withDefault, henabled.reads, hbackend.reads, hrole.reads, husername.reads,
      hpassword.reads, horder.reads, hfailFast.reads]

theorem Consul.encodes (n : Nat) (c : Consul) : Encodes (n + 1) ofTree? c.toJson c := by
  have henabled := Encodes.bool n c.enabled
  have hbackend := Encodes.text n c.backend
  have hrole := Encodes.text n c.role
  have htoken := encodes_optionalText n c.tokenProperty
  have horder := Encodes.int32 n c.order
  have hfailFast := Encodes.bool n c.failFast
  refine .record rfl (by decide) ?_ ?_
  · simp [henabled.writable, hbackend.writable, hrole.writable, htoken.writable, horder.writable,
      hfailFast.writable]
  · simp [Tree.Fields.withDefault, henabled.reads, hbackend.reads, hrole.reads, htoken.reads,
      horder.reads, hfailFast.reads]

theorem Aws.encodes (n : Nat) (c : Aws) : Encodes (n + 1) ofTree? c.toJson c := by
  have henabled := Encodes.bool n c.enabled
  have hbackend := Encodes.text n c.backend
  have hrole := Encodes.text n c.role
  have haccess := encodes_optionalText n c.accessKeyProperty
  have hsecret := encodes_optionalText n c.secretKeyProperty
  have hsession := encodes_optionalText n c.sessionTokenProperty
  have horder := Encodes.int32 n c.order
  have hfailFast := Encodes.bool n c.failFast
  refine .record rfl (by decide) ?_ ?_
  · simp [henabled.writable, hbackend.writable, hrole.writable, haccess.writable,
      hsecret.writable, hsession.writable, horder.writable, hfailFast.writable]
  · simp [Tree.Fields.withDefault, henabled.reads, hbackend.reads, hrole.reads, haccess.reads,
      hsecret.reads, hsession.reads, horder.reads, hfailFast.reads]

/-- The databases stand in an array, and so their members are nested deepest. -/
theorem Backends.encodes (n : Nat) (c : Backends) : Encodes (n + 3) ofTree? c.toJson c := by
  have hfailFast := Encodes.bool (n + 2) c.failFast
  have happlication := Encodes.text (n + 2) c.applicationName
  have hprofiles : Encodes (n + 2) _ (.arr (c.profiles.map Json.str)) c.profiles :=
    .list fun p _ => .text (n + 1) p
  have htimeout := Encodes.uint64 (n + 2) c.readTimeout
  have hkv := KeyValue.encodes (n + 1) c.kv
  have hdatabases : Encodes (n + 2) _ (.arr (c.databases.map Database.toJson)) c.databases :=
    .list fun d _ => Database.encodes n d
  have hrabbitMq := RabbitMq.encodes (n + 1) c.rabbitMq
  have hconsul := Consul.encodes (n + 1) c.consul
  have haws := Aws.encodes (n + 1) c.aws
  refine .record rfl (by decide) ?_ ?_
  · simp [Json.strings, hfailFast.writable, happlication.writable, hprofiles.writable,
      htimeout.writable, hkv.writable, hdatabases.writable, hrabbitMq.writable,
      hconsul.writable, haws.writable]
  · simp [Json.strings, Tree.Fields.withDefault, hfailFast.reads, happlication.reads,
      hprofiles.reads, htimeout.reads, hkv.reads, hdatabases.reads, hrabbitMq.reads,
      hconsul.reads, haws.reads]

/-! ## Sections with secrets -/

theorem AppRole.encodes (n : Nat) (c : AppRole) :
    Encodes (n + 1) ofTree? c.toJson c.redacted := by
  have hmount := Encodes.text n c.mount
  have hrole := encodes_optionalText n c.roleId
  have hsecret := encodes_optionalSecret n c.secretId
  refine .record rfl (by decide) ?_ ?_
  · simp [hmount.writable, hrole.writable, hsecret.writable]
  · simp [Tree.Fields.withDefault, hmount.reads, hrole.reads, hsecret.reads, redacted]

theorem Kubernetes.encodes (n : Nat) (c : Kubernetes) : Encodes (n + 1) ofTree? c.toJson c := by
  have hmount := Encodes.text n c.mount
  have hrole := encodes_optionalText n c.role
  have hfile := Encodes.text n c.tokenFile
  refine .record rfl (by decide) ?_ ?_
  · simp [hmount.writable, hrole.writable, hfile.writable]
  · simp [Tree.Fields.withDefault, hmount.reads, hrole.reads, hfile.reads]

theorem Userpass.encodes (n : Nat) (c : Userpass) :
    Encodes (n + 1) ofTree? c.toJson c.redacted := by
  have hmount := Encodes.text n c.mount
  have husername := encodes_optionalText n c.username
  have hpassword := encodes_optionalSecret n c.password
  refine .record rfl (by decide) ?_ ?_
  · simp [hmount.writable, husername.writable, hpassword.writable]
  · simp [Tree.Fields.withDefault, hmount.reads, husername.reads, hpassword.reads, redacted]

theorem Cert.encodes (n : Nat) (c : Cert) : Encodes (n + 1) ofTree? c.toJson c := by
  have hmount := Encodes.text n c.mount
  have hname := encodes_optionalText n c.name
  refine .record rfl (by decide) ?_ ?_
  · simp [hmount.writable, hname.writable]
  · simp [Tree.Fields.withDefault, hmount.reads, hname.reads]

theorem Authentication.encodes (n : Nat) (c : Authentication) :
    Encodes (n + 2) ofTree? c.toJson c.redacted := by
  have hmethod := Encodes.choice (n + 1) c.method.ofName?_name
  have htoken := encodes_optionalSecret (n + 1) c.token
  have happRole := AppRole.encodes n c.appRole
  have hkubernetes := Kubernetes.encodes n c.kubernetes
  have huserpass := Userpass.encodes n c.userpass
  have hcert := Cert.encodes n c.cert
  refine .record rfl (by decide) ?_ ?_
  · simp [hmethod.writable, htoken.writable, happRole.writable, hkubernetes.writable,
      huserpass.writable, hcert.writable]
  · simp [Tree.Fields.withDefault, hmethod.reads, htoken.reads, happRole.reads,
      hkubernetes.reads, huserpass.reads, hcert.reads, redacted]

/-! ## All settings -/

/-- Settings are written as a document of four levels. -/
theorem encodes (c : Settings) : Encodes 4 ofTree? c.toJson c.redacted := by
  have hconnection := Connection.encodes 2 c.connection
  have hauthentication := Authentication.encodes 1 c.authentication
  have hlifecycle := Lifecycle.encodes 1 c.lifecycle
  have hbackends := Backends.encodes 0 c.backends
  have hobservability := Observability.encodes 2 c.observability
  refine .record rfl (by decide) ?_ ?_
  · simp [hconnection.writable, hauthentication.writable, hlifecycle.writable,
      hbackends.writable, hobservability.writable]
  · simp [Tree.Fields.withDefault, hconnection.reads, hauthentication.reads, hlifecycle.reads,
      hbackends.reads, hobservability.reads, redacted]

/-- All settings are read back, from the document that they are written as and from its text, with
every secret replaced and nothing else changed, and are then written as the same document. -/
theorem reads_back_redacted (c : Settings) :
    ofJson? c.toJson = some c.redacted ∧
    (Json.parse? c.toJson.compact).bind ofJson? = some c.redacted ∧
    c.redacted.toJson = c.toJson := by
  have hencodes := c.encodes
  have hreads : ofJson? c.toJson = some c.redacted := hencodes.reads
  have hshallow : 4 ≤ Json.maxDepth := by decide
  refine ⟨hreads, ?_, c.toJson_redacted⟩
  rw [Json.parse?_compact hencodes.writable hshallow, Option.bind_some, hreads]

end SecretConfig.Settings
