import SecretConfig.CommandLine
import SecretConfig.Proofs.Text.Trimming
import SecretConfig.Settings.Validation

set_option autoImplicit false

/-! # Secrets are not shown

Settings that differ in what their secrets hold, and in nothing else, show the same: the same
document when they are written, the same verdict when they are validated, the same strategy and the
same flow. Whether there is a secret may show, and a blank one counts as none. Of properties that
are redacted only the names are left to show. -/

namespace SecretConfig

/-! ## Results that differ in what they hold -/

/-- Two results are the same fault, or values in a relation. -/
inductive Agree {ε α : Type} (R : α → α → Prop) : Except ε α → Except ε α → Prop where
  | error (e : ε) : Agree R (.error e) (.error e)
  | ok {a b : α} (related : R a b) : Agree R (.ok a) (.ok b)

namespace Agree

theorem refl {ε α : Type} {R : α → α → Prop} (same : ∀ a, R a a) (x : Except ε α) :
    Agree R x x := by
  cases x with
  | error e => exact .error e
  | ok a => exact .ok (same a)

variable {ε α β : Type} {R : α → α → Prop} {S : β → β → Prop} {x y : Except ε α}

theorem bind {f g : α → Except ε β} (agree : Agree R x y)
    (next : ∀ a b, R a b → Agree S (f a) (g b)) : Agree S (x >>= f) (y >>= g) := by
  cases agree with
  | error e => exact .error e
  | ok related => exact next _ _ related

theorem bind_eq {f g : α → Except ε β} (agree : Agree R x y)
    (next : ∀ a b, R a b → f a = g b) : (x >>= f) = (y >>= g) := by
  cases agree with
  | error e => rfl
  | ok related => exact next _ _ related

theorem map_eq {f g : α → β} (agree : Agree R x y) (same : ∀ a b, R a b → f a = g b) :
    x.map f = y.map g := by
  cases agree with
  | error e => rfl
  | ok related => exact congrArg Except.ok (same _ _ related)

end Agree

/-! ## Secrets -/

/-- The same secret, or none, in both places; or secrets in both that are not blank, whatever
they hold. -/
inductive Secret.Alike : Option Secret → Option Secret → Prop where
  | same (s : Option Secret) : Alike s s
  | present {s s' : Secret} (kept : s.isBlank = false) (kept' : s'.isBlank = false) :
    Alike (some s) (some s')

namespace Secret.Alike

variable {s s' : Option Secret} {t t' : Secret}

theorem map_const {α : Type} (alike : Alike s s') (a : α) :
    (s.map fun _ => a) = s'.map fun _ => a := by
  cases alike with
  | same => rfl
  | present => rfl

theorem filter (alike : Alike s s') :
    Alike (s.filter fun t => !t.isBlank) (s'.filter fun t => !t.isBlank) := by
  cases alike with
  | same => exact .same _
  | present kept kept' =>
    simp only [Option.filter, kept, kept']
    exact .present kept kept'

theorem isBlank_eq (alike : Alike (some t) (some t')) : t.isBlank = t'.isBlank := by
  cases alike with
  | same => rfl
  | present kept kept' => exact kept.trans kept'.symm

/-- The written form says only whether there is a secret. -/
theorem optionalSecret_eq (alike : Alike s s') :
    Settings.optionalSecret s = Settings.optionalSecret s' := by
  cases alike with
  | same => rfl
  | present => rfl

end Secret.Alike

/-! ## Strategies and flows -/

/-- A file reads the same in both places, or it reads as a text in both that is not blank. -/
inductive ReadsAlike : Except FileFault String → Except FileFault String → Prop where
  | same (r : Except FileFault String) : ReadsAlike r r
  | present {t t' : String} (kept : Text.isAllBlank t = false)
    (kept' : Text.isAllBlank t' = false) : ReadsAlike (.ok t) (.ok t')

/-- Strategies that differ in what their secrets hold and in nothing else, and read no file but
the one at `tokenFile`. -/
inductive Strategy.Alike (tokenFile : String) : Strategy → Strategy → Prop where
  | token {t t' : Secret} (secret : Secret.Alike (some t) (some t')) :
    Alike tokenFile (.token t) (.token t')
  | appRole (mount roleId : String) {s s' : Option Secret} (secret : Secret.Alike s s') :
    Alike tokenFile (.appRole mount roleId s) (.appRole mount roleId s')
  | kubernetes (mount role : String) :
    Alike tokenFile (.kubernetes mount role tokenFile) (.kubernetes mount role tokenFile)
  | userpass (mount username : String) {t t' : Secret} (secret : Secret.Alike (some t) (some t')) :
    Alike tokenFile (.userpass mount username t) (.userpass mount username t')
  | cert (mount : String) (name : Option String) :
    Alike tokenFile (.cert mount name) (.cert mount name)

namespace Strategy

/-- The names in a body do not depend on the texts under them. -/
theorem keys_body (members : List (String × String)) :
    (body members).keys = (Dict.ofList (members.map fun m => (m.1, ()))).keys := by
  have hmap : (body members).map (fun _ => ()) = Dict.ofList (members.map fun m => (m.1, ())) := by
    rw [body, Dict.map_ofList, List.map_map]
    rfl
  rw [← hmap, Dict.keys_map]

/-- Posts to the same path look the same if their bodies have the same names. -/
theorem shown_login (method : AuthMethod) (path : String)
    {members members' : List (String × String)}
    (names : (members.map fun m => (m.1, ())) = members'.map fun m => (m.1, ())) :
    (LoginFlow.login method path (body members)).shown =
      (LoginFlow.login method path (body members')).shown := by
  simp only [LoginFlow.shown, keys_body, names]

/-- The flow of a service account looks the same for any two token files that can be read and are
not blank. -/
theorem flow_kubernetes (mount role : String) {files files' : Files} {jwtPath : String}
    (reads : ReadsAlike (files jwtPath) (files' jwtPath)) :
    Agree (fun f f' => f.shown = f'.shown) ((kubernetes mount role jwtPath).flow files)
      ((kubernetes mount role jwtPath).flow files') := by
  simp only [flow]
  generalize files jwtPath = r at reads
  generalize files' jwtPath = r' at reads
  cases reads with
  | same =>
    refine .refl ?_ _
    intro f
    rfl
  | present kept kept' =>
    obtain ⟨jwt, hjwt⟩ := Text.exists_nonBlank? kept
    obtain ⟨jwt', hjwt'⟩ := Text.exists_nonBlank? kept'
    simp only [hjwt, hjwt']
    exact .ok (shown_login .kubernetes _ rfl)

namespace Alike

variable {tokenFile : String} {s s' : Strategy}

theorem shown_eq (alike : Alike tokenFile s s') : s.shown = s'.shown := by
  cases alike with
  | token => rfl
  | appRole mount roleId secret => simp only [shown, secret.map_const]
  | kubernetes => rfl
  | userpass => rfl
  | cert => rfl

theorem flow_shown (alike : Alike tokenFile s s') {files files' : Files}
    (reads : ReadsAlike (files tokenFile) (files' tokenFile)) :
    Agree (fun f f' => f.shown = f'.shown) (s.flow files) (s'.flow files') := by
  cases alike with
  | @token t t' secret =>
    simp only [flow, secret.isBlank_eq]
    by_cases hblank : t'.isBlank
    · rw [if_pos hblank, if_pos hblank]
      exact .error _
    · rw [if_neg hblank, if_neg hblank]
      exact .ok rfl
  | appRole mount roleId secret =>
    refine .ok (shown_login .appRole _ ?_)
    cases secret with
    | same => rfl
    | present => rfl
  | kubernetes mount role => exact flow_kubernetes mount role reads
  | userpass mount username secret => exact .ok (shown_login .userpass _ rfl)
  | cert mount name => exact .ok rfl

end Alike

end Strategy

/-! ## Settings -/

namespace Settings

namespace Authentication

/-- The settings of the login without the secrets in them. -/
def withoutSecrets (c : Authentication) : Authentication :=
  { c with
    token := none
    appRole := { c.appRole with secretId := none }
    userpass := { c.userpass with password := none } }

/-- Settings of a login that differ in what their secrets hold and in nothing else. -/
structure Alike (c c' : Authentication) : Prop where
  token : Secret.Alike c.token c'.token
  secretId : Secret.Alike c.appRole.secretId c'.appRole.secretId
  password : Secret.Alike c.userpass.password c'.userpass.password
  rest : c.withoutSecrets = c'.withoutSecrets

/-- The strategy as it is shown. -/
def shownStrategy (c : Authentication) : Except Error String := c.strategy.map Strategy.shown

/-- The flow of the strategy as it is shown, over the files that it may read. -/
def shownFlow (c : Authentication) (files : Files) :
    Except Error (Except AuthenticationFault String) :=
  c.strategy.map fun s => (s.flow files).map LoginFlow.shown

theorem requiredSecret_alike (method : AuthMethod) (field : String) {s s' : Option Secret}
    (alike : Secret.Alike s s') :
    Agree (fun t t' => Secret.Alike (some t) (some t')) (requiredSecret method field s)
      (requiredSecret method field s') := by
  have kept := alike.filter
  unfold requiredSecret
  generalize s.filter (fun t => !t.isBlank) = r at kept
  generalize s'.filter (fun t => !t.isBlank) = r' at kept
  cases kept with
  | same =>
    cases r with
    | none => exact .error _
    | some t => exact .ok (.same _)
  | present here there => exact .ok (.present here there)

namespace Alike

variable {c c' : Authentication}

theorem method_eq (alike : Alike c c') : c.method = c'.method := congrArg (·.method) alike.rest

theorem kubernetes_eq (alike : Alike c c') : c.kubernetes = c'.kubernetes :=
  congrArg (·.kubernetes) alike.rest

theorem cert_eq (alike : Alike c c') : c.cert = c'.cert := congrArg (·.cert) alike.rest

theorem appRole_eq (alike : Alike c c') :
    c.appRole.mount = c'.appRole.mount ∧ c.appRole.roleId = c'.appRole.roleId :=
  ⟨congrArg (·.appRole.mount) alike.rest, congrArg (·.appRole.roleId) alike.rest⟩

theorem userpass_eq (alike : Alike c c') :
    c.userpass.mount = c'.userpass.mount ∧ c.userpass.username = c'.userpass.username :=
  ⟨congrArg (·.userpass.mount) alike.rest, congrArg (·.userpass.username) alike.rest⟩

/-- The strategy of each method differs in its secret at most. -/
theorem strategy (alike : Alike c c') :
    Agree (Strategy.Alike c.kubernetes.tokenFile) c.strategy c'.strategy := by
  obtain ⟨hmount, hrole⟩ := alike.appRole_eq
  obtain ⟨hplace, huser⟩ := alike.userpass_eq
  unfold Authentication.strategy
  rw [← alike.method_eq]
  cases c.method with
  | token =>
    refine (requiredSecret_alike _ _ alike.token).bind fun t t' secret => ?_
    exact .ok (.token secret)
  | appRole =>
    simp only [← hmount, ← hrole]
    refine (Agree.refl (R := Eq) (fun _ => rfl) _).bind fun roleId _ same => ?_
    rw [← same]
    exact .ok (.appRole _ _ alike.secretId.filter)
  | kubernetes =>
    simp only [← alike.kubernetes_eq]
    refine (Agree.refl (R := Eq) (fun _ => rfl) _).bind fun role _ same => ?_
    rw [← same]
    exact .ok (.kubernetes _ _)
  | userpass =>
    simp only [← hplace, ← huser]
    refine (Agree.refl (R := Eq) (fun _ => rfl) _).bind fun username _ same => ?_
    rw [← same]
    refine (requiredSecret_alike _ _ alike.password).bind fun t t' secret => ?_
    exact .ok (.userpass _ _ secret)
  | cert =>
    rw [← alike.cert_eq]
    exact .ok (.cert _ _)

theorem shownStrategy_eq (alike : Alike c c') : c.shownStrategy = c'.shownStrategy :=
  alike.strategy.map_eq fun _ _ same => same.shown_eq

theorem shownFlow_eq (alike : Alike c c') {files files' : Files}
    (reads : ReadsAlike (files c.kubernetes.tokenFile) (files' c.kubernetes.tokenFile)) :
    c.shownFlow files = c'.shownFlow files' :=
  alike.strategy.map_eq fun _ _ same => (same.flow_shown reads).map_eq fun _ _ shown => shown

theorem toJson_eq (alike : Alike c c') : c.toJson = c'.toJson := by
  obtain ⟨hmount, hrole⟩ := alike.appRole_eq
  obtain ⟨hplace, huser⟩ := alike.userpass_eq
  simp only [toJson, AppRole.toJson, Userpass.toJson, alike.method_eq, alike.kubernetes_eq,
    alike.cert_eq, hmount, hrole, hplace, huser, alike.token.optionalSecret_eq,
    alike.secretId.optionalSecret_eq, alike.password.optionalSecret_eq]

theorem findings_eq (alike : Alike c c') : c.findings = c'.findings := by
  simp only [findings, alike.kubernetes_eq, alike.cert_eq, alike.appRole_eq.1, alike.userpass_eq.1]

end Alike

end Authentication

/-- Settings that differ in what the secrets of the login hold and in nothing else. -/
structure Alike (c c' : Settings) : Prop where
  authentication : c.authentication.Alike c'.authentication
  rest : { c with authentication := {} } = { c' with authentication := {} }

namespace Alike

variable {c c' : Settings}

theorem sections_eq (alike : Alike c c') :
    c.connection = c'.connection ∧ c.lifecycle = c'.lifecycle ∧ c.backends = c'.backends ∧
      c.observability = c'.observability := by
  have hrest := alike.rest
  simp only [Settings.mk.injEq] at hrest
  obtain ⟨hconnection, _, hlifecycle, hbackends, hobservability⟩ := hrest
  exact ⟨hconnection, hlifecycle, hbackends, hobservability⟩

theorem toJson_eq (alike : Alike c c') : c.toJson = c'.toJson := by
  obtain ⟨hconnection, hlifecycle, hbackends, hobservability⟩ := alike.sections_eq
  simp only [toJson, hconnection, hlifecycle, hbackends, hobservability,
    alike.authentication.toJson_eq]

/-- Of the login, validation looks at the method, at the mounts and at whether there is a
strategy. -/
theorem validate_eq (alike : Alike c c') : c.validate = c'.validate := by
  obtain ⟨hconnection, hlifecycle, hbackends, hobservability⟩ := alike.sections_eq
  have hfindings : c.findings = c'.findings := by
    simp only [findings, hconnection, hlifecycle, hbackends, hobservability,
      alike.authentication.findings_eq]
  have hfields : c.checkFields = c'.checkFields := by
    rw [checkFields, checkFields, hfindings]
  have hidentity : c.checkIdentity = c'.checkIdentity := by
    simp only [checkIdentity, hconnection, alike.authentication.method_eq]
  have hlast : ∀ s s', Strategy.Alike c.authentication.kubernetes.tokenFile s s' →
      (do c.checkIdentity; c.backends.check) = (do c'.checkIdentity; c'.backends.check) := by
    intro s s' _
    rw [hidentity, hbackends]
  simp only [validate, hfields, hconnection, alike.authentication.strategy.bind_eq hlast]

end Alike

end Settings

/-! ## Properties -/

/-- Of redacted properties only the names are left. -/
theorem Properties.redact_congr {p p' : Properties} (names : ∀ key, key ∈ p.keys ↔ key ∈ p'.keys) :
    p.redact = p'.redact :=
  Dict.map_const_congr names (Json.str Secret.redacted)

namespace CommandLine

/-- The merged properties that the command `properties` finds, if the agent can start. -/
def merged? (w : Surroundings) (c : Settings) : Option Properties :=
  (start w c).toOption.map fun started => started.1.source.published.properties

/-- What the command prints without an order to reveal. -/
theorem properties_redacted {w : Surroundings} {c : Settings} {p : Properties}
    (found : merged? w c = some p) (format : String) :
    (properties w c format false).map Prod.fst =
      match OutputFormat.parse? format with
      | none => .error ⟨OutputFormat.unknownMessage format, []⟩
      | some f => .ok { output := printed [p.redact.render f] } := by
  rw [merged?, Option.map_eq_some_iff] at found
  obtain ⟨⟨agent, scheduler⟩, hstart, rfl⟩ := found
  have hstart : start w c = .ok (agent, scheduler) := by
    cases h : start w c with
    | error failure => simp [h, Except.toOption] at hstart
    | ok started => simpa [h, Except.toOption] using hstart
  unfold properties
  cases OutputFormat.parse? format with
  | none => rfl
  | some f =>
    simp only [hstart]
    rfl

/-- **Credentials do not influence anything that is shown.** -/
theorem shows_no_secret :
    (∀ c c' : Settings, c.Alike c' →
      c.toJson = c'.toJson ∧ c.validate = c'.validate ∧
      c.authentication.shownStrategy = c'.authentication.shownStrategy ∧
      ∀ files files' : Files,
        ReadsAlike (files c.authentication.kubernetes.tokenFile)
          (files' c.authentication.kubernetes.tokenFile) →
        c.authentication.shownFlow files = c'.authentication.shownFlow files') ∧
    (∀ p p' : Properties, (∀ key, key ∈ p.keys ↔ key ∈ p'.keys) →
      ∀ format, p.redact.render format = p'.redact.render format) ∧
    ∀ (w w' : Surroundings) (c c' : Settings) (p p' : Properties),
      merged? w c = some p → merged? w' c' = some p' → (∀ key, key ∈ p.keys ↔ key ∈ p'.keys) →
      ∀ format, (properties w c format false).map Prod.fst =
        (properties w' c' format false).map Prod.fst := by
  refine ⟨?_, ?_, ?_⟩
  · intro c c' alike
    have login := alike.authentication
    exact ⟨alike.toJson_eq, alike.validate_eq, login.shownStrategy_eq,
      fun files files' reads => login.shownFlow_eq reads⟩
  · intro p p' names format
    rw [Properties.redact_congr names]
  · intro w w' c c' p p' found found' names format
    rw [properties_redacted found, properties_redacted found', Properties.redact_congr names]

/-! ### Two users, two service accounts and two stores -/

/-- Settings with a secret for each method that takes one. -/
def settingsWith (method : AuthMethod) (secret : String) : Settings :=
  { authentication :=
      { method
        token := some ⟨secret⟩
        appRole := { roleId := some "role", secretId := some ⟨secret⟩ }
        kubernetes := { role := some "role" }
        userpass := { username := some "alice", password := some ⟨secret⟩ } } }

/-- A server that lets everybody log in and keeps one property; one answer does for all requests. -/
def serverWith (value : String) : Surroundings where
  files := fun _ => .error .missing
  environment := fun _ => none
  network.answer := fun _ => .answered 200 <| .complete <| String.toUTF8 <|
    "\x7b\"auth\":\x7b\"client_token\":\"s\",\"lease_duration\":0,\"renewable\":false\x7d,"
      ++ "\"data\":\x7b\"data\":\x7b\"password\":\"" ++ value ++ "\"\x7d\x7d\x7d"

theorem settingsWith_alike (method : AuthMethod) :
    (settingsWith method "hunter2").Alike (settingsWith method "swordfish") :=
  ⟨⟨.present (by decide) (by decide), .present (by decide) (by decide),
    .present (by decide) (by decide), rfl⟩, rfl⟩

/-- Two users with different passwords look the same, so do two service accounts with different
tokens, and so do two servers with different values under the same name. -/
theorem shows_no_secret_swapped :
    let c := settingsWith .userpass "hunter2"
    let c' := settingsWith .userpass "swordfish"
    let account := settingsWith .kubernetes "hunter2"
    let p : Properties := Dict.ofList [("password", .str "hunter2")]
    let p' : Properties := Dict.ofList [("password", .str "swordfish")]
    (c.authentication.strategy.toOption ≠ c'.authentication.strategy.toOption ∧
      c.toJson = c'.toJson ∧ c.validate = c'.validate ∧
      c.authentication.shownStrategy = c'.authentication.shownStrategy) ∧
    account.authentication.shownFlow (fun _ => .ok "jwt-1") =
      account.authentication.shownFlow (fun _ => .ok "jwt-2") ∧
    p.redact.render .yaml = p'.redact.render .yaml ∧
    merged? (serverWith "hunter2") c = some p ∧ merged? (serverWith "swordfish") c' = some p' ∧
    (properties (serverWith "hunter2") c "json" false).map Prod.fst =
      (properties (serverWith "swordfish") c' "json" false).map Prod.fst := by
  intro c c' account p p'
  have hfound : merged? (serverWith "hunter2") c = some p := by decide +kernel
  have hfound' : merged? (serverWith "swordfish") c' = some p' := by decide +kernel
  have hnames : ∀ key, key ∈ p.keys ↔ key ∈ p'.keys := fun _ => Iff.rfl
  obtain ⟨hlogin, hredact, hcommand⟩ := shows_no_secret
  obtain ⟨hjson, hverdict, hstrategy, _⟩ := hlogin c c' (settingsWith_alike .userpass)
  obtain ⟨_, _, _, hflow⟩ :=
    hlogin account (settingsWith .kubernetes "swordfish") (settingsWith_alike .kubernetes)
  refine ⟨⟨by decide, hjson, hverdict, hstrategy⟩, ?_, hredact p p' hnames .yaml, hfound, hfound',
    hcommand _ _ _ _ p p' hfound hfound' hnames "json"⟩
  exact hflow _ _ (.present (by decide) (by decide))

end CommandLine

end SecretConfig
