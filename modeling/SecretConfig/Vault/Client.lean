import SecretConfig.Session.Machine
import SecretConfig.Settings.Connection
import SecretConfig.Store.Payload
import SecretConfig.Vault.Bundle
import SecretConfig.Vault.Envelope
import SecretConfig.Vault.Http

set_option autoImplicit false

/-! # The client of a server

Every request goes to `address/v1/path`. A refusal is told apart by its status: 404 is
nothing at the path, 400 a bad request, 401 and 403 a lack of rights, 429 and all from 500 on
a server that cannot serve. An exchange that fails before there is an answer makes the store
unavailable. The client does nothing but turn requests and exchanges into each other; the
network is a parameter. -/

namespace SecretConfig.Vault

/-- A client. -/
structure Client where
  /-- The address, without slashes at its end. -/
  address : String
  scope : Option String := none
  requestTimeout : Duration
deriving DecidableEq, Repr, Inhabited

namespace Client

/-! ## Setting up -/

/-- The text of a file, in which bytes that are no text hold no section. -/
def readBundle (files : Files) (what path : String) : Except Error String :=
  match files path with
  | .ok text => .ok text
  | .error .notText => .ok ""
  | .error reason => .error (.file ("failed to read " ++ what ++ " " ++ path) reason)

/-- Check a file of certificates to trust; the fault shows when the connection is set up. -/
def checkTrust (files : Files) (path : String) : Except Error Bool := do
  let text ← readBundle files "CA certificate" path
  match Section.all? text with
  | none => return false
  | some sections => return (sections.filter Section.isCertificate).all Section.isSequence

/-- Check a file with a certificate and a key; whether they fit shows when the connection is
set up. -/
def checkIdentity (files : Files) (path : String) : Except Error Bool := do
  let text ← readBundle files "client identity" path
  match Section.all? text with
  | none => .error (.configuration .invalidIdentity)
  | some sections =>
    let known := sections.filter fun s => s.isCertificate || s.isKey
    if known.any Section.isCertificate ∧ known.any Section.isKey then
      return known.all Section.isSequence
    else .error (.configuration .invalidIdentity)

/-- A check that is left out where there is no file. -/
def checkFile (check : String → Except Error Bool) : Option String → Except Error Bool
  | none => .ok true
  | some path => check path

/-- The client of a connection. -/
def ofConnection (files : Files) (c : Settings.Connection) : Except Error Client := do
  let trust ← checkFile (checkTrust files) c.caCertPath
  let identity ← checkFile (checkIdentity files) c.identityPath
  if trust ∧ identity then
    return {
      address := String.ofList ((c.address.toList.reverse.dropWhile (· = '/')).reverse)
      scope := c.scope.filter fun s => !Text.isAllBlank s
      requestTimeout := Settings.seconds c.requestTimeout }
  else .error (.configuration .unusableConnection)

/-! ## Requests -/

/-- The address of a path. -/
def addressOf (c : Client) (path : String) : String :=
  c.address ++ "/v1/" ++ String.ofList (path.toList.dropWhile (· = '/'))

/-- The value can be sent in a header. -/
def isHeaderValue (s : String) : Bool :=
  s.toList.all fun ch => ch = '\t' || (0x20 ≤ ch.toNat && ch.toNat ≠ 0x7F)

/-- The fault of a request that cannot be built. -/
def unbuilt (u : Option Url) : StoreFault :=
  .unavailable ("builder error" ++ match u with
    | none => ""
    | some u => " for url (" ++ { u with user := [] }.text ++ ")")

/-- A request for a path, or why it cannot be built. -/
def prepare (c : Client) (method : HttpMethod) (path : String) (token : Option Token)
    (body : Option Json) : Except StoreFault HttpRequest :=
  match Url.parse? (c.addressOf path) with
  | .error _ => .error (unbuilt none)
  | .ok url =>
    let value := token.map fun t => t.value.value
    if ¬url.hasHost then .error (unbuilt (some url))
    else if ¬(value.all isHeaderValue ∧ c.scope.all isHeaderValue) then .error (unbuilt none)
    else if url.scheme = "http" ∨ url.scheme = "https" then
      .ok { method, url, token := value, scope := c.scope, body }
    else .error (unbuilt (some url))

/-! ## Answers -/

/-- The fault that a refusal stands for. -/
def refusal (path : String) (status : Nat) (body : ResponseBody) : StoreFault :=
  let errors := match body with
    | .complete bytes => errorsOf bytes
    | .broken _ => []
  let message := if errors.isEmpty then statusText status else "; ".intercalate errors
  if status = 404 then .notFound path
  else if status = 400 then .invalidRequest message
  else if status = 401 ∨ status = 403 then .unauthorized message
  else if status = 429 then .unavailable message
  else if isServerError status then .unavailable (statusText status ++ ": " ++ message)
  else .invalidResponse ("unexpected status " ++ statusText status ++ ": " ++ message)

/-- The status and body of an answer that is no refusal. -/
def accepted (c : Client) (operation path : String) :
    Exchange → Except StoreFault (Nat × ResponseBody)
  | .failed report => .error (.unavailable report)
  | .timedOut => .error (.timedOutAfter operation c.requestTimeout)
  | .answered status body =>
    if isSuccess status then .ok (status, body) else .error (refusal path status body)

/-- The envelope of an answer; an answer without a body has an empty one. -/
def envelope (net : Network) : Nat × ResponseBody → Except StoreFault Envelope
  | (status, body) =>
    if status = 204 then .ok {}
    else
      match body with
      | .broken report => .error (.invalidResponse ("failed to read body: " ++ report))
      | .complete bytes =>
        if bytes.isEmpty then .ok {}
        else
          match Envelope.ofBytes? bytes with
          | some e => .ok e
          | none => .error (.invalidResponse (net.bodyReport bytes))

/-- Send a request and take the answer, unless it is a refusal. -/
def execute (c : Client) (net : Network) (operation : String) (method : HttpMethod)
    (path : String) (token : Option Token) (body : Option Json) :
    Except StoreFault (Nat × ResponseBody) := do
  let request ← c.prepare method path token body
  c.accepted operation path (net request)

/-! ## Operations -/

/-- A grant of a lease given in seconds. -/
def grantOf (value : String) (seconds : Nat) (renewable : Bool) : Grant :=
  ⟨value, seconds * 1000, renewable⟩

/-- Log in: check a token, or post what the login asks for. -/
def login (c : Client) (net : Network) : LoginFlow → Except StoreFault Grant
  | .static t => do
    let probe : Token := ⟨t, 0, false, 0, .static⟩
    let e ← envelope net (← c.execute net "lookup" .get "auth/token/lookup-self" (some probe) none)
    match e.data with
    | none => .error (.invalidResponse "token lookup returned no data")
    | some data =>
      match TokenLookup.ofJson? data with
      | none => .error (.invalidResponse (net.dataReport data))
      | some found => return grantOf t.value found.ttlSeconds found.renewable
  | .login _ path body => do
    let e ← envelope net (← c.execute net "login" .post path none (some (Json.ofDict body)))
    match e.auth with
    | none => .error (.invalidResponse "login response has no auth block")
    | some auth =>
      if auth.clientToken.isEmpty then
        .error (.invalidResponse "login response has no client token")
      else return grantOf auth.clientToken auth.leaseSeconds auth.renewable

/-- Renew a token. -/
def renew (c : Client) (net : Network) (t : Token) : Except StoreFault Grant := do
  let e ← envelope net
    (← c.execute net "renew" .post "auth/token/renew-self" (some t) (some (Json.object [])))
  match e.auth with
  | none => .error (.invalidResponse "renewal response has no auth block")
  | some auth => return grantOf t.value.value auth.leaseSeconds auth.renewable

/-- Revoke a token. -/
def revoke (c : Client) (net : Network) (t : Token) : Except StoreFault Unit := do
  let _ ← c.execute net "revoke" .post "auth/token/revoke-self" (some t) none

/-- The payload in an envelope. -/
def payload (path : String) (e : Envelope) : ReadAnswer :=
  match e.data with
  | none | some .null => .ok none
  | some (.obj fields) =>
    let lease : Option Lease :=
      if e.leaseId.isEmpty ∧ e.leaseSeconds = 0 then none
      else some ⟨e.leaseId, e.leaseSeconds * 1000, e.renewable⟩
    .ok (some ⟨Dict.ofList fields, lease⟩)
  | some other =>
    .error (.invalidResponse
      ("expected an object at '" ++ path ++ "', got " ++ other.compact))

/-- Read what stands at a path. -/
def read (c : Client) (net : Network) (path : String) (t : Token) : ReadAnswer :=
  match c.execute net "read" .get path (some t) none with
  | .ok answer => do payload path (← envelope net answer)
  | .error (.notFound _) => .ok none
  | .error fault => .error fault

/-- Write an object at a path. -/
def write (c : Client) (net : Network) (path : String) (t : Token) (data : Dict Json) :
    Except StoreFault Unit := do
  let _ ← c.execute net "write" .post path (some t) (some (Json.ofDict data))

end Client

end SecretConfig.Vault
