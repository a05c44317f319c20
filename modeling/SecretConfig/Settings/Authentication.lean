import SecretConfig.Auth.Strategy
import SecretConfig.Settings.Connection

set_option autoImplicit false

/-! # Settings of the login

There is a section for each method, and the strategy is made from the section of the method
that is selected. -/

namespace SecretConfig.Settings

/-- Settings of a login with a role id. -/
structure AppRole where
  mount : String := "approle"
  roleId : Option String := none
  secretId : Option Secret := none
deriving DecidableEq, Inhabited

/-- Settings of a login with a service account. -/
structure Kubernetes where
  mount : String := "kubernetes"
  role : Option String := none
  /-- The file with the token of the service account. -/
  tokenFile : String := "/var/run/secrets/kubernetes.io/serviceaccount/token"
deriving DecidableEq, Inhabited

/-- Settings of a login with a user name and a password. -/
structure Userpass where
  mount : String := "userpass"
  username : Option String := none
  password : Option Secret := none
deriving DecidableEq, Inhabited

/-- Settings of a login with a certificate. -/
structure Cert where
  mount : String := "cert"
  /-- The role to log in to; the store picks one where none is named. -/
  name : Option String := none
deriving DecidableEq, Inhabited

/-- How to log in. -/
structure Authentication where
  method : AuthMethod := .token
  token : Option Secret := none
  appRole : AppRole := {}
  kubernetes : Kubernetes := {}
  userpass : Userpass := {}
  cert : Cert := {}
deriving DecidableEq, Inhabited

/-! ## Reading and writing -/

/-- Read the section. -/
def AppRole.ofTree? (t : Tree) : Option AppRole := do
  let fs ← t.fields? ["mount", "role_id", "secret_id"]
  let d : AppRole := {}
  return {
    mount := ← fs.withDefault "mount" d.mount Tree.asText?
    roleId := ← fs.withDefault "role_id" d.roleId (Tree.asOption? Tree.asText?)
    secretId := ← fs.withDefault "secret_id" d.secretId (Tree.asOption? readSecret?) }

/-- Write the section. -/
def AppRole.toJson (c : AppRole) : Json :=
  Json.object
    [("mount", .str c.mount), ("role_id", optionalText c.roleId),
     ("secret_id", optionalSecret c.secretId)]

/-- Read the section. -/
def Kubernetes.ofTree? (t : Tree) : Option Kubernetes := do
  let fs ← t.fields? ["mount", "role", "service_account_token_file"]
  let d : Kubernetes := {}
  return {
    mount := ← fs.withDefault "mount" d.mount Tree.asText?
    role := ← fs.withDefault "role" d.role (Tree.asOption? Tree.asText?)
    tokenFile := ← fs.withDefault "service_account_token_file" d.tokenFile Tree.asText? }

/-- Write the section. -/
def Kubernetes.toJson (c : Kubernetes) : Json :=
  Json.object
    [("mount", .str c.mount), ("role", optionalText c.role),
     ("service_account_token_file", .str c.tokenFile)]

/-- Read the section. -/
def Userpass.ofTree? (t : Tree) : Option Userpass := do
  let fs ← t.fields? ["mount", "username", "password"]
  let d : Userpass := {}
  return {
    mount := ← fs.withDefault "mount" d.mount Tree.asText?
    username := ← fs.withDefault "username" d.username (Tree.asOption? Tree.asText?)
    password := ← fs.withDefault "password" d.password (Tree.asOption? readSecret?) }

/-- Write the section. -/
def Userpass.toJson (c : Userpass) : Json :=
  Json.object
    [("mount", .str c.mount), ("username", optionalText c.username),
     ("password", optionalSecret c.password)]

/-- Read the section. -/
def Cert.ofTree? (t : Tree) : Option Cert := do
  let fs ← t.fields? ["mount", "name"]
  let d : Cert := {}
  return {
    mount := ← fs.withDefault "mount" d.mount Tree.asText?
    name := ← fs.withDefault "name" d.name (Tree.asOption? Tree.asText?) }

/-- Write the section. -/
def Cert.toJson (c : Cert) : Json :=
  Json.object [("mount", .str c.mount), ("name", optionalText c.name)]

namespace Authentication

/-- Read the section. -/
def ofTree? (t : Tree) : Option Authentication := do
  let fs ← t.fields? ["method", "token", "app_role", "kubernetes", "userpass", "cert"]
  let d : Authentication := {}
  return {
    method := ← fs.withDefault "method" d.method (Tree.asChoice? AuthMethod.ofName?)
    token := ← fs.withDefault "token" d.token (Tree.asOption? readSecret?)
    appRole := ← fs.withDefault "app_role" d.appRole AppRole.ofTree?
    kubernetes := ← fs.withDefault "kubernetes" d.kubernetes Kubernetes.ofTree?
    userpass := ← fs.withDefault "userpass" d.userpass Userpass.ofTree?
    cert := ← fs.withDefault "cert" d.cert Cert.ofTree? }

/-- Write the section. -/
def toJson (c : Authentication) : Json :=
  Json.object
    [("method", .str c.method.name), ("token", optionalSecret c.token),
     ("app_role", c.appRole.toJson), ("kubernetes", c.kubernetes.toJson),
     ("userpass", c.userpass.toJson), ("cert", c.cert.toJson)]

/-! ## The strategy -/

/-- A text that must not be blank, trimmed. -/
def requiredText (method : AuthMethod) (field : String) (value : Option String) :
    Except Error String :=
  match value.bind Text.nonBlank? with
  | some v => .ok v
  | none => .error (.validation (.methodRequires method field))

/-- A secret that must not be blank, as it is. -/
def requiredSecret (method : AuthMethod) (field : String) (value : Option Secret) :
    Except Error Secret :=
  match value.filter (fun s => !s.isBlank) with
  | some s => .ok s
  | none => .error (.validation (.methodRequires method field))

/-- The strategy of the selected method. -/
def strategy (c : Authentication) : Except Error Strategy :=
  match c.method with
  | .token => do
    return .token (← requiredSecret .token "authentication.token" c.token)
  | .appRole => do
    let roleId ← requiredText .appRole "authentication.app_role.role_id" c.appRole.roleId
    return .appRole c.appRole.mount roleId (c.appRole.secretId.filter (fun s => !s.isBlank))
  | .kubernetes => do
    let role ← requiredText .kubernetes "authentication.kubernetes.role" c.kubernetes.role
    return .kubernetes c.kubernetes.mount role c.kubernetes.tokenFile
  | .userpass => do
    let username ← requiredText .userpass "authentication.userpass.username" c.userpass.username
    let password ←
      requiredSecret .userpass "authentication.userpass.password" c.userpass.password
    return .userpass c.userpass.mount username password
  | .cert => .ok (.cert c.cert.mount (c.cert.name.bind Text.nonBlank?))

end Authentication

end SecretConfig.Settings
