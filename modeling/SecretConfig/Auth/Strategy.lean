import SecretConfig.Error
import SecretConfig.Json.Value
import SecretConfig.Secret
import SecretConfig.Text.Quoted

set_option autoImplicit false

/-! # Authentication strategies

A strategy says how a session obtains its token. Its flow is what a client has to do: check a
token that is there already, or post a body to a login path. Only the strategy for service
accounts reads a file. Shown strategies and flows never hold a secret. -/

namespace SecretConfig

/-- How a session obtains its token. -/
inductive Strategy where
  /-- Use the given token. -/
  | token (token : Secret)
  | appRole (mount roleId : String) (secretId : Option Secret)
  /-- Log in with the service account token in a file. -/
  | kubernetes (mount role jwtPath : String)
  | userpass (mount username : String) (password : Secret)
  /-- Log in with the certificate of the connection. -/
  | cert (mount : String) (name : Option String)
deriving DecidableEq, Inhabited

/-- What a client does to obtain a token. -/
inductive LoginFlow where
  /-- Check a token and learn its lease. -/
  | static (token : Secret)
  /-- Post a body to a path. -/
  | login (method : AuthMethod) (path : String) (body : Dict Json)
deriving DecidableEq, Inhabited

namespace LoginFlow

/-- The method of a flow. -/
def method : LoginFlow → AuthMethod
  | static _ => .token
  | login m _ _ => m

/-- The flow as it is shown: of a body only the keys. -/
def shown : LoginFlow → String
  | static _ => Text.shownRecord "Static" [("token", Secret.shown)]
  | login m path body => Text.shownRecord "Login"
      [("method", Text.quoted m.name), ("path", Text.quoted path),
       ("body_keys", Text.bracketed (body.keys.map Text.quoted))]

end LoginFlow

namespace Strategy

/-- The method of a strategy. -/
def method : Strategy → AuthMethod
  | token _ => .token
  | appRole _ _ _ => .appRole
  | kubernetes _ _ _ => .kubernetes
  | userpass _ _ _ => .userpass
  | cert _ _ => .cert

/-- The strategy as it is shown. -/
def shown : Strategy → String
  | token _ => Text.shownRecord "Token" [("token", Secret.shown)]
  | appRole mount roleId secretId => Text.shownRecord "AppRole"
      [("mount", Text.quoted mount), ("role_id", Text.quoted roleId),
       ("secret_id", Text.optional (secretId.map fun _ => Secret.shown))]
  | kubernetes mount role jwtPath => Text.shownRecord "Kubernetes"
      [("mount", Text.quoted mount), ("role", Text.quoted role), ("jwt_path", Text.quoted jwtPath)]
  | userpass mount username _ => Text.shownRecord "Userpass"
      [("mount", Text.quoted mount), ("username", Text.quoted username),
       ("password", Secret.shown)]
  | cert mount name => Text.shownRecord "Cert"
      [("mount", Text.quoted mount), ("name", Text.optional (name.map Text.quoted))]

/-- The login path of a mount. -/
def loginPath (mount : String) : String := "auth/" ++ Text.strip (· = '/') mount ++ "/login"

/-- A body with text members. -/
def body (members : List (String × String)) : Dict Json :=
  Dict.ofList (members.map fun m => (m.1, .str m.2))

/-- The flow of a strategy, over the files that it may read. -/
def flow (files : Files) : Strategy → Except AuthenticationFault LoginFlow
  | token t => if t.isBlank then .error .blankToken else .ok (.static t)
  | appRole mount roleId secretId =>
    .ok (.login .appRole (loginPath mount)
      (body (("role_id", roleId) :: (secretId.map fun s => ("secret_id", s.value)).toList)))
  | kubernetes mount role jwtPath =>
    match files jwtPath with
    | .error reason => .error (.unreadableServiceToken jwtPath reason)
    | .ok text =>
      match Text.nonBlank? text with
      | none => .error (.emptyServiceToken jwtPath)
      | some jwt => .ok (.login .kubernetes (loginPath mount) (body [("role", role), ("jwt", jwt)]))
  | userpass mount username password =>
    .ok (.login .userpass (loginPath mount ++ "/" ++ username)
      (body [("password", password.value)]))
  | cert mount name =>
    .ok (.login .cert (loginPath mount) (body ((name.map fun n => ("name", n)).toList)))

/-- The texts that the strategy keeps secret. -/
def secrets : Strategy → List (Option Secret)
  | token t => [some t]
  | appRole _ _ secretId => [secretId]
  | userpass _ _ password => [some password]
  | kubernetes _ _ _ | cert _ _ => []

end Strategy

end SecretConfig
