import SecretConfig.Text.Blank

set_option autoImplicit false

/-! # Ways to authenticate -/

namespace SecretConfig

/-- How a session obtains its token. -/
inductive AuthMethod where
  | token
  | appRole
  | kubernetes
  | userpass
  | cert
deriving DecidableEq, Repr, Inhabited

namespace AuthMethod

/-- The name of a method. -/
def name : AuthMethod → String
  | token => "token"
  | appRole => "approle"
  | kubernetes => "kubernetes"
  | userpass => "userpass"
  | cert => "cert"

/-- The name under which a method is shown. -/
def shown : AuthMethod → String
  | token => "Token"
  | appRole => "AppRole"
  | kubernetes => "Kubernetes"
  | userpass => "Userpass"
  | cert => "Cert"

/-- All methods. -/
def all : List AuthMethod := [token, appRole, kubernetes, userpass, cert]

/-- The method of a name. -/
def ofName? (s : String) : Option AuthMethod := all.find? (fun m => m.name = s)

/-- The text as it is compared with the names: trimmed, and `A` to `Z` in lower case. -/
def normalize (s : String) : String := Text.asciiLower (Text.trim s)

/-- The method that a text names, whatever its case and the blanks around it. -/
def parse? (s : String) : Option AuthMethod := ofName? (normalize s)

theorem ofName?_name (m : AuthMethod) : ofName? m.name = some m := by cases m <;> decide

theorem mem_all (m : AuthMethod) : m ∈ all := by cases m <;> decide

end AuthMethod

end SecretConfig
