import SecretConfig.Text.Blank

set_option autoImplicit false

/-! # Secrets

A text that is never shown: whatever it holds, it is shown and written by one fixed text. -/

namespace SecretConfig

/-- A text whose content is never shown. -/
structure Secret where
  value : String
deriving DecidableEq, Inhabited

namespace Secret

/-- What stands for a secret in written documents. -/
def redacted : String := "[REDACTED]"

/-- What stands for a secret in a shown value. -/
def shown : String := "SecretString(" ++ redacted ++ ")"

/-- The secret holds nothing but blanks. -/
def isBlank (s : Secret) : Bool := Text.isAllBlank s.value

end Secret

end SecretConfig
