set_option autoImplicit false

/-! # Files

A run sees the files as a function from a path to a text or the reason why none can be read. -/

namespace SecretConfig

/-- Why a file cannot be read as text. -/
inductive FileFault where
  | missing
  | directory
  | notDirectory
  | denied
  | notText
deriving DecidableEq, Repr, Inhabited

namespace FileFault

/-- The text of a fault. -/
def message : FileFault → String
  | missing => "No such file or directory (os error 2)"
  | directory => "Is a directory (os error 21)"
  | notDirectory => "Not a directory (os error 20)"
  | denied => "Permission denied (os error 13)"
  | notText => "stream did not contain valid UTF-8"

end FileFault

/-- The text of the file at a path, or why there is none. -/
abbrev Files := String → Except FileFault String

end SecretConfig
