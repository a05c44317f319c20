import SecretConfig.Settings.Environment
import SecretConfig.Settings.Validation
import SecretConfig.Toml.Document
import SecretConfig.Yaml.Document

set_option autoImplicit false

/-! # Loading settings

The end of a file's name decides how it is read: `yaml` and `yml` are YAML, `toml` and no end
at all are TOML. What the file says is overridden from the environment and then validated. -/

namespace SecretConfig.Settings

/-- The formats of settings files. -/
inductive FileFormat where
  | toml
  | yaml
deriving DecidableEq, Repr, Inhabited

/-- The last part of a path, unless it leads to the directory above. -/
def fileName? (path : String) : Option (List Char) :=
  let parts := (path.splitOn "/").map String.toList
  match (parts.filter fun p => !p.isEmpty && p ≠ ['.']).getLast? with
  | some p => if p = ['.', '.'] then none else some p
  | none => none

/-- What stands behind the last dot of a file's name, unless that dot begins the name. -/
def extension? (path : String) : Option String :=
  match fileName? path with
  | none => none
  | some name =>
    let tail := (name.reverse.takeWhile (· ≠ '.')).reverse
    if tail.length + 1 < name.length then some (String.ofList tail) else none

/-- The format of a file. -/
def format? (path : String) : Except Error FileFormat :=
  match extension? path with
  | some "yaml" | some "yml" => .ok .yaml
  | some "toml" | none => .ok .toml
  | some other => .error (.configuration (.unsupportedFormat other))

/-- The settings that a text of a format describes. -/
def ofText (format : FileFormat) (text : String) : Except Error Settings :=
  match format with
  | .yaml =>
    match (Yaml.read? text).bind ofTree? with
    | some c => .ok c
    | none => .error (.configuration .invalidYaml)
  | .toml =>
    match (Toml.read? text).bind ofTree? with
    | some c => .ok c
    | none => .error (.configuration .invalidToml)

/-- The settings in a file. -/
def ofFile (files : Files) (path : String) : Except Error Settings :=
  match files path with
  | .error reason => .error (.file ("Failed to read configuration file " ++ path) reason)
  | .ok text => do ofText (← format? path) text

/-- The settings of a file, if one is named, as the environment changes them; they must be
valid. -/
def load (files : Files) (env : Environment) (path : Option String) : Except Error Settings := do
  let c ← match path with
    | some p => ofFile files p
    | none => .ok {}
  let (c, fault) := c.applyEnvironment env
  if let some e := fault then .error e
  c.validate
  return c

end SecretConfig.Settings
