import SecretConfig.Property.Flatten
import SecretConfig.Secret
import SecretConfig.Yaml.Printer

set_option autoImplicit false

/-! # Rendering properties

Properties are printed as JSON, as YAML or as `key = value` lines. Redacting them keeps the
names and drops every value. -/

namespace SecretConfig

/-- How properties are printed. -/
inductive OutputFormat where
  | json
  | yaml
  | table
deriving DecidableEq, Repr, Inhabited

namespace OutputFormat

/-- The format that a text names, in any case. No character outside of ASCII has one of the
letters of these names as its lower case. -/
def parse? (s : String) : Option OutputFormat :=
  match Text.asciiLower s with
  | "json" => some json
  | "yaml" => some yaml
  | "table" => some table
  | _ => none

/-- What is said about a text that names no format. -/
def unknownMessage (s : String) : String :=
  "Unsupported output format: '" ++ s ++ "'. Use 'json', 'yaml', or 'table'."

end OutputFormat

namespace Properties

/-- Keep the names and put the text that stands for secrets in the place of every value. -/
def redact (p : Properties) : Properties := p.map fun _ => Json.str Secret.redacted

/-- The text of a value in a line: a text stands for itself. -/
def valueText : Json → String
  | .str s => s
  | v => v.compact

/-- Print properties. -/
def render (p : Properties) : OutputFormat → String
  | .json => (Json.ofDict p).indented
  | .yaml => Yaml.print (Json.ofDict p)
  | .table => "\n".intercalate (p.entries.map fun e => e.1 ++ " = " ++ valueText e.2)

end Properties

end SecretConfig
