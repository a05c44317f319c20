import SecretConfig.Json.Value

set_option autoImplicit false

/-! # Writing JSON

`Json.compact` writes a value without blanks, `Json.indented` with two spaces for each
level. Inside a string only the quote, the backslash and the control characters below
`U+0020` are escaped. -/

namespace SecretConfig

/-- The text of a number. -/
def Number.text : Number → String
  | .int i => toString i
  | .real x => x.text

namespace Json

/-- A hexadecimal digit in lower case. -/
def hexDigit (n : Nat) : Char :=
  if n < 10 then Char.ofNat ('0'.toNat + n) else Char.ofNat ('a'.toNat + (n - 10))

/-- A character as it stands inside a written string. -/
def escapeChar (c : Char) : List Char :=
  match c with
  | '"' => ['\\', '"']
  | '\\' => ['\\', '\\']
  | '\n' => ['\\', 'n']
  | '\r' => ['\\', 'r']
  | '\t' => ['\\', 't']
  | '\x08' => ['\\', 'b']
  | '\x0c' => ['\\', 'f']
  | c =>
    if c.toNat < 0x20 then ['\\', 'u', '0', '0', hexDigit (c.toNat / 16), hexDigit (c.toNat % 16)]
    else [c]

/-- A text between quotes, with its escapes. -/
def quote (s : String) : String :=
  String.ofList ('"' :: s.toList.flatMap escapeChar ++ ['"'])

mutual

/-- A value without blanks. -/
def compact : Json → String
  | null => "null"
  | bool b => if b then "true" else "false"
  | num n => n.text
  | str s => quote s
  | arr items => "[" ++ ",".intercalate (compactItems items) ++ "]"
  | obj fields => "\x7b" ++ ",".intercalate (compactFields fields) ++ "\x7d"

/-- The texts of the items. -/
def compactItems : List Json → List String
  | [] => []
  | v :: rest => compact v :: compactItems rest

/-- The texts of the members. -/
def compactFields : List (String × Json) → List String
  | [] => []
  | (k, v) :: rest => (quote k ++ ":" ++ compact v) :: compactFields rest

end

/-- The blanks in front of a line of a level. -/
def indent (level : Nat) : String := String.ofList (List.replicate (2 * level) ' ')

/-- Lines of a level between brackets; no lines leave the brackets empty. -/
def block (opening closing : String) (level : Nat) (lines : List String) : String :=
  if lines.isEmpty then opening ++ closing
  else
    opening ++ "\n" ++ ",\n".intercalate (lines.map (indent (level + 1) ++ ·)) ++ "\n"
      ++ indent level ++ closing

mutual

/-- A value with one line for each item and member, at a level of nesting. -/
def indentedAt (level : Nat) : Json → String
  | arr items => block "[" "]" level (indentedItems (level + 1) items)
  | obj fields => block "\x7b" "\x7d" level (indentedFields (level + 1) fields)
  | null => "null"
  | bool b => if b then "true" else "false"
  | num n => n.text
  | str s => quote s

/-- The texts of the items at a level. -/
def indentedItems (level : Nat) : List Json → List String
  | [] => []
  | v :: rest => indentedAt level v :: indentedItems level rest

/-- The texts of the members at a level. -/
def indentedFields (level : Nat) : List (String × Json) → List String
  | [] => []
  | (k, v) :: rest => (quote k ++ ": " ++ indentedAt level v) :: indentedFields level rest

end

/-- A value with two spaces for each level of nesting. -/
def indented (v : Json) : String := indentedAt 0 v

end Json

end SecretConfig
