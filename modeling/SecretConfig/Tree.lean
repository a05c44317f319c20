import SecretConfig.Json.Document

set_option autoImplicit false

/-! # Configuration trees

One tree for the documents that settings are read from. A scalar of a typed format is a
`bool`, an `int` or a `str`; a scalar of an untyped format is kept as its text, and it is the
field that decides what the text means.

The readers below answer `none` where a tree does not fit. A record is read from a map, in
which a known key must not be repeated and an unknown one is skipped, or from a list of its
fields in order where the format admits that. -/

namespace SecretConfig

/-- How an untyped scalar is written. -/
inductive ScalarForm where
  /-- Without quotes. -/
  | plain
  /-- Between quotes, or as a block of lines. -/
  | quoted
  /-- Without quotes, after a tag. -/
  | tagged
deriving DecidableEq, Repr, Inhabited

/-- A configuration document. -/
inductive Tree where
  | null
  | bool (value : Bool)
  | int (value : Int)
  /-- A number that no setting can hold. -/
  | real
  | str (text : String)
  /-- A scalar without a type of its own. -/
  | scalar (text : String) (form : ScalarForm)
  /-- A list; `positional` when it may stand for a record. -/
  | seq (items : List Tree) (positional : Bool)
  | map (fields : List (String × Tree))
deriving Repr, Inhabited

namespace Tree

mutual

/-- The tree of a JSON value. -/
def ofJson : Json → Tree
  | .null => null
  | .bool b => bool b
  | .num (.int i) => int i
  | .num (.real _) => real
  | .str s => str s
  | .arr items => seq (ofJsonItems items) true
  | .obj fields => map (ofJsonFields fields)

/-- The trees of the items. -/
def ofJsonItems : List Json → List Tree
  | [] => []
  | v :: rest => ofJson v :: ofJsonItems rest

/-- The trees of the members. -/
def ofJsonFields : List (String × Json) → List (String × Tree)
  | [] => []
  | (k, v) :: rest => (k, ofJson v) :: ofJsonFields rest

end

/-! ## Untyped scalars -/

/-- The texts that mean nothing at all. -/
def isNullWord (s : String) : Bool := s ∈ ["null", "Null", "NULL", "~"]

/-- The truth value that a text means. -/
def boolWord? (s : String) : Option Bool :=
  if s ∈ ["true", "True", "TRUE"] then some true
  else if s ∈ ["false", "False", "FALSE"] then some false
  else none

/-- The value of a digit in a base of at most 16. -/
def digitValue? (base : Nat) (c : Char) : Option Nat :=
  match Json.Document.hexValue? c with
  | some d => if d < base then some d else none
  | none => none

/-- The number that digits of a base write; there must be one. -/
def digits? (base : Nat) (cs : List Char) : Option Nat :=
  if cs.isEmpty then none
  else cs.foldl (fun acc c => do return (← acc) * base + (← digitValue? base c)) (some 0)

/-- A zero with further digits behind it, after at most one sign, is no number. -/
def isZeroPadded (cs : List Char) : Bool :=
  let body := match cs with
    | '-' :: rest | '+' :: rest => rest
    | rest => rest
  match body with
  | '0' :: rest => !rest.isEmpty && rest.all Char.isDigit
  | _ => false

/-- The digits after `0x`, `0o` or `0b`. -/
def radixDigits? : List Char → Option Nat
  | '0' :: 'x' :: rest => digits? 16 rest
  | '0' :: 'o' :: rest => digits? 8 rest
  | '0' :: 'b' :: rest => digits? 2 rest
  | _ => none

/-- The integer that a text means: decimal, or hexadecimal, octal or binary after `0x`, `0o`
or `0b`, with at most one sign in front. -/
def intWord? (s : String) : Option Int :=
  let cs := s.toList
  let (negative, body) := match cs with
    | '-' :: rest => (true, rest)
    | '+' :: rest => (false, rest)
    | rest => (false, rest)
  let magnitude := match radixDigits? body with
    | some n => some n
    | none => if isZeroPadded cs then none else digits? 10 body
  magnitude.map (fun n => if negative then -(n : Int) else n)

/-! ## Reading fields -/

/-- A text. An untyped scalar is the text it is written with. -/
def asText? : Tree → Option String
  | str s => some s
  | scalar s _ => some s
  | _ => none

/-- A truth value. -/
def asBool? : Tree → Option Bool
  | bool b => some b
  | scalar s form => if form = .quoted then none else boolWord? s
  | _ => none

/-- An integer. -/
def asInt? : Tree → Option Int
  | int i => some i
  | scalar s form => if form = .quoted then none else intWord? s
  | _ => none

/-- A natural number below a bound. In an untyped scalar it has no minus sign, not even at
zero. -/
def asNatBelow? (bound : Nat) (t : Tree) : Option Nat :=
  let signed : Bool := match t with
    | scalar s _ => s.toList.head? == some '-'
    | _ => false
  match t.asInt? with
  | some i => if 0 ≤ i ∧ i < (bound : Int) ∧ signed = false then some i.toNat else none
  | none => none

/-- A 64-bit natural number. -/
def asUInt64? (t : Tree) : Option UInt64 := (t.asNatBelow? UInt64.size).map UInt64.ofNat

/-- A 16-bit natural number. -/
def asUInt16? (t : Tree) : Option UInt16 := (t.asNatBelow? UInt16.size).map UInt16.ofNat

/-- A 32-bit integer. -/
def asInt32? (t : Tree) : Option Int32 :=
  match t.asInt? with
  | some i =>
    if Int32.minValue.toInt ≤ i ∧ i ≤ Int32.maxValue.toInt then some (Int32.ofInt i) else none
  | none => none

/-- A value that may be absent. -/
def asOption? {α : Type} (read : Tree → Option α) : Tree → Option (Option α)
  | null => some none
  | scalar s .plain =>
    if s.isEmpty ∨ isNullWord s then some none else (read (scalar s .plain)).map some
  | t => (read t).map some

/-- All items of a list. -/
def readAll {α : Type} (read : Tree → Option α) : List Tree → Option (List α)
  | [] => some []
  | t :: rest =>
    match read t, readAll read rest with
    | some a, some as => some (a :: as)
    | _, _ => none

/-- A list of values; an empty untyped scalar is the empty list. -/
def asList? {α : Type} (read : Tree → Option α) : Tree → Option (List α)
  | seq items _ => readAll read items
  | scalar s _ => if s.isEmpty then some [] else none
  | _ => none

/-- One of a list of named values: its name, or a map of its name alone to nothing. -/
def asChoice? {α : Type} (read : String → Option α) : Tree → Option α
  | map [(name, value)] =>
    match value with
    | null => read name
    | _ => none
  | t => t.asText?.bind read

/-- The fields of a record. -/
structure Fields where
  /-- A value for each name of the record, where there is one. -/
  values : List (String × Option Tree)
  /-- The fields came in order and not by name. -/
  positional : Bool

/-- The value of a key that must not be repeated: `none` for a repeated key. -/
def single? (key : String) (fields : List (String × Tree)) : Option (Option Tree) :=
  match fields.filter (fun f => f.1 = key) with
  | [] => some none
  | [f] => some (some f.2)
  | _ => none

/-- Pair names with values in order; names left over have none. -/
def pairUp : List String → List Tree → List (String × Option Tree)
  | [], _ => []
  | n :: ns, [] => (n, none) :: pairUp ns []
  | n :: ns, t :: ts => (n, some t) :: pairUp ns ts

/-- The value of every name; `none` when a name is repeated. -/
def namedFields (fields : List (String × Tree)) : List String → Option (List (String × Option Tree))
  | [] => some []
  | n :: ns =>
    match single? n fields, namedFields fields ns with
    | some v, some rest => some ((n, v) :: rest)
    | _, _ => none

/-- The fields of a record with the given names. An empty untyped scalar is a record without
fields. -/
def fields? (names : List String) : Tree → Option Fields
  | map fields => (namedFields fields names).map (⟨·, false⟩)
  | seq items true => if items.length ≤ names.length then some ⟨pairUp names items, true⟩ else none
  | scalar s _ => if s.isEmpty then some ⟨pairUp names [], false⟩ else none
  | _ => none

namespace Fields

/-- The value of a field. -/
def get? (fs : Fields) (name : String) : Option Tree :=
  match fs.values.find? (fun f => f.1 = name) with
  | some (_, v) => v
  | none => none

/-- A field that takes a default when it is absent. -/
def withDefault {α : Type} (fs : Fields) (name : String) (default : α) (read : Tree → Option α) :
    Option α :=
  match fs.get? name with
  | none => some default
  | some t => read t

/-- A field that must be there. -/
def required {α : Type} (fs : Fields) (name : String) (read : Tree → Option α) : Option α :=
  (fs.get? name).bind read

/-- A field that may be absent or null; in a list of fields it has to stand in its place. -/
def nullable {α : Type} (fs : Fields) (name : String) (read : Tree → Option α) :
    Option (Option α) :=
  match fs.get? name with
  | none => if fs.positional then none else some none
  | some t => t.asOption? read

end Fields

end Tree

end SecretConfig
