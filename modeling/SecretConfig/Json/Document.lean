import SecretConfig.Json.Value

set_option autoImplicit false

/-! # Reading JSON

`Json.Document.read?` turns a text into its syntax tree, in which members keep their order
and repeated keys, and a number keeps its digits. `Json.Document.value?` gives the value of a
tree: of two members with one key the later stays, and a number beyond the binary64 range, or
a string or a key with a lone surrogate, has no value. The two steps are apart because a record
reader refuses a repeated key and skips what it does not know without looking at its value. -/

namespace SecretConfig.Json

/-! ## Numbers as written -/

/-- The digits of a written number. -/
structure NumberText where
  negative : Bool
  whole : List Nat
  fraction : List Nat := []
  /-- The exponent, where one is written. -/
  exponent : Option Int := none
deriving DecidableEq, Repr, Inhabited

namespace NumberText

/-- The largest significand kept exactly. -/
def maxSignificand : Nat := UInt64.size - 1

/-- Read whole digits into a significand of at most 64 bits; from the first digit that does
not fit, each further digit raises the exponent instead. -/
def takeWhole : List Nat → Nat → Nat × Nat
  | [], s => (s, 0)
  | d :: rest, s =>
    if s * 10 + d ≤ maxSignificand then takeWhole rest (s * 10 + d)
    else (s, rest.length + 1)

/-- Read fraction digits while they fit; the second part counts those read. -/
def takeFraction : List Nat → Nat → Nat → Nat × Nat
  | [], s, n => (s, n)
  | d :: rest, s, n =>
    if s * 10 + d ≤ maxSignificand then takeFraction rest (s * 10 + d) (n + 1) else (s, n)

/-- The value: an integer where no fraction or exponent is written and 64 bits hold it, else
the binary64; `-0` is the negative binary64 zero. -/
def value? (n : NumberText) : Option Number :=
  let (whole, extra) := takeWhole n.whole 0
  if n.fraction.isEmpty ∧ n.exponent.isNone ∧ extra = 0 then
    if ¬n.negative then some (.int whole)
    else if whole ≠ 0 ∧ whole ≤ Nat.pow 2 63 then some (.int (-(whole : Int)))
    else (Binary64.ofRatio? true whole 1).map .real
  else
    let (significand, shift) := takeFraction n.fraction whole 0
    let exponent := (n.exponent.getD 0) + extra - shift
    (Binary64.ofParts? n.negative significand exponent).map .real

end NumberText

/-- The syntax tree of a JSON text. A string with a lone surrogate escape has no text, and
neither has such a key. -/
inductive Document where
  | null
  | bool (value : Bool)
  | num (digits : NumberText)
  | str (text : Option String)
  | arr (items : List Document)
  | obj (fields : List (Option String × Document))
deriving Inhabited

namespace Document

/-! ## Lexical parts -/

/-- The four blanks of the format. -/
def isSpace (c : Char) : Bool := c = ' ' || c = '\n' || c = '\t' || c = '\r'

/-- Drop blanks. -/
def skipSpace (cs : List Char) : List Char := cs.dropWhile isSpace

/-- The value of a hexadecimal digit. -/
def hexValue? (c : Char) : Option Nat :=
  if c.isDigit then some (c.toNat - '0'.toNat)
  else if 'a' ≤ c ∧ c ≤ 'f' then some (c.toNat - 'a'.toNat + 10)
  else if 'A' ≤ c ∧ c ≤ 'F' then some (c.toNat - 'A'.toNat + 10)
  else none

/-- Four hexadecimal digits. -/
def hexQuad? : List Char → Option (Nat × List Char)
  | a :: b :: c :: d :: rest => do
    let a ← hexValue? a
    let b ← hexValue? b
    let c ← hexValue? c
    let d ← hexValue? d
    return (((a * 16 + b) * 16 + c) * 16 + d, rest)
  | _ => none

/-- The character that a one-letter escape stands for. -/
def simpleEscape? : Char → Option Char
  | '"' => some '"'
  | '\\' => some '\\'
  | '/' => some '/'
  | 'b' => some '\x08'
  | 'f' => some '\x0c'
  | 'n' => some '\n'
  | 'r' => some '\r'
  | 't' => some '\t'
  | _ => none

/-- The rest of a string after its opening quote. The read characters are kept in reverse;
`none` in their place records a lone surrogate. -/
def readString : Nat → List Char → Option (List Char) → Option (Option (List Char) × List Char)
  | 0, _, _ => none
  | fuel + 1, cs, acc =>
    match cs with
    | [] => none
    | '"' :: rest => some (acc.map List.reverse, rest)
    | '\\' :: 'u' :: rest =>
      match hexQuad? rest with
      | none => none
      | some (high, rest) =>
        if 0xDC00 ≤ high ∧ high ≤ 0xDFFF then readString fuel rest none
        else if 0xD800 ≤ high ∧ high ≤ 0xDBFF then
          match rest with
          | '\\' :: 'u' :: tail =>
            match hexQuad? tail with
            | none => none
            | some (low, after) =>
              if 0xDC00 ≤ low ∧ low ≤ 0xDFFF then
                let code := 0x10000 + (high - 0xD800) * 0x400 + (low - 0xDC00)
                readString fuel after (acc.map (Char.ofNat code :: ·))
              else readString fuel rest none
          | _ => readString fuel rest none
        else readString fuel rest (acc.map (Char.ofNat high :: ·))
    | '\\' :: e :: rest =>
      match simpleEscape? e with
      | none => none
      | some c => readString fuel rest (acc.map (c :: ·))
    | c :: rest =>
      if c = '\\' ∨ c.toNat < 0x20 then none
      else readString fuel rest (acc.map (c :: ·))

/-- The leading digits and the rest. -/
def takeDigits (cs : List Char) : List Nat × List Char :=
  ((cs.takeWhile Char.isDigit).map (fun c => c.toNat - '0'.toNat), cs.dropWhile Char.isDigit)

/-- The number that decimal digits write. -/
def ofDigits (ds : List Nat) : Nat := ds.foldl (fun n d => n * 10 + d) 0

/-- The exponent after its letter. -/
def readExponent (cs : List Char) : Option (Int × List Char) :=
  let (negative, cs) := match cs with
    | '+' :: rest => (false, rest)
    | '-' :: rest => (true, rest)
    | rest => (false, rest)
  match takeDigits cs with
  | ([], _) => none
  | (ds, rest) => some (if negative then -(ofDigits ds : Int) else ofDigits ds, rest)

/-- The exponent part, which may be absent. -/
def readExponentPart : List Char → Option (Option Int × List Char)
  | 'e' :: rest | 'E' :: rest => (readExponent rest).map fun (e, rest) => (some e, rest)
  | rest => some (none, rest)

/-- A number without its sign. -/
def readNumber (negative : Bool) (cs : List Char) : Option (NumberText × List Char) :=
  match takeDigits cs with
  | ([], _) => none
  | (whole, rest) =>
    if whole.length > 1 ∧ whole.head? = some 0 then none
    else
      match rest with
      | '.' :: rest =>
        match takeDigits rest with
        | ([], _) => none
        | (fraction, rest) =>
          (readExponentPart rest).map fun (e, rest) => (⟨negative, whole, fraction, e⟩, rest)
      | rest => (readExponentPart rest).map fun (e, rest) => (⟨negative, whole, [], e⟩, rest)

/-! ## The grammar -/

mutual

/-- A value after blanks, with the rest of the text. -/
def readValue : Nat → List Char → Option (Document × List Char)
  | 0, _ => none
  | fuel + 1, cs =>
    match skipSpace cs with
    | 'n' :: 'u' :: 'l' :: 'l' :: rest => some (null, rest)
    | 't' :: 'r' :: 'u' :: 'e' :: rest => some (bool true, rest)
    | 'f' :: 'a' :: 'l' :: 's' :: 'e' :: rest => some (bool false, rest)
    | '"' :: rest =>
      (readString (rest.length + 1) rest (some [])).map fun (s, rest) =>
        (str (s.map String.ofList), rest)
    | '[' :: rest =>
      match skipSpace rest with
      | ']' :: rest => some (arr [], rest)
      | rest => (readItems fuel rest []).map fun (items, rest) => (arr items, rest)
    | '\x7b' :: rest =>
      match skipSpace rest with
      | '\x7d' :: rest => some (obj [], rest)
      | rest => (readFields fuel rest []).map fun (fields, rest) => (obj fields, rest)
    | '-' :: rest => (readNumber true rest).map fun (n, rest) => (num n, rest)
    | rest => (readNumber false rest).map fun (n, rest) => (num n, rest)

/-- Items up to the closing bracket; those read are kept in reverse. -/
def readItems : Nat → List Char → List Document → Option (List Document × List Char)
  | 0, _, _ => none
  | fuel + 1, cs, acc =>
    match readValue fuel cs with
    | none => none
    | some (v, rest) =>
      match skipSpace rest with
      | ',' :: rest => readItems fuel rest (v :: acc)
      | ']' :: rest => some ((v :: acc).reverse, rest)
      | _ => none

/-- Members up to the closing brace; those read are kept in reverse. -/
def readFields : Nat → List Char → List (Option String × Document) →
    Option (List (Option String × Document) × List Char)
  | 0, _, _ => none
  | fuel + 1, cs, acc =>
    match skipSpace cs with
    | '"' :: rest =>
      match readString (rest.length + 1) rest (some []) with
      | some (key, rest) =>
        match skipSpace rest with
        | ':' :: rest =>
          match readValue fuel rest with
          | none => none
          | some (v, rest) =>
            let acc := (key.map String.ofList, v) :: acc
            match skipSpace rest with
            | ',' :: rest => readFields fuel rest acc
            | '\x7d' :: rest => some (acc.reverse, rest)
            | _ => none
        | _ => none
      | _ => none
    | _ => none

end

/-- The syntax tree of a whole text. -/
def read? (s : String) : Option Document :=
  let cs := s.toList
  match readValue (2 * cs.length + 2) cs with
  | some (d, rest) => if (skipSpace rest).isEmpty then some d else none
  | none => none

/-! ## Values -/

mutual

/-- The value of a tree. -/
def value? : Document → Option Json
  | null => some .null
  | bool b => some (.bool b)
  | num n => n.value?.map .num
  | str s => s.map .str
  | arr items => (values? items).map .arr
  | obj fields => (members? fields).map Json.object

/-- The values of the items. -/
def values? : List Document → Option (List Json)
  | [] => some []
  | d :: rest =>
    match value? d, values? rest with
    | some v, some vs => some (v :: vs)
    | _, _ => none

/-- The members with their values. -/
def members? : List (Option String × Document) → Option (List (String × Json))
  | [] => some []
  | (k, d) :: rest =>
    match k, value? d, members? rest with
    | some k, some v, some vs => some ((k, v) :: vs)
    | _, _, _ => none

end

mutual

/-- The value of a tree is canonical, whatever order its members have. -/
theorem canonical_of_value? (d : Document) {v : Json} (h : d.value? = some v) : v.Canonical := by
  match d with
  | null =>
    obtain rfl := Option.some.inj h
    exact .null
  | bool b =>
    obtain rfl := Option.some.inj h
    exact .bool b
  | num n =>
    obtain ⟨number, -, rfl⟩ := Option.map_eq_some_iff.1 h
    exact .num number
  | str s =>
    obtain ⟨text, -, rfl⟩ := Option.map_eq_some_iff.1 h
    exact .str text
  | arr items =>
    obtain ⟨values, hvalues, rfl⟩ := Option.map_eq_some_iff.1 h
    exact .arr values (canonical_of_values? items hvalues)
  | obj fields =>
    obtain ⟨members, hmembers, rfl⟩ := Option.map_eq_some_iff.1 h
    exact .object (canonical_of_members? fields hmembers)

theorem canonical_of_values? (items : List Document) {vs : List Json}
    (h : values? items = some vs) : ∀ v ∈ vs, v.Canonical := by
  match items with
  | [] =>
    obtain rfl := Option.some.inj h
    exact nofun
  | d :: rest =>
    rw [values?] at h
    split at h
    · rename_i v vs hv hvs
      obtain rfl := Option.some.inj h
      exact List.forall_mem_cons.2 ⟨canonical_of_value? d hv, canonical_of_values? rest hvs⟩
    · exact nomatch h

theorem canonical_of_members? (fields : List (Option String × Document)) {es : List (String × Json)}
    (h : members? fields = some es) : ∀ e ∈ es, e.2.Canonical := by
  match fields with
  | [] =>
    obtain rfl := Option.some.inj h
    exact nofun
  | (key, d) :: rest =>
    unfold members? at h
    split at h
    · rename_i key v es hv hes
      obtain rfl := Option.some.inj h
      exact List.forall_mem_cons.2 ⟨canonical_of_value? d hv, canonical_of_members? rest hes⟩
    · exact nomatch h

end

mutual

/-- How deep arrays and objects are nested in a tree. -/
def depth : Document → Nat
  | arr items => depthItems items + 1
  | obj fields => depthFields fields + 1
  | _ => 0

/-- The greatest depth of the items. -/
def depthItems : List Document → Nat
  | [] => 0
  | d :: rest => max (depth d) (depthItems rest)

/-- The greatest depth of the members. -/
def depthFields : List (Option String × Document) → Nat
  | [] => 0
  | (_, d) :: rest => max (depth d) (depthFields rest)

end

end Document

/-- How many levels of arrays and objects a value may nest. -/
def maxDepth : Nat := 127

/-- The value of a text that nests at most `limit` levels. -/
def parse? (s : String) (limit : Nat := maxDepth) : Option Json :=
  match Document.read? s with
  | some d => if d.depth ≤ limit then d.value? else none
  | none => none

theorem canonical_of_parse? {s : String} {limit : Nat} {v : Json} (h : parse? s limit = some v) :
    v.Canonical := by
  unfold parse? at h
  split at h
  · rename_i d _
    split at h
    · exact Document.canonical_of_value? d h
    · exact nomatch h
  · exact nomatch h

end SecretConfig.Json
