import SecretConfig.Text.Blank

set_option autoImplicit false

/-! # Files of certificates and keys

Such a file consists of sections between a `BEGIN` and an `END` line with a label, each of
which holds bytes in base 64. What stands outside of sections is skipped. A certificate or a
key is a sequence that fills its section. -/

namespace SecretConfig.Vault

/-- A section: its label and its bytes. -/
structure Section where
  label : String
  bytes : List Nat
deriving DecidableEq, Repr, Inhabited

namespace Section

/-! ## Base 64 -/

/-- The value of a digit of base 64. -/
def digit? (c : Char) : Option Nat :=
  if 'A' ≤ c ∧ c ≤ 'Z' then some (c.toNat - 'A'.toNat)
  else if 'a' ≤ c ∧ c ≤ 'z' then some (c.toNat - 'a'.toNat + 26)
  else if '0' ≤ c ∧ c ≤ '9' then some (c.toNat - '0'.toNat + 52)
  else if c = '+' then some 62
  else if c = '/' then some 63
  else none

/-- The bytes that groups of four digits write; equal signs fill the last group. -/
def decode? : List Char → Option (List Nat)
  | [] => some []
  | [a, b, '=', '='] => do
    let (a, b) := (← digit? a, ← digit? b)
    if b % 16 = 0 then return [a * 4 + b / 16] else none
  | [a, b, c, '='] => do
    let (a, b, c) := (← digit? a, ← digit? b, ← digit? c)
    if c % 4 = 0 then return [a * 4 + b / 16, b % 16 * 16 + c / 4] else none
  | a :: b :: c :: d :: rest => do
    let (a, b, c, d) := (← digit? a, ← digit? b, ← digit? c, ← digit? d)
    let bytes ← decode? rest
    return (a * 4 + b / 16) :: (b % 16 * 16 + c / 4) :: (c % 4 * 64 + d) :: bytes
  | _ => none

/-! ## Sections -/

/-- The label of a line that begins a section. The outer `none` is for any other line, the
inner for a line that begins one wrongly. -/
def opening? (line : List Char) : Option (Option (List Char)) :=
  let mark := "-----BEGIN ".toList
  if mark.isPrefixOf line then
    let rest := (Text.stripChars Text.isBlank (line.drop mark.length))
    let label := rest.take (rest.length - 5)
    some (if rest.length ≥ 5 ∧ rest.drop label.length = "-----".toList then some label else none)
  else none

/-- The sections of lines; `current` is the one that is open, with its digits so far. -/
def ofLines? : List (List Char) → Option (List Char × List Char) → Option (List Section)
  | [], current => if current.isSome then none else some []
  | line :: rest, none =>
    match opening? line with
    | some (some label) => ofLines? rest (some (label, []))
    | some none => none
    | none => ofLines? rest none
  | line :: rest, some (label, digits) =>
    if ("-----END ".toList ++ label ++ "-----".toList).isPrefixOf line then
      match decode? digits, ofLines? rest none with
      | some bytes, some sections => some (⟨String.ofList label, bytes⟩ :: sections)
      | _, _ => none
    else ofLines? rest (some (label, digits ++ Text.stripChars Text.isBlank line))

/-- The sections of a text. -/
def all? (text : String) : Option (List Section) :=
  ofLines? ((text.splitOn "\n").map String.toList) none

/-- The length that begins a sequence, and how many bytes write it. -/
def sequenceLength? : List Nat → Option (Nat × Nat)
  | 0x30 :: n :: rest =>
    if n < 0x80 then some (n, 2)
    else
      let count := n - 0x80
      if count = 0 ∨ count > 4 ∨ rest.length < count then none
      else some ((rest.take count).foldl (fun v b => v * 256 + b) 0, 2 + count)
  | _ => none

/-- The section holds one sequence and nothing else. -/
def isSequence (s : Section) : Bool :=
  match sequenceLength? s.bytes with
  | some (length, head) => head + length = s.bytes.length
  | none => false

/-- The section holds a certificate. -/
def isCertificate (s : Section) : Bool := s.label = "CERTIFICATE"

/-- The section holds a private key. -/
def isKey (s : Section) : Bool :=
  s.label ∈ ["PRIVATE KEY", "RSA PRIVATE KEY", "EC PRIVATE KEY"]

end Section

end SecretConfig.Vault
