set_option autoImplicit false

/-! # Blank characters and trimming

The Unicode `White_Space` property, and trimming by it. A zero-width space (U+200B) and
the byte order mark (U+FEFF) do not have the property. -/

namespace SecretConfig.Text

/-- Every code point with the Unicode property `White_Space`, as inclusive ranges. -/
def blankRanges : List (Nat × Nat) :=
  [(0x9, 0xD), (0x20, 0x20), (0x85, 0x85), (0xA0, 0xA0), (0x1680, 0x1680), (0x2000, 0x200A),
   (0x2028, 0x2029), (0x202F, 0x202F), (0x205F, 0x205F), (0x3000, 0x3000)]

/-- The character has the Unicode property `White_Space`. -/
def isBlank (c : Char) : Bool :=
  blankRanges.any (fun r => r.1 ≤ c.toNat && c.toNat ≤ r.2)

/-- Drop the characters of a class from both ends of a list. -/
def stripChars (p : Char → Bool) (cs : List Char) : List Char :=
  ((cs.dropWhile p).reverse.dropWhile p).reverse

/-- Drop the characters of a class from both ends of a text. -/
def strip (p : Char → Bool) (s : String) : String :=
  String.ofList (stripChars p s.toList)

/-- Drop the blanks from both ends of a text. -/
def trim (s : String) : String := strip isBlank s

/-- The text has no character but blanks. -/
def isAllBlank (s : String) : Bool := s.toList.all isBlank

/-- The trimmed text, unless nothing is left of it. -/
def nonBlank? (s : String) : Option String :=
  let t := trim s
  if t.isEmpty then none else some t

/-- Turn `A` to `Z` into `a` to `z` and keep every other character. -/
def asciiLower (s : String) : String := s.map Char.toLower

example : blankRanges.foldl (fun n r => n + (r.2 - r.1 + 1)) 0 = 25 := by decide

end SecretConfig.Text
