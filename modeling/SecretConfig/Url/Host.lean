import SecretConfig.Json.Printer
import SecretConfig.Text.Blank
import SecretConfig.Tree

set_option autoImplicit false

/-! # Hosts of URLs

A host is a domain name or an address. The domain of a scheme with a known shape is percent
decoded and put into lower case, must not hold a character that delimits parts of a URL, and
is an IPv4 address as soon as its last label is a number. The host of any other scheme keeps
its text. -/

namespace SecretConfig

/-- Why a text is no absolute URL. -/
inductive UrlFault where
  | emptyHost
  | badDomain
  | badPort
  | badIpv4
  | badIpv6
  | badHostCharacter
  | noScheme
deriving DecidableEq, Repr, Inhabited

namespace UrlFault

/-- The text of a fault. -/
def message : UrlFault → String
  | emptyHost => "empty host"
  | badDomain => "invalid international domain name"
  | badPort => "invalid port number"
  | badIpv4 => "invalid IPv4 address"
  | badIpv6 => "invalid IPv6 address"
  | badHostCharacter => "invalid domain character"
  | noScheme => "relative URL without a base"

end UrlFault

namespace Url

/-! ## Percent encoding -/

/-- The bytes of a text in UTF-8. -/
def utf8 (cs : List Char) : List UInt8 := (String.ofList cs).toUTF8.toList

/-- A byte as a percent sign and two hexadecimal digits in upper case. -/
def percent (b : UInt8) : List Char :=
  let digit := fun n => (Json.hexDigit n).toUpper
  ['%', digit (b.toNat / 16), digit (b.toNat % 16)]

/-- Percent encode the characters of a class and all that are not ASCII. -/
def encode (p : Char → Bool) (cs : List Char) : List Char :=
  cs.flatMap fun c => if p c ∨ 0x7F ≤ c.toNat then (utf8 [c]).flatMap percent else [c]

/-- The control characters of ASCII. -/
def isControl (c : Char) : Bool := c.toNat < 0x20 || c.toNat = 0x7F

/-- The bytes that a text stands for when percent signs with two hexadecimal digits stand for
bytes. -/
def decode : List Char → List UInt8
  | '%' :: a :: b :: rest =>
    match Json.Document.hexValue? a, Json.Document.hexValue? b with
    | some x, some y => UInt8.ofNat (x * 16 + y) :: decode rest
    | _, _ => '%'.val.toUInt8 :: decode (a :: b :: rest)
  | c :: rest => utf8 [c] ++ decode rest
  | [] => []

/-- The text of bytes in UTF-8. -/
def ofUtf8? (bytes : List UInt8) : Option (List Char) :=
  (String.fromUTF8? (ByteArray.mk bytes.toArray)).map String.toList

/-! ## IPv4 -/

/-- Split a list at every separator. -/
def splitOn (sep : Char) (cs : List Char) : List (List Char) :=
  let (part, parts) := cs.foldr
    (fun c (part, parts) => if c = sep then ([], part :: parts) else (c :: part, parts)) ([], [])
  part :: parts

/-- A part of an address: decimal, octal after a zero, hexadecimal after `0x`. The outer
`none` is for a text that is no number, the inner for one beyond 32 bits. -/
def ipv4Number? (cs : List Char) : Option (Option Nat) :=
  let read := fun (base : Nat) (ds : List Char) =>
    if ds.isEmpty then some (some 0)
    else (Tree.digits? base ds).map fun n => if n < UInt32.size then some n else none
  match cs with
  | [] => none
  | '0' :: 'x' :: rest | '0' :: 'X' :: rest => read 16 rest
  | '0' :: d :: rest => read 8 (d :: rest)
  | cs => read 10 cs

/-- Without an empty part at the end. -/
def dropEmptyEnd (parts : List (List Char)) : List (List Char) :=
  match parts.reverse with
  | [] :: rest => rest.reverse
  | _ => parts

/-- The last label of a domain is a number. -/
def endsInNumber (cs : List Char) : Bool :=
  match (dropEmptyEnd (splitOn '.' cs)).getLast? with
  | none => false
  | some last => !last.isEmpty && (last.all Char.isDigit || (ipv4Number? last).isSome)

/-- The address that a domain with a number at its end writes. -/
def ipv4? (cs : List Char) : Option (List Char) := do
  let parts := dropEmptyEnd (splitOn '.' cs)
  if parts.length > 4 then none
  let numbers ← parts.mapM fun p => do (← ipv4Number? p)
  match numbers.reverse with
  | [] => none
  | last :: front =>
    if last ≥ Nat.pow 256 (4 - front.length) ∨ front.any (· > 255) then none
    else
      let value := (front.reverse.zipIdx.foldl (fun n (x, i) => n + x * Nat.pow 256 (3 - i)) 0) + last
      let byte := fun k => (toString (value / Nat.pow 256 k % 256)).toList
      some (byte 3 ++ '.' :: byte 2 ++ '.' :: byte 1 ++ '.' :: byte 0)

/-! ## IPv6 -/

/-- The leading hexadecimal digits, four at most, and the rest. -/
def hexRun (cs : List Char) : Nat × Nat × List Char :=
  let ds := (cs.take 4).takeWhile fun c => (Json.Document.hexValue? c).isSome
  (ds.foldl (fun n c => n * 16 + (Json.Document.hexValue? c).getD 0) 0, ds.length,
    cs.drop ds.length)

/-- The four decimal bytes at the end of an address. -/
def embeddedIpv4? (cs : List Char) : Option (List Nat) := do
  let parts := splitOn '.' cs
  if parts.length ≠ 4 then none
  let bytes ← parts.mapM fun p =>
    if p.isEmpty ∨ p.length > 3 ∨ (p.length > 1 ∧ p.head? = some '0') ∨ ¬p.all Char.isDigit then none
    else
      let n := Json.Document.ofDigits (p.map fun c => c.toNat - '0'.toNat)
      if n ≤ 255 then some n else none
  match bytes with
  | [a, b, c, d] => some [a * 256 + b, c * 256 + d]
  | _ => none

/-- Read the pieces of an address; `gap` is the place of the double colon. -/
def ipv6Pieces : Nat → List Char → List Nat → Option Nat → Option (List Nat × Option Nat)
  | 0, _, _, _ => none
  | fuel + 1, cs, pieces, gap =>
    match cs with
    | [] => some (pieces, gap)
    | ':' :: rest =>
      if gap.isSome then none
      else ipv6Pieces fuel rest pieces (some pieces.length)
    | cs =>
      if pieces.length = 8 then none
      else
        let (value, count, rest) := hexRun cs
        match rest with
        | '.' :: _ =>
          if count = 0 ∨ pieces.length > 6 then none
          else (embeddedIpv4? cs).map fun tail => (pieces ++ tail, gap)
        | ':' :: [] => none
        | ':' :: rest => if count = 0 then none else ipv6Pieces fuel rest (pieces ++ [value]) gap
        | [] => if count = 0 then none else some (pieces ++ [value], gap)
        | _ => none

/-- The eight pieces of an address. -/
def ipv6? (cs : List Char) : Option (List Nat) := do
  let start := match cs with
    | ':' :: ':' :: rest => some (rest, some 0)
    | ':' :: _ => none
    | rest => some (rest, none)
  let (rest, gap) ← start
  let (pieces, gap) ← ipv6Pieces (cs.length + 1) rest [] gap
  match gap with
  | none => if pieces.length = 8 then some pieces else none
  | some k =>
    if pieces.length ≥ 8 then none
    else some (pieces.take k ++ List.replicate (8 - pieces.length) 0 ++ pieces.drop k)

/-- How many zeros a list starts with. -/
def leadingZeros (ps : List Nat) : Nat := (ps.takeWhile (· = 0)).length

/-- The first longest run of at least two zeros: its place and length. -/
def longestZeros (ps : List Nat) : Option (Nat × Nat) :=
  let runs := (List.range ps.length).map fun i => (i, leadingZeros (ps.drop i))
  let best := runs.foldl (fun (best : Nat × Nat) r => if r.2 > best.2 then r else best) (0, 0)
  if best.2 ≥ 2 then some best else none

/-- The text of an address, its longest run of zeros left out. -/
def ipv6Text (ps : List Nat) : List Char :=
  let piece := fun (n : Nat) => Nat.toDigits 16 n
  let join := fun (qs : List Nat) => (":".intercalate (qs.map fun n => String.ofList (piece n))).toList
  match longestZeros ps with
  | none => join ps
  | some (i, n) => join (ps.take i) ++ "::".toList ++ join (ps.drop (i + n))

/-! ## Hosts -/

/-- A character that may not stand in a domain. -/
def isForbiddenInDomain (c : Char) : Bool :=
  isControl c || c ∈ " #/:<>?@[\\]^|%".toList

/-- A character that may not stand in a host without a known shape. -/
def isForbiddenInHost (c : Char) : Bool :=
  c ∈ "\x00\t\n\r #/:<>?@[\\]^|".toList

/-- Characters that a domain drops. -/
def isIgnoredInDomain (c : Char) : Bool :=
  c.toNat ∈ [0xAD, 0x200B, 0x2060, 0xFEFF] || (0xFE00 ≤ c.toNat && c.toNat ≤ 0xFE0F)

/-- A character of a domain in its plain form: lower case, full-width forms as the ASCII
characters they widen, ideographic stops as full stops, wide blanks as spaces. -/
def plainInDomain (c : Char) : Char :=
  let n := c.toNat
  if 0xFF01 ≤ n ∧ n ≤ 0xFF5E then (Char.ofNat (n - 0xFEE0)).toLower
  else if n = 0x3002 ∨ n = 0xFF61 then '.'
  else if n = 0xA0 ∨ n = 0x3000 ∨ (0x2000 ≤ n ∧ n ≤ 0x200A) ∨ n = 0x202F ∨ n = 0x205F then ' '
  else c.toLower

/-- The host of a scheme with a known shape. -/
def host? (cs : List Char) : Except UrlFault (List Char) :=
  match cs with
  | '[' :: rest =>
    match rest.reverse with
    | ']' :: inner =>
      match ipv6? inner.reverse with
      | some ps => .ok ('[' :: ipv6Text ps ++ [']'])
      | none => .error .badIpv6
    | _ => .error .badIpv6
  | cs =>
    match ofUtf8? (decode cs) with
    | none => .error .badDomain
    | some domain =>
      let domain := (domain.filter fun c => !isIgnoredInDomain c).map plainInDomain
      if domain.any isForbiddenInDomain then .error .badDomain
      else if domain.isEmpty then .error .emptyHost
      else if endsInNumber domain then
        match ipv4? domain with
        | some text => .ok text
        | none => .error .badIpv4
      else .ok domain

/-- The host of a scheme without a known shape. -/
def opaqueHost? (cs : List Char) : Except UrlFault (List Char) :=
  match cs with
  | '[' :: _ => host? cs
  | cs =>
    if cs.any isForbiddenInHost then .error .badHostCharacter
    else .ok (encode isControl cs)

end Url

end SecretConfig
