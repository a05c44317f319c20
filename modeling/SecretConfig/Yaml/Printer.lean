import SecretConfig.Json.Printer
import SecretConfig.Tree

set_option autoImplicit false

/-! # Writing YAML

A value is written in block style: a map as `key: value` lines, a list as `- item` lines, and
an empty one as a pair of brackets. A text stands without quotes where it would be read back
as that text. Otherwise it is put between single quotes, between double quotes with escapes
when it holds a character that cannot be shown, and as a block of lines when it holds a line
feed. -/

namespace SecretConfig.Yaml

/-! ## What a plain text would mean -/

/-- The text means a floating-point number. -/
def isRealWord (s : String) : Bool :=
  let cs := s.toList
  let unsigned := match cs with
    | '+' :: rest => rest
    | rest => rest
  let body := match unsigned with
    | '-' :: rest => rest
    | rest => rest
  if s ∈ [".nan", ".NaN", ".NAN", "-.inf", "-.Inf", "-.INF"]
      ∨ String.ofList unsigned ∈ [".inf", ".Inf", ".INF"] then true
  else if cs.head? = some '+' ∧ unsigned.head?.any (fun c => c = '+' || c = '-') then false
  else
    let body := match unsigned, body with
      | '-' :: _, body => body
      | '+' :: rest, _ => rest
      | _, body => body
    let (whole, rest) := Json.Document.takeDigits body
    let (fraction, rest) := match rest with
      | '.' :: r => Json.Document.takeDigits r
      | r => ([], r)
    if whole.isEmpty ∧ fraction.isEmpty then false
    else
      match Json.Document.readExponentPart rest with
      | some (e, []) =>
        let significand := Json.Document.ofDigits (whole ++ fraction)
        let exponent := e.getD 0 - fraction.length
        let size := exponent + (toString significand).length
        if size < -400 ∨ significand = 0 then true
        else if size > 400 then false
        else
          let (num, den) := Binary64.decimalRatio significand exponent
          (Binary64.ofRatio? false num den).isSome
      | _ => false

/-- The text means an integer of at most 128 bits. -/
def isIntWord (s : String) : Bool :=
  match Tree.intWord? s with
  | some i => -(Nat.pow 2 127 : Int) ≤ i && i < (Nat.pow 2 128 : Int)
  | none => false

/-- Without quotes the text would be read as something else than a text, or it looks like a
number. -/
def needsQuotes (s : String) : Bool :=
  s.isEmpty || Tree.isNullWord s || (Tree.boolWord? s).isSome || isIntWord s
    || Tree.isZeroPadded s.toList || isRealWord s

/-! ## Which styles a text admits -/

/-- A line break. -/
def breaksLine (c : Char) : Bool := c ∈ ['\r', '\n', '\u0085', '\u2028', '\u2029']

/-- The character can be shown as it is. -/
def isShown (c : Char) : Bool :=
  let n := c.toNat
  c = '\n' || (0x20 ≤ n && n ≤ 0x7E)
    || (0xA0 ≤ n && n ≤ 0xFFFD && n ≠ 0xFEFF)

/-- A blank or a line break, or no character. -/
def isGap (c : Option Char) : Bool := c.all fun c => c = ' ' || c = '\t' || breaksLine c

/-- The characters that mean something at the start of a text. -/
def leadIndicators : List Char := "#,[]\x7b\x7d&*!|>'\"%@`".toList

/-- The character after `before` and in front of `after` would end a plain text or make it
something else. -/
def isIndicator (before : Option Char) (c : Char) (after : Option Char) : Bool :=
  match before with
  | none => c ∈ leadIndicators || (c ∈ ['?', ':', '-'] && isGap after)
  | some b => (c = ':' && isGap after) || (c = '#' && isGap (some b))

/-- Some character with its neighbours satisfies a condition. -/
def anyWithNeighbours (p : Option Char → Char → Option Char → Bool) :
    Option Char → List Char → Bool
  | _, [] => false
  | before, c :: rest => p before c rest.head? || anyWithNeighbours p (some c) rest

/-- The text may stand without quotes. -/
def admitsPlain (cs : List Char) : Bool :=
  let atEnds := fun (c : Option Char) => c.any fun c => c = ' ' || breaksLine c
  !(cs.take 3 = ['-', '-', '-'] || cs.take 3 = ['.', '.', '.']) && !cs.any breaksLine
    && cs.all isShown && !atEnds cs.head? && !atEnds cs.getLast?
    && !anyWithNeighbours isIndicator none cs

/-- A space stands in front of a line break. -/
def hasSpaceBreak (cs : List Char) : Bool :=
  anyWithNeighbours (fun _ c after => c = ' ' && after.any breaksLine) none cs

/-- A space stands behind a line break. -/
def hasBreakSpace (cs : List Char) : Bool :=
  anyWithNeighbours (fun before c _ => c = ' ' && before.any breaksLine) none cs

/-- The text may stand between single quotes. -/
def admitsSingle (cs : List Char) : Bool :=
  cs.all isShown && !hasSpaceBreak cs && !hasBreakSpace cs

/-- The text may stand as a block of lines. -/
def admitsBlock (cs : List Char) : Bool :=
  !cs.isEmpty && cs.all isShown && !hasSpaceBreak cs && cs.getLast? ≠ some ' '

/-! ## The styles -/

/-- A number of blanks. -/
def blanks (n : Nat) : List Char := List.replicate n ' '

/-- A text with the blanks of an indentation in front of each character behind a break. -/
def indentLines (indent : Nat) : Bool → List Char → List Char
  | broken, [] => if broken then blanks indent else []
  | broken, c :: rest =>
    if breaksLine c then c :: indentLines indent true rest
    else (if broken then blanks indent else []) ++ c :: indentLines indent false rest

/-- A text between single quotes. -/
def singleQuoted (indent : Nat) (cs : List Char) : List Char :=
  '\'' :: (indentLines indent false cs).flatMap (fun c => if c = '\'' then ['\'', '\''] else [c])
    ++ ['\'']

/-- Hexadecimal digits in upper case, padded with zeros. -/
def hexDigits (width n : Nat) : List Char :=
  let ds := (Nat.toDigits 16 n).map Char.toUpper
  List.replicate (width - ds.length) '0' ++ ds

/-- A character as it stands between double quotes. -/
def doubleChar (c : Char) : List Char :=
  match c with
  | '\x00' => ['\\', '0']
  | '\x07' => ['\\', 'a']
  | '\x08' => ['\\', 'b']
  | '\t' => ['\\', 't']
  | '\n' => ['\\', 'n']
  | '\x0b' => ['\\', 'v']
  | '\x0c' => ['\\', 'f']
  | '\r' => ['\\', 'r']
  | '\x1b' => ['\\', 'e']
  | '"' => ['\\', '"']
  | '\\' => ['\\', '\\']
  | '\u0085' => ['\\', 'N']
  | '\u2028' => ['\\', 'L']
  | '\u2029' => ['\\', 'P']
  | c =>
    if isShown c then [c]
    else if c.toNat ≤ 0xFF then '\\' :: 'x' :: hexDigits 2 c.toNat
    else if c.toNat ≤ 0xFFFF then '\\' :: 'u' :: hexDigits 4 c.toNat
    else '\\' :: 'U' :: hexDigits 8 c.toNat

/-- A text between double quotes. -/
def doubleQuoted (cs : List Char) : List Char := '"' :: cs.flatMap doubleChar ++ ['"']

/-- What says how a block of lines ends: nothing for one line break, a plus sign for more, a
minus sign for none. -/
def chompingSign (cs : List Char) : List Char :=
  match cs.reverse with
  | [] => ['-']
  | [c] => if breaksLine c then ['+'] else ['-']
  | c :: b :: _ => if breaksLine c then (if breaksLine b then ['+'] else []) else ['-']

/-- The lines of a block, without blanks behind the last break. -/
def blockLines (indent : Nat) : Bool → List Char → List Char
  | _, [] => []
  | broken, c :: rest =>
    if breaksLine c then c :: blockLines indent true rest
    else (if broken then blanks indent else []) ++ c :: blockLines indent false rest

/-- A text as a block of lines. -/
def blockText (indent : Nat) (cs : List Char) : List Char :=
  let hint := if cs.head?.any (fun c => c = ' ' || breaksLine c) then ['2'] else []
  '|' :: hint ++ chompingSign cs ++ '\n' :: blockLines indent true cs

/-- A text in the first style that it admits. -/
def quotedText (indent : Nat) (cs : List Char) : List Char :=
  if admitsSingle cs then singleQuoted indent cs else doubleQuoted cs

/-- A text; `indent` is the indentation of its further lines. -/
def textLines (indent : Nat) (s : String) : List Char :=
  let cs := s.toList
  if cs.contains '\n' then (if admitsBlock cs then blockText indent cs else doubleQuoted cs)
  else if needsQuotes s ∨ ¬admitsPlain cs then quotedText indent cs
  else cs

/-- A key that stands in front of a colon on its line. -/
def isSimpleKey (s : String) : Bool := !s.toList.any breaksLine && s.utf8ByteSize ≤ 128

/-! ## Values -/

/-- End the line, if it is not ended already. -/
def endLine (cs : List Char) : List Char :=
  if cs.getLast?.any breaksLine then cs else cs ++ ['\n']

/-- The text of a number. -/
def numberText : Number → String
  | .int i => toString i
  | .real x => x.textWith false

/-- The list without items. -/
def emptyList : List Char := ['[', ']']

/-- The map without members. -/
def emptyMap : List Char := ['\x7b', '\x7d']

/-- A value that is neither a list nor a map. -/
def leafLines (indent : Nat) : Json → List Char
  | .null => "null".toList
  | .bool b => (if b then "true" else "false").toList
  | .num n => (numberText n).toList
  | .str s => textLines indent s
  | .arr _ => emptyList
  | .obj _ => emptyMap

mutual

/-- A value that begins on a line already begun, in a block of an indentation. -/
def inlineLines (indent : Nat) : Json → List Char
  | .arr items => if items.isEmpty then endLine emptyList else itemLines indent true items
  | .obj fields => if fields.isEmpty then endLine emptyMap else fieldLines indent true fields
  | .null => endLine (leafLines indent .null)
  | .bool b => endLine (leafLines indent (.bool b))
  | .num n => endLine (leafLines indent (.num n))
  | .str s => endLine (leafLines indent (.str s))

/-- Items, each on lines of its own, of which the first may be begun already. -/
def itemLines (indent : Nat) (begun : Bool) : List Json → List Char
  | [] => []
  | v :: rest =>
    (if begun then [] else blanks indent) ++ '-' :: ' ' :: inlineLines (indent + 2) v
      ++ itemLines indent false rest

/-- Members, each on lines of its own, of which the first may be begun already. A key that is
no simple key stands behind a question mark. -/
def fieldLines (indent : Nat) (begun : Bool) : List (String × Json) → List Char
  | [] => []
  | (k, v) :: rest =>
    (if begun then [] else blanks indent)
      ++ (if isSimpleKey k then textLines (indent + 2) k ++ ':' :: valueLines indent v
          else
            '?' :: ' ' :: endLine (textLines (indent + 2) k) ++ blanks indent
              ++ ':' :: ' ' :: inlineLines (indent + 2) v)
      ++ fieldLines indent false rest

/-- The value behind the colon of its key: a list is not indented further. -/
def valueLines (indent : Nat) : Json → List Char
  | .arr items =>
    if items.isEmpty then ' ' :: endLine emptyList else '\n' :: itemLines indent false items
  | .obj fields =>
    if fields.isEmpty then ' ' :: endLine emptyMap
    else '\n' :: fieldLines (indent + 2) false fields
  | .null => ' ' :: endLine (leafLines (indent + 2) .null)
  | .bool b => ' ' :: endLine (leafLines (indent + 2) (.bool b))
  | .num n => ' ' :: endLine (leafLines (indent + 2) (.num n))
  | .str s => ' ' :: endLine (leafLines (indent + 2) (.str s))

end

/-- A value in block style. -/
def print (v : Json) : String := String.ofList (inlineLines 0 v)

end SecretConfig.Yaml
