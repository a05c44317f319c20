import SecretConfig.Json.Document

set_option autoImplicit false

/-! # Tokens of YAML

`Yaml.tokens?` cuts a text into tokens. Indentation becomes tokens of its own: a block opens
where a line is indented deeper and closes where one is indented less. A scalar turns out to
be a key only at the colon behind it, so the reader remembers for each level of brackets
where a key could have begun (`KeyPlace`), and puts the key token there afterwards. A key
has to end on the line that it began on, within 1024 characters. -/

namespace SecretConfig.Yaml

/-- How a scalar is written. -/
inductive Style where
  | plain
  | single
  | double
  | literal
  | folded
deriving DecidableEq, Repr, Inhabited

/-- A token. -/
inductive Token where
  | versionDirective
  | tagDirective (handle start : String)
  | documentStart
  | documentEnd
  | blockSequence
  | blockMapping
  | blockEnd
  | flowSequenceStart
  | flowSequenceEnd
  | flowMappingStart
  | flowMappingEnd
  | blockEntry
  | flowEntry
  | key
  | value
  | alias (name : String)
  | anchor (name : String)
  | tag (handle suffix : String)
  | scalar (text : String) (style : Style)
deriving DecidableEq, Repr, Inhabited

/-! ## Places in the text -/

/-- A place in the text. -/
structure Cursor where
  rest : List Char
  index : Nat := 0
  line : Nat := 0
  column : Nat := 0
deriving Inhabited

/-- A line break. -/
def isBreak (c : Char) : Bool := c ∈ ['\r', '\n', '\u0085', '\u2028', '\u2029']

/-- A space or a tab. -/
def isBlank (c : Char) : Bool := c = ' ' || c = '\t'

/-- A character of a name. -/
def isWord (c : Char) : Bool := c.isAlphanum || c = '_' || c = '-'

/-- A bracket or comma that counts inside brackets. -/
def isFlowIndicator (c : Char) : Bool := c ∈ ",[]\x7b\x7d".toList

/-- The character may stand in a text at all. -/
def isAllowed (c : Char) : Bool :=
  let n := c.toNat
  c ∈ ['\t', '\n', '\r', '\u0085'] || (0x20 ≤ n && n ≤ 0x7E) || (0xA0 ≤ n && n ≤ 0xD7FF)
    || (0xE000 ≤ n && n ≤ 0xFFFD) || 0x10000 ≤ n

namespace Cursor

/-- The next character. -/
def peek (c : Cursor) : Option Char := c.rest.head?

/-- A character further on. -/
def peekAt (c : Cursor) (n : Nat) : Option Char := (c.rest.drop n).head?

/-- A character of a class stands at a distance, or the text has ended there. -/
def endsAt (c : Cursor) (n : Nat) (p : Char → Bool) : Bool := (c.peekAt n).all p

/-- A blank, a line break or the end of the text stands at a distance. -/
def blankAt (c : Cursor) (n : Nat) : Bool := c.endsAt n fun x => isBlank x || isBreak x

/-- Go on by some characters of one line. -/
def advance (c : Cursor) (n : Nat := 1) : Cursor :=
  { c with rest := c.rest.drop n, index := c.index + n, column := c.column + n }

/-- Go on behind a line break: what the break stands for, and the place behind it. -/
def nextLine (c : Cursor) : List Char × Cursor :=
  let go := fun (n : Nat) (rest : List Char) =>
    { c with rest, index := c.index + n, line := c.line + 1, column := 0 }
  match c.rest with
  | '\r' :: '\n' :: rest => (['\n'], go 2 rest)
  | x :: rest =>
    if x = '\u2028' ∨ x = '\u2029' then ([x], go 1 rest)
    else if isBreak x then (['\n'], go 1 rest)
    else ([], c)
  | [] => ([], c)

/-- The characters of a class up to the first of another, and the place there. -/
def takeWhile (c : Cursor) (p : Char → Bool) : List Char × Cursor :=
  let taken := c.rest.takeWhile p
  (taken, c.advance taken.length)

/-- Three equal marks that begin or end a document stand here. -/
def atDocumentMark (c : Cursor) : Bool :=
  c.column = 0 && (c.rest.take 3 = ['-', '-', '-'] || c.rest.take 3 = ['.', '.', '.'])
    && c.blankAt 3

end Cursor

/-! ## Scalars in quotes and plain scalars -/

/-- The blanks and line breaks between two words: the blanks of one line, or the first line
break and those after it. -/
structure Gap where
  broken : Bool := false
  blanks : List Char := []
  first : List Char := []
  further : List Char := []

namespace Gap

/-- What a gap stands for: blanks stand for themselves, one line break for a space, several
for all but the first. -/
def text (g : Gap) : List Char :=
  if g.broken then
    if g.first = ['\n'] then (if g.further.isEmpty then [' '] else g.further)
    else g.first ++ g.further
  else g.blanks

/-- Read blanks and line breaks. A tab that stands for indentation up to `indent` is refused. -/
def read? : Nat → Int → Cursor → Gap → Option (Gap × Cursor)
  | 0, _, _, _ => none
  | fuel + 1, indent, c, g =>
    match c.peek with
    | none => some (g, c)
    | some x =>
      if isBlank x then
        if g.broken then
          if (c.column : Int) < indent ∧ x = '\t' then none
          else read? fuel indent c.advance g
        else read? fuel indent c.advance { g with blanks := g.blanks ++ [x] }
      else if isBreak x then
        let (text, c) := c.nextLine
        if g.broken then read? fuel indent c { g with further := g.further ++ text }
        else read? fuel indent c { g with broken := true, blanks := [], first := text }
      else some (g, c)

end Gap

/-- The character that a letter after a backslash stands for. -/
def escape? : Char → Option Char
  | '0' => some '\x00'
  | 'a' => some '\x07'
  | 'b' => some '\x08'
  | 't' | '\t' => some '\t'
  | 'n' => some '\n'
  | 'v' => some '\x0b'
  | 'f' => some '\x0c'
  | 'r' => some '\r'
  | 'e' => some '\x1b'
  | ' ' => some ' '
  | '"' => some '"'
  | '/' => some '/'
  | '\\' => some '\\'
  | 'N' => some '\u0085'
  | '_' => some '\u00a0'
  | 'L' => some '\u2028'
  | 'P' => some '\u2029'
  | _ => none

/-- How many hexadecimal digits follow a letter after a backslash. -/
def escapeDigits? : Char → Option Nat
  | 'x' => some 2
  | 'u' => some 4
  | 'U' => some 8
  | _ => none

/-- The character whose code hexadecimal digits write. -/
def ofHex? (ds : List Char) : Option Char :=
  match ds.mapM Json.Document.hexValue? with
  | none => none
  | some vs =>
    let n := vs.foldl (fun n d => n * 16 + d) 0
    if n.isValidChar then some (Char.ofNat n) else none

/-- Read the words and gaps of a quoted scalar up to the closing quote. -/
def readQuoted? (double : Bool) : Nat → Cursor → List Char → Option (List Char × Cursor)
  | 0, _, _ => none
  | fuel + 1, c, acc =>
    if c.atDocumentMark then none
    else
      match c.rest with
      | [] => none
      | x :: rest =>
        if isBlank x ∨ isBreak x then do
          let (gap, c) ← Gap.read? (c.rest.length + 1) 0 c {}
          readQuoted? double fuel c (gap.text.reverse ++ acc)
        else if double then
          if x = '"' then some (acc.reverse, c.advance)
          else if x = '\\' then
            match rest with
            | [] => none
            | e :: tail =>
              if isBreak e then do
                let (gap, c) ← Gap.read? (c.rest.length + 1) 0 c.advance.nextLine.2
                  { broken := true }
                readQuoted? double fuel c (gap.text.reverse ++ acc)
              else
                match escapeDigits? e with
                | some n =>
                  match ofHex? (tail.take n) with
                  | some ch =>
                    if tail.length < n then none
                    else readQuoted? double fuel (c.advance (n + 2)) (ch :: acc)
                  | none => none
                | none =>
                  match escape? e with
                  | some ch => readQuoted? double fuel (c.advance 2) (ch :: acc)
                  | none => none
          else readQuoted? double fuel c.advance (x :: acc)
        else if x = '\'' then
          match rest with
          | '\'' :: _ => readQuoted? double fuel (c.advance 2) ('\'' :: acc)
          | _ => some (acc.reverse, c.advance)
        else readQuoted? double fuel c.advance (x :: acc)

/-- The word of a plain scalar ends here. -/
def endsPlain (flow : Bool) (c : Cursor) (x : Char) : Bool :=
  isBlank x || isBreak x || (x = ':' && c.blankAt 1) || (flow && isFlowIndicator x)

/-- Read the words and gaps of a plain scalar. The third part says that the scalar was left
behind a line break. -/
def readPlain? (flow : Bool) (indent : Int) :
    Nat → Cursor → Gap → List Char → Option (List Char × Cursor × Bool)
  | 0, _, _, _ => none
  | fuel + 1, c, g, acc =>
    match c.peek with
    | none => some (acc.reverse, c, g.broken)
    | some x =>
      let atWordStart := g.broken || !g.blanks.isEmpty || acc.isEmpty
      if atWordStart ∧ (c.atDocumentMark ∨ x = '#') then some (acc.reverse, c, g.broken)
      else if isBlank x ∨ isBreak x then do
        let (gap, next) ← Gap.read? (c.rest.length + 1) indent c {}
        if ¬flow ∧ (next.column : Int) < indent then some (acc.reverse, next, gap.broken)
        else readPlain? flow indent fuel next gap acc
      else if flow ∧ x = ':' ∧ (c.peekAt 1).any (fun y => isFlowIndicator y || y = '?') then none
      else if endsPlain flow c x then some (acc.reverse, c, g.broken)
      else readPlain? flow indent fuel c.advance {} (x :: (g.text.reverse ++ acc))

/-! ## Block scalars -/

/-- What stays of the line breaks at the end of a block scalar. -/
inductive Chomping where
  | strip
  | clip
  | keep
deriving DecidableEq

/-- The indicators behind the sign of a block scalar: the chomping and the indentation. -/
def readHeader? (c : Cursor) : Option (Chomping × Option Nat × Cursor) :=
  let chomping? := fun (x : Char) =>
    if x = '+' then some Chomping.keep else if x = '-' then some Chomping.strip else none
  let digit? := fun (x : Char) => if x.isDigit then some (x.toNat - '0'.toNat) else none
  let found := match c.rest with
    | a :: b :: _ =>
      match chomping? a, digit? a with
      | some k, _ =>
        match digit? b with
        | some d => (k, some d, c.advance 2)
        | none => (k, none, c.advance)
      | none, some d =>
        match chomping? b with
        | some k => (k, some d, c.advance 2)
        | none => (.clip, some d, c.advance)
      | none, none => (.clip, none, c)
    | [a] =>
      match chomping? a, digit? a with
      | some k, _ => (k, none, c.advance)
      | none, some d => (.clip, some d, c.advance)
      | none, none => (.clip, none, c)
    | [] => (.clip, none, c)
  if found.2.1 = some 0 then none else some found

/-- Read empty lines, and the indentation of the line behind them. An indentation of zero is
to be found out: it is that of the deepest of these lines. -/
def readEmptyLines? : Nat → Cursor → Nat → List Char → Nat → Option (List Char × Cursor × Nat)
  | 0, _, _, _, _ => none
  | fuel + 1, c, indent, breaks, deepest =>
    let blanks := (c.rest.takeWhile (· = ' ')).length
    let c := c.advance (if indent = 0 then blanks else min blanks (indent - c.column))
    let deepest := max deepest c.column
    if (indent = 0 ∨ c.column < indent) ∧ c.peek = some '\t' then none
    else if c.peek.any isBreak then
      let (text, c) := c.nextLine
      readEmptyLines? fuel c indent (breaks ++ text) deepest
    else some (breaks, c, deepest)

/-- Read the lines of a block scalar, each after the empty lines in front of it. -/
def readLines? (folded : Bool) (indent : Nat) :
    Nat → Cursor → (acc lead breaks : List Char) → Bool →
      Option (List Char × List Char × List Char × Cursor)
  | 0, _, _, _, _, _ => none
  | fuel + 1, c, acc, lead, breaks, leadingBlank =>
    match c.peek with
    | none => some (acc, lead, breaks, c)
    | some x =>
      if c.column ≠ indent then some (acc, lead, breaks, c)
      else
        let trailingBlank := isBlank x
        let joint :=
          if folded ∧ lead = ['\n'] ∧ ¬leadingBlank ∧ ¬trailingBlank then
            (if breaks.isEmpty then [' '] else [])
          else lead
        let (text, c) := c.takeWhile fun y => !isBreak y
        let (lead, c) := c.nextLine
        match readEmptyLines? (c.rest.length + 1) c indent [] 0 with
        | none => none
        | some (next, c, _) =>
          readLines? folded indent fuel c (acc ++ joint ++ breaks ++ text) lead next trailingBlank

/-- Read a block scalar behind its sign, in a block of an indentation. -/
def readBlock? (folded : Bool) (outer : Int) (c : Cursor) : Option (List Char × Cursor) := do
  let (chomping, increment, c) ← readHeader? c
  let (_, c) := c.takeWhile isBlank
  let c := if c.peek = some '#' then (c.takeWhile fun y => !isBreak y).2 else c
  if ¬c.endsAt 0 isBreak then none
  let c := c.nextLine.2
  let given : Nat := match increment with
    | some d => (if 0 ≤ outer then outer.toNat + d else d)
    | none => 0
  let (breaks, c, deepest) ← readEmptyLines? (c.rest.length + 1) c given [] 0
  let indent := if given = 0 then max (max deepest (outer + 1).toNat) 1 else given
  let (acc, lead, breaks, c) ← readLines? folded indent (c.rest.length + 1) c [] [] breaks false
  let ending := match chomping with
    | .strip => []
    | .clip => lead
    | .keep => lead ++ breaks
  return (acc ++ ending, c)

/-! ## Tags, anchors and directives -/

/-- A character of a tag. -/
def isTagChar (verbatim : Bool) (c : Char) : Bool :=
  isWord c || c ∈ ";/?:@&=+$.%!~*'()".toList || (verbatim && c ∈ ",[]".toList)

/-- Read a tag behind its exclamation mark: the handle, without that mark only in a verbatim
tag, and the suffix. -/
def readTag? (flow : Bool) (c : Cursor) : Option (Token × Cursor) := do
  let (found, c) ← match c.rest with
    | '<' :: _ =>
      let (uri, c) := c.advance.takeWhile (isTagChar true)
      if uri.isEmpty ∨ c.peek ≠ some '>' then none
      else some (Token.tag "" (String.ofList uri), c.advance)
    | _ =>
      let (word, c') := c.takeWhile isWord
      if c'.peek = some '!' then
        let (suffix, c'') := c'.advance.takeWhile (isTagChar false)
        if suffix.isEmpty then none
        else some (.tag ("!" ++ String.ofList word ++ "!") (String.ofList suffix), c'')
      else
        let (suffix, c') := c.takeWhile (isTagChar false)
        some (.tag "!" (String.ofList suffix), c')
  if c.blankAt 0 ∨ (flow ∧ c.peek = some ',') then return (found, c) else none

/-- Read the name of an anchor or an alias. -/
def readName? (c : Cursor) : Option (String × Cursor) :=
  let (name, c) := c.takeWhile isWord
  if name.isEmpty ∨ ¬c.endsAt 0 (fun x => isBlank x || isBreak x || x ∈ "?:,]\x7d%@`".toList) then
    none
  else some (String.ofList name, c)

/-- Read a directive behind its percent sign. -/
def readDirective? (c : Cursor) : Option (Token × Cursor) := do
  let (name, c) := c.takeWhile isWord
  if ¬c.blankAt 0 then none
  let (_, c) := c.takeWhile isBlank
  let (found, c) ← match String.ofList name with
    | "YAML" =>
      let (major, c) := c.takeWhile Char.isDigit
      if c.peek ≠ some '.' then none
      else
        let (minor, c) := c.advance.takeWhile Char.isDigit
        if major = ['1'] ∧ (minor = ['1'] ∨ minor = ['2']) then some (Token.versionDirective, c)
        else none
    | "TAG" =>
      let (handle, c) := c.takeWhile fun x => !isBlank x && !isBreak x
      let (space, c) := c.takeWhile isBlank
      let (start, c) := c.takeWhile (isTagChar true)
      if handle.head? ≠ some '!' ∨ space.isEmpty ∨ start.isEmpty ∨ ¬c.blankAt 0 then none
      else some (.tagDirective (String.ofList handle) (String.ofList start), c)
    | _ => none
  let (_, c) := c.takeWhile isBlank
  let c := if c.peek = some '#' then (c.takeWhile fun y => !isBreak y).2 else c
  if c.endsAt 0 isBreak then return (found, c.nextLine.2) else none

/-! ## The run over a text -/

/-- Where a key could have begun. -/
structure KeyPlace where
  /-- The place among the tokens. -/
  token : Nat
  cursor : Cursor
  /-- Only a key can stand there. -/
  required : Bool

/-- The state of the run. -/
structure Run where
  cursor : Cursor
  tokens : Array Token := #[]
  /-- The column of the innermost block. -/
  indent : Int := -1
  /-- The columns of the blocks around it. -/
  outer : List Int := []
  /-- For each level of brackets, and for the text around them, a place for a key. -/
  places : List (Option KeyPlace) := [none]
  /-- A key may begin here. -/
  keyAllowed : Bool := true

namespace Run

/-- The run is inside brackets. -/
def inFlow (r : Run) : Bool := r.places.length > 1

/-- Add a token and go on at a place. -/
def push (r : Run) (t : Token) (c : Cursor) : Run :=
  { r with tokens := r.tokens.push t, cursor := c }

/-- Forget the place for a key; it must not be one where only a key can stand. -/
def dropPlace? (r : Run) : Option Run :=
  match r.places with
  | some p :: rest => if p.required then none else some { r with places := none :: rest }
  | _ => some r

/-- Remember this place for a key. -/
def savePlace? (r : Run) : Option Run :=
  if r.keyAllowed then do
    let required := !r.inFlow && r.indent = r.cursor.column
    let r ← r.dropPlace?
    return { r with places := some ⟨r.tokens.size, r.cursor, required⟩ :: r.places.drop 1 }
  else some r

/-- Forget the places for keys that began on another line or too far back. -/
def dropStale? (r : Run) : Option Run := do
  let places ← r.places.mapM fun place =>
    match place with
    | some p =>
      if p.cursor.line < r.cursor.line ∨ p.cursor.index + 1024 < r.cursor.index then
        if p.required then none else some none
      else some (some p)
    | none => some none
  return { r with places }

/-- Open a block at a column, if that is deeper; its token goes to a place among the tokens. -/
def openBlock (r : Run) (column : Nat) (place : Nat) (t : Token) : Run :=
  if r.inFlow ∨ ¬r.indent < (column : Int) then r
  else
    { r with
      outer := r.indent :: r.outer
      indent := column
      tokens := r.tokens.insertIdxIfInBounds place t }

/-- Close all blocks that are deeper than a column. -/
def closeBlocks (column : Int) : List Int → Run → Run
  | [], r => r
  | i :: rest, r =>
    if r.inFlow = false ∧ column < r.indent then
      closeBlocks column rest
        { r with indent := i, outer := rest, tokens := r.tokens.push .blockEnd }
    else r

/-- Close the blocks that a column ends. -/
def unroll (r : Run) (column : Int) : Run := closeBlocks column r.outer r

/-- Skip blanks, comments and line breaks up to the next token. -/
def skip : Nat → Run → Run
  | 0, r => r
  | fuel + 1, r =>
    let c := r.cursor
    let blank := fun x => x = ' ' || (x = '\t' && (r.inFlow || !r.keyAllowed))
    let c := if c.index = 0 ∧ c.peek = some '\uFEFF' then c.advance else c
    let c := (c.takeWhile blank).2
    let c := if c.peek = some '#' then (c.takeWhile fun y => !isBreak y).2 else c
    if c.peek.any isBreak then
      skip fuel { r with cursor := c.nextLine.2, keyAllowed := r.keyAllowed || !r.inFlow }
    else { r with cursor := c }

/-- A token at the margin that is part of no block: a directive or a document mark. -/
def margin? (r : Run) (t : Token) (c : Cursor) : Option Run := do
  let r ← (r.unroll (-1)).dropPlace?
  return { r with keyAllowed := false }.push t c

/-- An opening bracket. -/
def openFlow? (r : Run) (t : Token) : Option Run := do
  let r ← r.savePlace?
  return { r with places := none :: r.places, keyAllowed := true }.push t r.cursor.advance

/-- A closing bracket. -/
def closeFlow? (r : Run) (t : Token) : Option Run := do
  let r ← r.dropPlace?
  let places := if r.inFlow then r.places.drop 1 else r.places
  return { r with places, keyAllowed := false }.push t r.cursor.advance

/-- A dash or a question mark that opens an entry of a block. -/
def entry? (r : Run) (block t : Token) : Option Run := do
  if ¬r.inFlow ∧ ¬r.keyAllowed then none
  let r ← (r.openBlock r.cursor.column r.tokens.size block).dropPlace?
  let keyAllowed := if t = .key then !r.inFlow else true
  return { r with keyAllowed }.push t r.cursor.advance

/-- A colon: what stands at the place for a key becomes the key. -/
def value? (r : Run) : Option Run :=
  match r.places with
  | some p :: rest =>
    let r := { r with places := none :: rest, tokens := r.tokens.insertIdxIfInBounds p.token .key }
    let r := r.openBlock p.cursor.column p.token .blockMapping
    some ({ r with keyAllowed := false }.push .value r.cursor.advance)
  | _ =>
    if ¬r.inFlow ∧ ¬r.keyAllowed then none
    else
      let r := r.openBlock r.cursor.column r.tokens.size .blockMapping
      some ({ r with keyAllowed := !r.inFlow }.push .value r.cursor.advance)

/-- A token that may belong to a key. -/
def content? (r : Run) (read : Cursor → Option (Token × Cursor)) : Option Run := do
  let r ← r.savePlace?
  let (t, c) ← read r.cursor
  return { r with keyAllowed := false }.push t c

/-- A plain scalar. -/
def plain? (r : Run) : Option Run := do
  let r ← r.savePlace?
  let (text, c, broken) ←
    readPlain? r.inFlow (r.indent + 1) (r.cursor.rest.length + 1) r.cursor {} []
  return { r with keyAllowed := broken }.push (.scalar (String.ofList text) .plain) c

/-- A block scalar. -/
def block? (r : Run) (style : Style) : Option Run := do
  let r ← r.dropPlace?
  let (text, c) ← readBlock? (style = .folded) r.indent r.cursor.advance
  return { r with keyAllowed := true }.push (.scalar (String.ofList text) style) c

/-- A quoted scalar. -/
def quoted? (r : Run) (style : Style) : Option Run :=
  r.content? fun c => do
    let (text, c) ← readQuoted? (style = .double) (c.rest.length + 1) c.advance []
    return (.scalar (String.ofList text) style, c)

/-- The characters that cannot begin a plain scalar. -/
def indicators : List Char := "-?:,[]\x7b\x7d#&*!|>'\"%@`".toList

/-- Read one token. -/
def next? (r : Run) (x : Char) : Option Run :=
  let c := r.cursor
  if c.column = 0 ∧ x = '%' then do
    let r ← (r.unroll (-1)).dropPlace?
    let (t, c) ← readDirective? c.advance
    return { r with keyAllowed := false }.push t c
  else if c.atDocumentMark then
    r.margin? (if x = '-' then .documentStart else .documentEnd) (c.advance 3)
  else if x = '[' then r.openFlow? .flowSequenceStart
  else if x = '\x7b' then r.openFlow? .flowMappingStart
  else if x = ']' then r.closeFlow? .flowSequenceEnd
  else if x = '\x7d' then r.closeFlow? .flowMappingEnd
  else if x = ',' then do
    let r ← r.dropPlace?
    return { r with keyAllowed := true }.push .flowEntry c.advance
  else if x = '-' ∧ c.blankAt 1 then r.entry? .blockSequence .blockEntry
  else if x = '?' ∧ (r.inFlow ∨ c.blankAt 1) then r.entry? .blockMapping .key
  else if x = ':' ∧ (r.inFlow ∨ c.blankAt 1) then r.value?
  else if x = '*' then r.content? fun c => (readName? c.advance).map fun (n, c) => (.alias n, c)
  else if x = '&' then r.content? fun c => (readName? c.advance).map fun (n, c) => (.anchor n, c)
  else if x = '!' then r.content? fun c => readTag? r.inFlow c.advance
  else if x = '|' ∧ ¬r.inFlow then r.block? .literal
  else if x = '>' ∧ ¬r.inFlow then r.block? .folded
  else if x = '\'' then r.quoted? .single
  else if x = '"' then r.quoted? .double
  else if (x ∉ indicators ∧ ¬c.blankAt 0) ∨ (x = '-' ∧ ¬c.blankAt 1)
      ∨ (¬r.inFlow ∧ (x = '?' ∨ x = ':') ∧ ¬c.blankAt 1) then r.plain?
  else none

/-- Read all tokens. -/
def all? : Nat → Run → Option (Array Token)
  | 0, _ => none
  | fuel + 1, r => do
    let r := r.skip (r.cursor.rest.length + 1)
    let r ← r.dropStale?
    match r.cursor.peek with
    | none => return (← (r.unroll (-1)).dropPlace?).tokens
    | some x => all? fuel (← (r.unroll r.cursor.column).next? x)

end Run

/-- The tokens of a text. -/
def tokens? (s : String) : Option (List Token) :=
  let cs := s.toList
  if cs.all isAllowed then (Run.all? (cs.length + 1) { cursor := { rest := cs } }).map Array.toList
  else none

end SecretConfig.Yaml
