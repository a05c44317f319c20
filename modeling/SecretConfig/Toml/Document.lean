import SecretConfig.Toml.Table

set_option autoImplicit false

/-! # Reading TOML documents

`Toml.read?` gives the tree of a document. Every line holds a header, a key with its value, or
nothing but blanks and a comment. A moment in time is a value that no setting takes. -/

namespace SecretConfig.Toml

/-! ## Characters and blanks -/

/-- A space or a tab. -/
def isBlank (c : Char) : Bool := c = ' ' || c = '\t'

/-- A character that comments and strings may hold. -/
def isPrintable (c : Char) : Bool := c = '\t' || (0x20 ≤ c.toNat && c.toNat ≠ 0x7F)

/-- Drop blanks. -/
def skipBlanks (cs : List Char) : List Char := cs.dropWhile isBlank

/-- Drop a comment. -/
def skipComment (cs : List Char) : List Char :=
  match cs with
  | '#' :: rest => rest.dropWhile isPrintable
  | rest => rest

/-- What stands behind a line break, which has to be here. -/
def lineBreak? : List Char → Option (List Char)
  | '\n' :: rest => some rest
  | '\r' :: '\n' :: rest => some rest
  | _ => none

/-- Drop blanks, comments and line breaks. -/
def skipLines : Nat → List Char → List Char
  | 0, cs => cs
  | fuel + 1, cs =>
    match lineBreak? (skipComment (skipBlanks cs)) with
    | some rest => skipLines fuel rest
    | none => skipComment (skipBlanks cs)

/-! ## Strings -/

/-- The character whose code hexadecimal digits write. -/
def ofHex? (ds : List Char) : Option Char :=
  match ds.mapM Json.Document.hexValue? with
  | none => none
  | some vs =>
    let n := vs.foldl (fun n d => n * 16 + d) 0
    if n.isValidChar then some (Char.ofNat n) else none

/-- The character of an escape, and what stands behind it. -/
def escape? : List Char → Option (Char × List Char)
  | 'b' :: rest => some ('\x08', rest)
  | 't' :: rest => some ('\t', rest)
  | 'n' :: rest => some ('\n', rest)
  | 'f' :: rest => some ('\x0c', rest)
  | 'r' :: rest => some ('\r', rest)
  | '"' :: rest => some ('"', rest)
  | '\\' :: rest => some ('\\', rest)
  | 'u' :: rest => if rest.length < 4 then none else (ofHex? (rest.take 4)).map (·, rest.drop 4)
  | 'U' :: rest => if rest.length < 8 then none else (ofHex? (rest.take 8)).map (·, rest.drop 8)
  | _ => none

/-- Read a string of one line up to its closing quote. -/
def readBasic? : Nat → List Char → List Char → Option (List Char × List Char)
  | 0, _, _ => none
  | fuel + 1, cs, acc =>
    match cs with
    | '"' :: rest => some (acc.reverse, rest)
    | '\\' :: rest => do
      let (c, rest) ← escape? rest
      readBasic? fuel rest (c :: acc)
    | c :: rest => if isPrintable c then readBasic? fuel rest (c :: acc) else none
    | [] => none

/-- Read a string of one line without escapes. -/
def readLiteral? (cs : List Char) : Option (List Char × List Char) :=
  let text := cs.takeWhile (· ≠ '\'')
  match cs.drop text.length with
  | _ :: rest => if text.all isPrintable then some (text, rest) else none
  | [] => none

/-- Read a string of several lines up to its three closing quotes, in front of which two more
may stand. -/
def readLong? (quote : Char) : Nat → List Char → List Char → Option (List Char × List Char)
  | 0, _, _ => none
  | fuel + 1, cs, acc =>
    let quotes := (cs.takeWhile (· = quote)).length
    if quotes ≥ 6 then none
    else if quotes ≥ 3 then
      some (acc.reverse ++ List.replicate (quotes - 3) quote, cs.drop quotes)
    else
      match lineBreak? cs with
      | some rest => readLong? quote fuel rest ('\n' :: acc)
      | none =>
        match cs with
        | '\\' :: rest =>
          if quote = '\'' then readLong? quote fuel rest ('\\' :: acc)
          else
            match lineBreak? (skipBlanks rest) with
            | some rest =>
              readLong? quote fuel (rest.dropWhile fun c => isBlank c || c = '\n' || c = '\r') acc
            | none =>
              match escape? rest with
              | some (c, rest) => readLong? quote fuel rest (c :: acc)
              | none => none
        | c :: rest => if isPrintable c then readLong? quote fuel rest (c :: acc) else none
        | [] => none

/-- Read a string behind its opening quotes, of which there may be three. -/
def readString? (cs : List Char) : Option (List Char × List Char) :=
  let fuel := cs.length + 1
  let body := fun (rest : List Char) => (lineBreak? rest).getD rest
  match cs with
  | '"' :: '"' :: '"' :: rest => readLong? '"' fuel (body rest) []
  | '\'' :: '\'' :: '\'' :: rest => readLong? '\'' fuel (body rest) []
  | '"' :: rest => readBasic? fuel rest []
  | '\'' :: rest => readLiteral? rest
  | _ => none

/-! ## Keys -/

/-- A character of a key without quotes. -/
def isKeyChar (c : Char) : Bool := c.isAlphanum || c = '_' || c = '-'

/-- One key. -/
def readSimpleKey? (cs : List Char) : Option (String × List Char) :=
  match cs with
  | '"' :: rest => (readBasic? (rest.length + 1) rest []).map fun (k, r) => (String.ofList k, r)
  | '\'' :: rest => (readLiteral? rest).map fun (k, r) => (String.ofList k, r)
  | cs =>
    let key := cs.takeWhile isKeyChar
    if key.isEmpty then none else some (String.ofList key, cs.drop key.length)

/-- Keys joined by dots: those in front and the last. -/
def readKey? : Nat → List Char → List String → Option (List String × String × List Char)
  | 0, _, _ => none
  | fuel + 1, cs, acc => do
    let (key, rest) ← readSimpleKey? (skipBlanks cs)
    match skipBlanks rest with
    | '.' :: rest => readKey? fuel rest (key :: acc)
    | rest => return (acc.reverse, key, rest)

/-! ## Numbers and times -/

/-- Digits of a base, between which single underscores may stand. -/
def readDigits? (base : Nat) (cs : List Char) : Option (List Nat × List Char) :=
  let body := cs.takeWhile fun c => c = '_' || (Tree.digitValue? base c).isSome
  let ends := fun (l : List Char) => l.head?.any (· ≠ '_')
  let doubled := (body.zip (body.drop 1)).any fun p => p.1 = '_' && p.2 = '_'
  if ends body ∧ ends body.reverse ∧ ¬doubled then
    some (body.filterMap (Tree.digitValue? base), cs.drop body.length)
  else none

/-- The number that digits of a base write. -/
def ofDigits (base : Nat) (ds : List Nat) : Nat := ds.foldl (fun n d => n * base + d) 0

/-- An integer of 64 bits. -/
def integer? (i : Int) : Option Tree :=
  if Int64.minValue.toInt ≤ i ∧ i ≤ Int64.maxValue.toInt then some (.int i) else none

/-- What stands behind the exponent of a number, if there is one. -/
def skipExponent? (cs : List Char) : Option (Bool × List Char) :=
  match cs with
  | 'e' :: rest | 'E' :: rest =>
    let rest := match rest with
      | '+' :: r | '-' :: r => r
      | r => r
    (readDigits? 10 rest).map fun (_, r) => (true, r)
  | rest => some (false, rest)

/-- A number. -/
def readNumber? (cs : List Char) : Option (Tree × List Char) :=
  let (signed, negative, body) := match cs with
    | '+' :: rest => (true, false, rest)
    | '-' :: rest => (true, true, rest)
    | rest => (false, false, rest)
  let based := fun (base : Nat) (rest : List Char) => do
    if signed then none
    let (ds, rest) ← readDigits? base rest
    return (← integer? (ofDigits base ds), rest)
  match body with
  | 'i' :: 'n' :: 'f' :: rest | 'n' :: 'a' :: 'n' :: rest => some (.real, rest)
  | '0' :: 'x' :: rest => based 16 rest
  | '0' :: 'o' :: rest => based 8 rest
  | '0' :: 'b' :: rest => based 2 rest
  | body => do
    let (ds, rest) ← readDigits? 10 body
    if ds.length > 1 ∧ ds.head? = some 0 then none
    match rest with
    | '.' :: rest =>
      let (_, rest) ← readDigits? 10 rest
      let (_, rest) ← skipExponent? rest
      return (.real, rest)
    | rest =>
      let (real, rest) ← skipExponent? rest
      if real then return (.real, rest)
      else
        let n := (ofDigits 10 ds : Int)
        return (← integer? (if negative then -n else n), rest)

/-- A number of a fixed count of digits within bounds. -/
def readFixed? (count low high : Nat) (cs : List Char) : Option (Nat × List Char) :=
  let ds := cs.take count
  let n := ofDigits 10 (ds.map fun c => c.toNat - '0'.toNat)
  if ds.length = count ∧ ds.all Char.isDigit ∧ low ≤ n ∧ n ≤ high then some (n, cs.drop count)
  else none

/-- How many days a month has. -/
def daysIn (year month : Nat) : Nat :=
  if month = 2 then
    (if (year % 4 = 0 ∧ year % 100 ≠ 0) ∨ year % 400 = 0 then 29 else 28)
  else if month ∈ [4, 6, 9, 11] then 30
  else 31

/-- What stands behind a date. -/
def skipDate? (cs : List Char) : Option (List Char) := do
  let (year, rest) ← readFixed? 4 0 9999 cs
  let '-' :: rest := rest | none
  let (month, rest) ← readFixed? 2 1 12 rest
  let '-' :: rest := rest | none
  let (_, rest) ← readFixed? 2 1 (daysIn year month) rest
  return rest

/-- What stands behind a time of the day. -/
def skipTime? (cs : List Char) : Option (List Char) := do
  let (_, rest) ← readFixed? 2 0 23 cs
  let ':' :: rest := rest | none
  let (_, rest) ← readFixed? 2 0 59 rest
  let ':' :: rest := rest | none
  let (_, rest) ← readFixed? 2 0 60 rest
  match rest with
  | '.' :: d :: more => return if d.isDigit then more.dropWhile Char.isDigit else rest
  | rest => return rest

/-- What stands behind the offset of a time, if there is one. -/
def skipOffset (cs : List Char) : List Char :=
  let offset? := fun (rest : List Char) => do
    let (_, rest) ← readFixed? 2 0 23 rest
    let ':' :: rest := rest | none
    let (_, rest) ← readFixed? 2 0 59 rest
    return rest
  match cs with
  | 'Z' :: rest | 'z' :: rest => rest
  | '+' :: rest | '-' :: rest => (offset? rest).getD cs
  | rest => rest

/-- What stands behind a date, a time, or both. -/
def skipMoment? (cs : List Char) : Option (List Char) :=
  match skipDate? cs with
  | none => skipTime? cs
  | some rest =>
    match rest with
    | c :: more =>
      if c ∈ ['T', 't', ' '] then
        match skipTime? more with
        | some rest => some (skipOffset rest)
        | none => some rest
      else some rest
    | [] => some []

/-! ## Values -/

mutual

/-- A value. -/
def readValue? : Nat → List Char → Option (Tree × List Char)
  | 0, _ => none
  | fuel + 1, cs =>
    match cs with
    | '"' :: _ | '\'' :: _ => (readString? cs).map fun (s, r) => (.str (String.ofList s), r)
    | '[' :: rest => readItems? fuel rest []
    | '\x7b' :: rest =>
      match skipBlanks rest with
      | '\x7d' :: rest => some (.map [], rest)
      | _ => readPairs? fuel rest []
    | 't' :: 'r' :: 'u' :: 'e' :: rest => some (.bool true, rest)
    | 'f' :: 'a' :: 'l' :: 's' :: 'e' :: rest => some (.bool false, rest)
    | cs =>
      match skipMoment? cs with
      | some rest => some (.map [], rest)
      | none => readNumber? cs

/-- The items of a list up to its closing bracket. -/
def readItems? : Nat → List Char → List Tree → Option (Tree × List Char)
  | 0, _, _ => none
  | fuel + 1, cs, acc =>
    match skipLines cs.length cs with
    | ']' :: rest => some (.seq acc.reverse true, rest)
    | cs => do
      let (v, rest) ← readValue? fuel cs
      match skipLines rest.length rest with
      | ',' :: rest => readItems? fuel rest (v :: acc)
      | ']' :: rest => return (.seq (v :: acc).reverse true, rest)
      | _ => none

/-- The pairs of a table between braces, on one line and at least one. -/
def readPairs? : Nat → List Char → Fields → Option (Tree × List Char)
  | 0, _, _ => none
  | fuel + 1, cs, fields => do
    let (path, key, rest) ← readKey? (cs.length + 1) cs []
    let '=' :: rest := rest | none
    let (v, rest) ← readValue? fuel (skipBlanks rest)
    let fields ← fields.assign? path key v
    match skipBlanks rest with
    | ',' :: rest => readPairs? fuel rest fields
    | '\x7d' :: rest => return (.map (fieldTrees fields), rest)
    | _ => none

end

/-! ## Documents -/

/-- The end of a line: a comment at most, and a line break or the end of the text. -/
def lineEnd? (cs : List Char) : Option (List Char) :=
  match skipComment (skipBlanks cs) with
  | [] => some []
  | rest => lineBreak? rest

/-- Read one line; the header of the current table is carried along. -/
def readLine? (cs : List Char) (header : List String) (fields : Fields) :
    Option (List Char × List String × Fields) :=
  match skipBlanks cs with
  | [] => some ([], header, fields)
  | '[' :: '[' :: rest => do
    let (path, key, rest) ← readKey? (rest.length + 1) rest []
    let ']' :: ']' :: rest := rest | none
    return (← lineEnd? rest, path ++ [key], ← fields.openNext? path key)
  | '[' :: rest => do
    let (path, key, rest) ← readKey? (rest.length + 1) rest []
    let ']' :: rest := rest | none
    return (← lineEnd? rest, path ++ [key], ← fields.openTable? path key)
  | c :: rest =>
    if c = '#' ∨ (lineBreak? (c :: rest)).isSome then do
      return (← lineEnd? (c :: rest), header, fields)
    else do
      let (path, key, rest) ← readKey? (rest.length + 2) (c :: rest) []
      let '=' :: rest := rest | none
      let (v, rest) ← readValue? (2 * rest.length + 2) (skipBlanks rest)
      return (← lineEnd? rest, header, ← fields.assignAt? header path key v)

/-- Read all lines. -/
def readAll? : Nat → List Char → List String → Fields → Option Fields
  | 0, _, _, _ => none
  | fuel + 1, cs, header, fields =>
    match cs with
    | [] => some fields
    | cs => do
      let (rest, header, fields) ← readLine? cs header fields
      readAll? fuel rest header fields

/-- The tree of a document; a byte order mark in front is left out. -/
def read? (s : String) : Option Tree :=
  let cs := match s.toList with
    | '\uFEFF' :: rest => rest
    | rest => rest
  (readAll? (cs.length + 1) cs [] []).map fun fields => .map (fieldTrees fields)

end SecretConfig.Toml
