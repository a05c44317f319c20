import SecretConfig.Settings.Environment
import SecretConfig.Text.Blank

set_option autoImplicit false

/-! # Files of assignments

A file beside the program may hold assignments `NAME=value`, which add to the environment what
it lacks. A line that begins with `#` says nothing, and neither does what stands behind ` #`.
A value may be quoted: inside of `"` a backslash escapes, inside of `'` every character stands
for itself, and both kinds may go on over several lines. Outside of `'` a `$` is followed by
the name of a variable, which may stand in braces.

Reading ends with the first line that is no assignment; those before it count. -/

namespace SecretConfig.CommandLine

/-- A line that is no assignment, and the place at which that shows. -/
structure AssignmentFault where
  line : String
  place : Nat
deriving DecidableEq, Repr, Inhabited

/-- The text of a fault. -/
def AssignmentFault.message (f : AssignmentFault) : String :=
  "Error parsing line: '" ++ f.line ++ "', error at line index: " ++ toString f.place

namespace Assignments

/-! ## Lines that belong together -/

/-- Where the end of a text stands. -/
inductive LineState where
  | plain
  | blank
  | escape
  | strong
  | strongEscape
  | weak
  | weakEscape
deriving DecidableEq, Repr, Inhabited

/-- Where one more character outside of quotes leads to. -/
def openState (c : Char) : LineState :=
  if c = '\\' then .escape else if c = '"' then .weak else if c = '\'' then .strong else .plain

/-- Go through a line; the first part of the answer is what comes before a comment, if there
is one. -/
def scanLine : LineState → List Char → List Char → Option (List Char) × LineState
  | state, _, [] => (none, state)
  | state, seen, c :: rest =>
    let next (state : LineState) := scanLine state (c :: seen) rest
    match state with
    | .blank => if c = '#' then (some seen.reverse, .plain) else next (openState c)
    | .escape => next .plain
    | .plain =>
      if Text.isBlank c ∧ c ≠ '\n' ∧ c ≠ '\r' then next .blank else next (openState c)
    | .weak =>
      next (if c = '\\' then .weakEscape else if c = '"' then .plain else .weak)
    | .weakEscape => next .weak
    | .strong =>
      next (if c = '\\' then .strongEscape else if c = '\'' then .plain else .strong)
    | .strongEscape => next .strong

/-- Split a text behind every line end. -/
def splitLines (cs : List Char) : List (List Char) :=
  let (line, lines) := cs.foldr
    (fun c (acc : List Char × List (List Char)) =>
      if c = '\n' then ([c], if acc.1.isEmpty then acc.2 else acc.1 :: acc.2)
      else (c :: acc.1, acc.2)) ([], [])
  if line.isEmpty then lines else line :: lines

/-- Drop the line end. -/
def dropLineEnd (cs : List Char) : List Char :=
  match cs.reverse with
  | '\n' :: '\r' :: rest | '\n' :: rest => rest.reverse
  | _ => cs

/-- Join the lines that belong together; the second part tells a text that ends too early. -/
def joinLines : List (List Char) → List Char → LineState → List (List Char) × Option (List Char)
  | [], held, state => ([], if state = .plain then none else some held)
  | line :: rest, held, state =>
    let whole := held ++ line
    if (whole.dropWhile Text.isBlank).head? = some '#' then joinLines rest [] .plain
    else
      match scanLine state [] line with
      | (some before, _) =>
        let (lines, fault) := joinLines rest [] .plain
        ((held ++ before) :: lines, fault)
      | (none, .plain) =>
        let (lines, fault) := joinLines rest [] .plain
        (dropLineEnd whole :: lines, fault)
      | (none, state) => joinLines rest whole state

/-! ## Values -/

/-- Whether a name of a variable is being read. -/
inductive NameState where
  | none
  | bare
  | braced
deriving DecidableEq, Repr, Inhabited

/-- Where a value stands. -/
structure ValueState where
  strong : Bool := false
  weak : Bool := false
  escaped : Bool := false
  ending : Bool := false
  naming : NameState := .none
  /-- The name that is being read, its last character first. -/
  name : List Char := []
  /-- What has been read, its last character first. -/
  out : List Char := []
deriving DecidableEq, Repr, Inhabited

/-- Put the value of the variable in the place of its name. -/
def ValueState.substitute (env : Environment) (s : ValueState) : ValueState :=
  let value := (env (String.ofList s.name.reverse)).getD ""
  { s with name := [], out := value.toList.reverse ++ s.out }

/-- A character that names go on with. -/
def isNameChar (c : Char) : Bool := c.isAlphanum || 0x80 ≤ c.toNat

/-- Read one more character; `none` when it may not stand there. -/
def ValueState.read (env : Environment) (s : ValueState) (c : Char) : Option ValueState :=
  if s.ending then if c = ' ' ∨ c = '\t' then some s else none
  else if s.escaped then
    if c ∈ ['\\', '\'', '"', '$', ' '] then some { s with escaped := false, out := c :: s.out }
    else if c = 'n' then some { s with escaped := false, out := '\n' :: s.out }
    else none
  else if s.strong then
    some (if c = '\'' then { s with strong := false } else { s with out := c :: s.out })
  else if s.naming ≠ .none then
    if isNameChar c then some { s with name := c :: s.name }
    else if s.naming = .bare then
      if c = '\x7b' ∧ s.name.isEmpty then some { s with naming := .braced }
      else
        let s := s.substitute env
        some (if c = '$' then { s with naming := .bare }
          else { s with naming := .none, out := c :: s.out })
    else if c = '\x7d' then some { s.substitute env with naming := .none }
    else some { s with name := c :: s.name }
  else if c = '$' then some { s with naming := .bare }
  else if s.weak then
    some (if c = '"' then { s with weak := false }
      else if c = '\\' then { s with escaped := true }
      else { s with out := c :: s.out })
  else if c = '\'' then some { s with strong := true }
  else if c = '"' then some { s with weak := true }
  else if c = '\\' then some { s with escaped := true }
  else if c = ' ' ∨ c = '\t' then some { s with ending := true }
  else some { s with out := c :: s.out }

/-- Read a value; the number is that of the characters read. -/
def readValue (env : Environment) : List Char → Nat → ValueState → Except Nat String
  | [], place, s =>
    if s.naming = .braced ∨ s.strong ∨ s.weak then .error (place - 1)
    else .ok (String.ofList (s.substitute env).out.reverse)
  | c :: rest, place, s =>
    if s.ending ∧ c = '#' then .ok (String.ofList (s.substitute env).out.reverse)
    else
      match s.read env c with
      | some s => readValue env rest (place + 1) s
      | none => .error place

/-! ## Assignments -/

/-- A name and what stands behind it. -/
def readName? (cs : List Char) : Option (List Char × List Char) :=
  match cs with
  | c :: _ =>
    if c.isAlpha ∨ c = '_' then
      some (cs.span fun c => c.isAlphanum || c = '_' || c = '.')
    else none
  | [] => none

/-- Drop blanks, and count what was dropped. -/
def skipBlanks (cs : List Char) (place : Nat) : List Char × Nat :=
  let rest := cs.dropWhile Text.isBlank
  (rest, place + (cs.length - rest.length))

/-- What stands behind the equals sign of a name. -/
def readEqual? : List Char → Option (List Char)
  | '=' :: rest => some rest
  | _ => none

/-- A name up to its equals sign; the word `export` may precede it. -/
def readTarget (cs : List Char) (place : Nat) : Except Nat (String × List Char) :=
  match readName? cs with
  | none => .error place
  | some (name, rest) =>
    let (rest, behind) := skipBlanks rest (place + name.length)
    match readEqual? rest with
    | some rest => .ok (String.ofList name, rest)
    | none =>
      if String.ofList name = "export" then
        match readName? rest with
        | none => .error behind
        | some (name, rest) =>
          let (rest, behind) := skipBlanks rest (behind + name.length)
          match readEqual? rest with
          | some rest => .ok (String.ofList name, rest)
          | none => .error behind
      else .error behind

/-- Read one line: an assignment, or nothing. -/
def readLine (env : Environment) (line : List Char) :
    Except AssignmentFault (Option (String × String)) :=
  let (cs, place) := skipBlanks (line.reverse.dropWhile Text.isBlank).reverse 0
  if cs.isEmpty ∨ cs.head? = some '#' then .ok none
  else
    match readTarget cs place with
    | .error place => .error ⟨String.ofList line, place⟩
    | .ok (name, rest) =>
      let value := rest.dropWhile Text.isBlank
      if value.isEmpty ∨ value.head? = some '#' then .ok (some (name, ""))
      else
        match readValue env value 0 {} with
        | .ok text => .ok (some (name, text))
        | .error place => .error ⟨String.ofList value, place⟩

/-- An environment with one more variable, unless it has it already. -/
def extend (env : Environment) (name value : String) : Environment :=
  fun n => if n = name ∧ (env name).isNone then some value else env n

/-- Take over the assignments of lines one after the other. -/
def readAll : List (List Char) → Environment → Environment × Option AssignmentFault
  | [], env => (env, none)
  | line :: rest, env =>
    match readLine env line with
    | .ok none => readAll rest env
    | .ok (some (name, value)) => readAll rest (extend env name value)
    | .error fault => (env, some fault)

/-- Add to an environment what a text assigns. -/
def apply (text : String) (env : Environment) : Environment × Option AssignmentFault :=
  let cs := match text.toList with
    | '\ufeff' :: rest => rest
    | cs => cs
  let (lines, early) := joinLines (splitLines cs) [] .plain
  match readAll lines env with
  | (env, none) => (env, early.map fun held => ⟨String.ofList held, (String.ofList held).utf8ByteSize⟩)
  | (env, some fault) => (env, some fault)

end Assignments

end SecretConfig.CommandLine
