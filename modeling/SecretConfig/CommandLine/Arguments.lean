import SecretConfig.Json.Document
import SecretConfig.Settings.Environment

set_option autoImplicit false

/-! # Arguments of the command line

Options come before the subcommand they do not belong to, or behind the one they do. A value
stands behind its option, or in the same argument: `-o json`, `-ojson`, `-o=json`,
`--output json` and `--output=json` are the same. No option is given twice. -/

namespace SecretConfig.CommandLine

/-- What the program is to do. -/
inductive Command where
  /-- Read every backend once and print the merged properties. -/
  | properties (format : String) (reveal : Bool)
  /-- List the paths of the backends. -/
  | backends
  /-- Keep a session alive; refresh every so many seconds unless that is zero. -/
  | run (refreshInterval : Nat)
deriving DecidableEq, Repr, Inhabited

/-- A command with the options that all commands share. -/
structure Invocation where
  config : Option String := none
  verbose : Bool := false
  command : Command
deriving DecidableEq, Repr, Inhabited

/-- Why arguments are no invocation. -/
inductive Halt where
  /-- The version was asked for. -/
  | version
  /-- Help was asked for. -/
  | help
  /-- The arguments make no sense. -/
  | invalid
deriving DecidableEq, Repr, Inhabited

/-! ## Options -/

/-- What an option does. -/
inductive SwitchKind where
  | flag
  /-- It has a value; an empty one is allowed or not. -/
  | value (mayBeEmpty : Bool)
  | halts (halt : Halt)
deriving DecidableEq, Repr, Inhabited

/-- An option with its names. -/
structure Switch where
  long : String
  short : Option Char := none
  kind : SwitchKind
deriving DecidableEq, Repr, Inhabited

/-- The option that asks for help. -/
def helpSwitch : Switch := ⟨"help", some 'h', .halts .help⟩

/-- The options in front of the subcommand. -/
def sharedSwitches : List Switch :=
  [⟨"config", some 'c', .value false⟩, ⟨"verbose", some 'v', .flag⟩,
   ⟨"version", some 'V', .halts .version⟩, helpSwitch]

/-- The options of `properties`. -/
def propertiesSwitches : List Switch :=
  [⟨"output", some 'o', .value true⟩, ⟨"reveal", none, .flag⟩, helpSwitch]

/-- The options of `run`. -/
def runSwitches : List Switch := [⟨"refresh-interval", none, .value true⟩, helpSwitch]

/-! ## Scanning -/

/-- The options that were given, with their values. -/
abbrev Given := List (String × String)

/-- The value of an option. -/
def Given.value? (g : Given) (long : String) : Option String :=
  (g.find? fun e => e.1 = long).map Prod.snd

/-- Add an option that was not given before. -/
def Given.add (g : Given) (w : Switch) (value : String) : Except Halt Given :=
  if (g.value? w.long).isSome ∨ (w.kind = .value false ∧ value.isEmpty) then .error .invalid
  else .ok (g ++ [(w.long, value)])

/-- Read the short options in one argument. The last may be left without its value. -/
def cluster (known : List Switch) : List Char → Given → Except Halt (Given × Option Switch)
  | [], g => .ok (g, none)
  | c :: rest, g =>
    match known.find? fun w => w.short = some c with
    | none => .error .invalid
    | some w =>
      match w.kind with
      | .halts halt => .error halt
      | .flag => do cluster known rest (← g.add w "")
      | .value _ =>
        match rest with
        | [] => .ok (g, some w)
        | '=' :: value => do return (← g.add w (String.ofList value), none)
        | value => do return (← g.add w (String.ofList value), none)

/-- Read a long option, which may be left without its value. -/
def longSwitch (known : List Switch) (cs : List Char) (g : Given) :
    Except Halt (Given × Option Switch) :=
  let name := String.ofList (cs.takeWhile (· ≠ '='))
  match known.find? (fun w => w.long = name), cs.dropWhile (· ≠ '=') with
  | none, _ => .error .invalid
  | some w, [] =>
    match w.kind with
    | .halts halt => .error halt
    | .flag => do return (← g.add w "", none)
    | .value _ => .ok (g, some w)
  | some w, _ :: value =>
    match w.kind with
    | .value _ => do return (← g.add w (String.ofList value), none)
    | .flag | .halts _ => .error .invalid

/-- The argument looks like an option. -/
def isSwitchLike (s : String) : Bool :=
  match s.toList with
  | '-' :: _ :: _ => true
  | _ => false

/-- Read options up to the first argument that is none. -/
def scan (known : List Switch) : List String → Given → Except Halt (Given × List String)
  | [], g => .ok (g, [])
  | arg :: rest, g =>
    let outcome : Option (Except Halt (Given × Option Switch)) :=
      match arg.toList with
      | ['-', '-'] => some (if rest.isEmpty then .ok (g, none) else .error .invalid)
      | '-' :: '-' :: cs => some (longSwitch known cs g)
      | '-' :: c :: cs => some (cluster known (c :: cs) g)
      | _ => none
    match outcome with
    | none => .ok (g, arg :: rest)
    | some (.error halt) => .error halt
    | some (.ok (g, none)) => scan known rest g
    | some (.ok (g, some w)) =>
      match rest with
      | [] => .error .invalid
      | value :: rest =>
        if isSwitchLike value then .error .invalid
        else
          match g.add w value with
          | .ok g => scan known rest g
          | .error halt => .error halt

/-- Read options where nothing else may stand. -/
def scanAll (known : List Switch) (args : List String) : Except Halt Given := do
  let (g, rest) ← scan known args []
  if rest.isEmpty then return g else .error .invalid

/-! ## Invocations -/

/-- A count of 64 bits in decimal digits, which a plus sign may precede. -/
def count? (s : String) : Option Nat :=
  let digits := match s.toList with
    | '+' :: cs => cs
    | cs => cs
  if ¬digits.isEmpty ∧ digits.all Char.isDigit then
    let n := Json.Document.ofDigits (digits.map fun c => c.toNat - '0'.toNat)
    if n < UInt64.size then some n else none
  else none

/-- Read a subcommand with its options. -/
def readCommand (name : String) (args : List String) : Except Halt Command :=
  match name with
  | "properties" => do
    let g ← scanAll propertiesSwitches args
    return .properties ((g.value? "output").getD "table") (g.value? "reveal").isSome
  | "backends" => do
    let _ ← scanAll [helpSwitch] args
    return .backends
  | "run" => do
    let g ← scanAll runSwitches args
    match (g.value? "refresh-interval").map count? with
    | none => return .run 0
    | some (some n) => return .run n
    | some none => .error .invalid
  | "help" => .error .help
  | _ => .error .invalid

/-- The variable that names the settings file when no option does. -/
def configVariable : String := "VAULTLINE_CONFIG"

/-- Read arguments. -/
def readInvocation (env : Environment) (args : List String) : Except Halt Invocation := do
  match ← scan sharedSwitches args [] with
  | (_, []) => .error .invalid
  | (g, name :: rest) =>
    let command ← readCommand name rest
    let config := (g.value? "config").orElse fun _ => env configVariable
    if config = some "" then .error .invalid
    else return { config, verbose := (g.value? "verbose").isSome, command }

end SecretConfig.CommandLine
