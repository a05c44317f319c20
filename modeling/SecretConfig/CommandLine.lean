import SecretConfig.CommandLine.Arguments
import SecretConfig.CommandLine.Assignments
import SecretConfig.Render
import SecretConfig.Settings.File
import SecretConfig.Settings.Observing
import SecretConfig.Agent.Startup

set_option autoImplicit false

/-! # The command line

`properties` prints the merged properties once, `backends` shows where each backend reads
from, and `run` keeps a session alive until it is interrupted. An invocation is a function from
what surrounds the program (`Surroundings`) to what it prints and the status with which it
ends (`Report`). -/

namespace SecretConfig.CommandLine

/-- What surrounds the program. -/
structure Surroundings where
  files : Files
  environment : Environment
  network : Vault.Network
  /-- How long after the start of `run` the interrupt comes. -/
  uptime : Duration := 0

/-- What the program leaves behind. -/
structure Report where
  status : UInt8 := 0
  output : String := ""
  errors : String := ""
deriving DecidableEq, Repr, Inhabited

/-- The version of the program. -/
def version : String := "0.1.0"

/-! ## Failures -/

/-- A failure: what failed, and the causes below it, outermost first. -/
structure Failure where
  summary : String
  causes : List String := []
deriving DecidableEq, Repr, Inhabited

namespace Failure

/-- The failure that an error is. -/
def ofError (e : Error) : Failure := ⟨e.message, e.causes⟩

/-- A failure with an error below it. -/
def within (summary : String) (e : Error) : Failure := ⟨summary, e.message :: e.causes⟩

/-- A cause with its number, if there are several; its lines are indented. -/
def causeText (number : Option Nat) (text : String) : String :=
  let margin := match number with
    | some _ => "       "
    | none => "    "
  let head := match number with
    | some n => "    " ++ toString n ++ ": "
    | none => "    "
  head ++ ("\n" ++ margin).intercalate (text.splitOn "\n")

/-- The text of a failure. -/
def text (f : Failure) : String :=
  let causes := match f.causes with
    | [] => []
    | [cause] => ["\n\nCaused by:", causeText none cause]
    | several => "\n\nCaused by:" :: several.mapIdx fun i cause => causeText (some i) cause
  "Error: " ++ f.summary ++ "\n".intercalate causes ++ "\n"

/-- The report of a failure. -/
def report (f : Failure) : Report := { status := 1, errors := f.text }

end Failure

/-! ## The commands -/

/-- A text on the left of a column. -/
def column (width : Nat) (s : String) : String :=
  s ++ String.ofList (List.replicate (width - s.length) ' ')

/-- The columns of the table of backends. -/
def columns : List (String × Nat) := [("NAME", 28), ("KIND", 10), ("ORDER", 6), ("PATH", 40)]

/-- The head of the table of backends. -/
def tableHead : List String :=
  let names := " ".intercalate (columns.map fun c => column c.2 c.1)
  let width := columns.foldl (fun n c => n + c.2 + 1) 0 - 1
  [Text.trim names, String.ofList (List.replicate width '-')]

/-- The line of a backend: its path, or why there is none. -/
def backendLine (d : Descriptor) : String :=
  let path := match Registry.standard.resolve d with
    | .ok plan => plan.path
    | .error e => "<" ++ e.message ++ ">"
  " ".intercalate [column 28 d.name, column 10 d.kind.name, column 6 (toString d.order.toInt), path]

/-- Print lines. -/
def printed (lines : List String) : String := String.join (lines.map (· ++ "\n"))

/-- List the backends. -/
def backends (c : Settings) : Report :=
  let descriptors := c.backends.descriptors
  if descriptors.isEmpty then { output := printed ["No backends configured"] }
  else
    { output := printed (tableHead ++ (descriptors.filter Descriptor.enabled).map backendLine) }

/-- Start the agent that settings describe. -/
def start (w : Surroundings) (c : Settings) :
    Except Failure (Agent × Option CallId) := do
  let store ← (c.server w.files w.network).mapError Failure.ofError
  let agent ← (c.agent w.files store Registry.standard).mapError Failure.ofError
  match agent.carryOut c.startGoal with
  | (agent, some (.started scheduler)) => return (agent, scheduler)
  | (_, some (.failed e)) => .error (Failure.ofError e)
  | _ => .error ⟨"the start did not end", []⟩

/-- Stop an agent that was started. -/
def stop (c : Settings) (s : Agent) (scheduler : Option CallId) : Agent :=
  (s.carryOut (c.stopGoal scheduler)).1

/-- Print the merged properties; the second part is what is left of the agent. -/
def properties (w : Surroundings) (c : Settings) (format : String) (reveal : Bool) :
    Except Failure (Report × Agent) := do
  match OutputFormat.parse? format with
  | none => .error ⟨OutputFormat.unknownMessage format, []⟩
  | some format =>
    let (agent, scheduler) ← start w c
    let found := agent.source.published.properties
    let shown := if reveal then found else Properties.redact found
    return ({ output := printed [Properties.render shown format] }, stop c agent scheduler)

/-- Let time pass, with a refresh after each interval. -/
def keepRefreshing (interval : Duration) : Nat → Agent → Agent
  | 0, s => s
  | n + 1, s =>
    keepRefreshing interval n (((s.carryOut (.pause interval)).1).carryOut .refresh).1

/-- Keep a session alive until the interrupt; the second part is what is left of the agent. -/
def run (w : Surroundings) (c : Settings) (refreshInterval : Nat) :
    Except Failure (Report × Agent) := do
  let (agent, scheduler) ← start w c
  let interval := refreshInterval * 1000
  let agent := keepRefreshing interval (w.uptime / interval) agent
  let agent := (agent.carryOut (.pause (w.uptime - w.uptime / interval * interval))).1
  return ({}, stop c agent scheduler)

/-- Carry out an invocation. -/
def invoke (w : Surroundings) (i : Invocation) : Except Failure Report := do
  let c ← (Settings.load w.files w.environment i.config).mapError
    (Failure.within "Failed to load configuration")
  let c := if i.verbose then
    { c with observability := { c.observability with logLevel := "debug" } } else c
  (c.observability.check (w.environment "RUST_LOG")).mapError Failure.ofError
  match i.command with
  | .properties format reveal => (properties w c format reveal).map Prod.fst
  | .backends => return backends c
  | .run refreshInterval => (run w c refreshInterval).map Prod.fst

/-! ## The program -/

/-- What is printed when help is asked for. -/
def usage : String :=
  printed
    ["Vault session and secret property loader", "",
     "Usage: vaultline [OPTIONS] <COMMAND>", "",
     "Commands:",
     "  properties  Read every backend once and print the merged properties",
     "  backends    Validate the configuration and list resolved backend paths",
     "  run         Keep the session alive and refresh properties until interrupted"]

/-- The status of a program whose arguments make no sense. -/
def usageStatus : UInt8 := 2

/-- The program's environment: a file `.env` adds to what surrounds it. -/
def surroundingEnvironment (w : Surroundings) : Environment × Option AssignmentFault :=
  match w.files ".env" with
  | .ok text => Assignments.apply text w.environment
  | .error _ => (w.environment, none)

/-- The program with its arguments. Assignments in a file `.env` add to the environment. -/
def execute (w : Surroundings) (args : List String) : Report :=
  let (environment, warning) := surroundingEnvironment w
  let warnings := match warning with
    | some fault => "Warning: Error loading .env file: " ++ fault.message ++ "\n"
    | none => ""
  let w := { w with environment }
  let report : Report := match readInvocation environment args with
    | .error .version => { output := printed ["vaultline " ++ version] }
    | .error .help => { output := usage }
    | .error .invalid => { status := usageStatus, errors := usage }
    | .ok i =>
      match invoke w i with
      | .ok report => report
      | .error failure => failure.report
  { report with errors := warnings ++ report.errors }

/-! ## What the program looks at -/

/-- The files that settings name. -/
def filesOf (c : Settings) : List String :=
  c.connection.caCertPath.toList ++ c.connection.identityPath.toList
    ++ [c.authentication.kubernetes.tokenFile]

/-- The files that the program looks at, as far as its surroundings tell. -/
def wantedFiles (w : Surroundings) (args : List String) : List String :=
  let environment := (surroundingEnvironment w).1
  ".env" :: match readInvocation environment args with
    | .error _ => []
    | .ok i =>
      i.config.toList ++ match Settings.load w.files environment i.config with
        | .ok c => filesOf c
        | .error _ => []

/-- The variables that the program looks at; a text of assignments may name more. -/
def wantedVariables (assignments : String) : List String :=
  let words := (assignments.toList.splitBy fun a b =>
    Assignments.isNameChar a && Assignments.isNameChar b).map String.ofList
  [configVariable, "RUST_LOG"] ++ Override.all.flatMap Override.names ++ words

end SecretConfig.CommandLine
