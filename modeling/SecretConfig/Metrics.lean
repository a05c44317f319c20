import SecretConfig.Dict
import SecretConfig.Session.Token

set_option autoImplicit false

/-! # Metrics

Counters of logins, renewals and backend reads by their outcome, and a gauge for each state of
a session, of which exactly the one of the last recorded state is 1. `Metrics.lines` writes
them in the text form that scrapers read. -/

namespace SecretConfig

/-- What has been recorded. -/
structure Metrics where
  /-- The metrics have been given their descriptions. -/
  described : Bool := false
  /-- Logins by outcome. -/
  logins : Dict Nat := Dict.empty
  /-- Renewals by outcome. -/
  renewals : Dict Nat := Dict.empty
  /-- Backend reads by kind and outcome. -/
  reads : Dict (Dict Nat) := Dict.empty
  /-- The name of the last recorded state. -/
  state : Option String := none
deriving DecidableEq, Inhabited

namespace Metrics

/-- What is recorded. -/
inductive Record where
  | login (outcome : String)
  | renewal (outcome : String)
  | read (backend outcome : String)
  | state (name : String)
deriving DecidableEq, Repr, Inhabited

/-- Count one more under a label. -/
def bump (counts : Dict Nat) (label : String) : Dict Nat :=
  counts.insert label ((counts.get? label).getD 0 + 1)

/-- Record something. -/
def add (m : Metrics) : Record → Metrics
  | .login outcome => { m with logins := bump m.logins outcome }
  | .renewal outcome => { m with renewals := bump m.renewals outcome }
  | .read backend outcome =>
    let counts := (m.reads.get? backend).getD Dict.empty
    { m with reads := m.reads.insert backend (bump counts outcome) }
  | .state name => { m with state := some name }

/-- Give the metrics their descriptions. -/
def describe (m : Metrics) : Metrics := { m with described := true }

/-! ## The text form -/

/-- A label in its written form. A backslash in front of a quote or of another backslash counts
as already written for it. -/
def escapeLabel : Bool → List Char → List Char
  | held, [] => if held then ['\\', '\\'] else []
  | held, c :: rest =>
    if c = '\n' then '\\' :: 'n' :: escapeLabel held rest
    else if c = '"' then '\\' :: '"' :: escapeLabel false rest
    else if c = '\\' then (if held then ['\\', '\\'] else []) ++ escapeLabel (!held) rest
    else (if held then ['\\', '\\'] else []) ++ c :: escapeLabel false rest

/-- A line with a value. -/
def line (name : String) (labels : List (String × String)) (value : Nat) : String :=
  let label := fun (l : String × String) =>
    l.1 ++ "=\"" ++ String.ofList (escapeLabel false l.2.toList) ++ "\""
  name ++ "\x7b" ++ ",".intercalate (labels.map label) ++ "\x7d " ++ toString value

/-- The lines of a metric: those of its values, and its description if it has values. -/
def family (described : Bool) (name help : String)
    (values : List (List (String × String) × Nat)) : List String :=
  (if described ∧ ¬values.isEmpty then ["# HELP " ++ name ++ " " ++ help] else [])
    ++ values.map fun v => line name v.1 v.2

/-- The counts of one label by its value. -/
def countsBy (label : String) (counts : Dict Nat) : List (List (String × String) × Nat) :=
  counts.entries.map fun e => ([(label, e.1)], e.2)

/-- The gauges of all states. -/
def gauges (m : Metrics) : List (List (String × String) × Nat) :=
  match m.state with
  | none => []
  | some current =>
    SessionState.names.map fun n => ([("state", n)], if n = current then 1 else 0)

/-- All lines in ascending order. -/
def lines (m : Metrics) : List String :=
  let reads := m.reads.entries.flatMap fun b =>
    b.2.entries.map fun e => ([("backend", b.1), ("outcome", e.1)], e.2)
  let all :=
    family m.described "vaultline_logins_total" "Login attempts against the secret store"
        (countsBy "outcome" m.logins)
      ++ family m.described "vaultline_renewals_total" "Token renewal attempts"
        (countsBy "outcome" m.renewals)
      ++ family m.described "vaultline_backend_reads_total" "Backend reads by outcome" reads
      ++ family m.described "vaultline_session_state"
        "1 for the current session state, 0 otherwise" m.gauges
  all.mergeSort (· ≤ ·)

end Metrics

end SecretConfig
