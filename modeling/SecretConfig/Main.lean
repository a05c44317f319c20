import SecretConfig.CommandLine

set_option autoImplicit false

/-! # The program

Arguments, files and the environment are read here, and a report is printed here; what comes in
between is `CommandLine.execute`. The program has no network of its own, so every server is out
of reach. -/

namespace SecretConfig.Program

open CommandLine

/-- Why a file cannot be read. -/
def faultOf : IO.Error → FileFault
  | .permissionDenied _ _ _ => .denied
  | .inappropriateType _ code _ => if code = 20 then .notDirectory else .directory
  | _ => .missing

/-- Read the text of a file. -/
def readText (path : String) : IO (Except FileFault String) := do
  try
    let bytes ← IO.FS.readBinFile path
    match String.fromUTF8? bytes with
    | some text => return .ok text
    | none => return .error .notText
  catch e => return .error (faultOf e)

/-- Read several files. -/
def readFiles (paths : List String) : IO Files := do
  let texts ← paths.mapM fun path => return (path, ← readText path)
  return fun path => ((texts.find? fun e => e.1 = path).map Prod.snd).getD (.error .missing)

/-- Read several variables. -/
def readEnvironment (names : List String) : IO Environment := do
  let values ← names.mapM fun name => return (name, ← IO.getEnv name)
  return fun name => (values.find? fun e => e.1 = name).bind Prod.snd

/-- Read all that the program looks at. What one file says can lead to another, so the files
are looked for three times. -/
def surroundings (args : List String) : IO Surroundings := do
  let assignments ← readText ".env"
  let environment ← readEnvironment (wantedVariables (assignments.toOption.getD ""))
  let network := Vault.unreachable "error sending request"
  let unread : Surroundings := { files := fun _ => .error .missing, environment, network }
  let first ← readFiles (wantedFiles unread args)
  let second ← readFiles (wantedFiles { unread with files := first } args)
  let third ← readFiles (wantedFiles { unread with files := second } args)
  return { unread with files := third }

end SecretConfig.Program

/-- Run the program: print its report and end with its status. -/
def main (args : List String) : IO UInt32 := do
  let report := SecretConfig.CommandLine.execute (← SecretConfig.Program.surroundings args) args
  IO.print report.output
  IO.eprint report.errors
  return report.status.toUInt32
