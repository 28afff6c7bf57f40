import RoleGrants.CommandLine.Run

/-!
# The program

Reads the settings from the environment and runs one command line on a store that is empty at the
start. The store is held in memory, so there is an engine for every address, and there are no pages
of help.
-/

open RoleGrants

/-- The settings among the variables of the environment. -/
def environmentSettings : IO (List (String × String)) := do
  let values ← Settings.names.mapM fun name => return (← IO.getEnv name).map fun v => (name, v)
  return values.filterMap id

def main (arguments : List String) : IO UInt32 := do
  match Settings.load (← environmentSettings) [] with
  | .error faults => do
    IO.eprintln (SettingFault.summary faults)
    return 1
  | .ok settings => do
    let host : CommandLine.Host := { helpPage := fun _ => "", engineFault? := fun _ => none }
    let (outcome, _) := CommandLine.run host settings arguments {}
    IO.print outcome.output
    IO.eprint outcome.errorOutput
    return outcome.status.toUInt32
