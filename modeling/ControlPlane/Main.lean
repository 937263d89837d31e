import ControlPlane.Program

/-!
# The executable

Reads the arguments and the variables, runs the program, and writes what it says. No transport is
linked in, so every dial is refused, at once.
-/

open ControlPlane

/-- The variables of the process that the program looks at. -/
def readVariables : IO Program.Variables := do
  let names := ["CIRRUS_ENDPOINT", "CIRRUS_TIMEOUT", "CLICOLOR_FORCE", "NO_COLOR"]
  let entries ← names.mapM fun name => return (name, ← IO.getEnv name)
  return .ofList (entries.filterMap fun (name, value) => value.map fun v => (name, v))

/-- Runs the program. -/
def main (arguments : List String) : IO UInt32 := do
  let found ← readVariables
  match (Program.run found arguments (.refusing 0) []).1 with
  | none => return 1
  | some outcome =>
    (← IO.getStdout).putStr outcome.stdout
    (← IO.getStderr).putStr outcome.stderr
    return UInt32.ofNat outcome.exit
