import RecordFilter.Command.Run

/-!
# The command line

Reads the environment, the arguments and the files, and prints what the command writes.
-/

namespace RecordFilter.Command

def textOfFile (path : String) : IO (Option String) := do
  try
    return some (← IO.FS.readFile path)
  catch _ =>
    return none

def environmentVariables : IO Variables := do
  let names := [Settings.catalogVariable, Settings.depthVariable, Settings.hiddenVariable]
  let values ← names.mapM fun name => do
    return (← IO.getEnv name).map (name, ·)
  return values.filterMap id

/-- Carries out the command that the words of the command line write, and gives its status. -/
def perform (words : List String) : IO UInt32 := do
  match ← (run textOfFile (← environmentVariables) words).run with
  | .ok j =>
    IO.println j.pretty
    return 0
  | .error e =>
    IO.eprintln ("Error: " ++ e.message)
    return UInt32.ofNat e.status

end RecordFilter.Command

def main (words : List String) : IO UInt32 := RecordFilter.Command.perform words
