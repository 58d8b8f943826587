import GameClient.Host

/-!
# The program

The outer layer of the host: it fetches the file and the variables that the run needs, and prints
what comes of it.
-/

namespace GameClient.Host

/-- The variables that are set, of those that matter. -/
def setVariables : IO (List (String × String)) := do
  let names := [Config.scrollbackVariable, Config.finishTimeVariable, Config.startAmountVariable,
    Config.logFilterVariable]
  names.filterMapM fun name => do
    let value ← IO.getEnv name
    return value.map fun value => (name, value)

/-- The file of a path, if it can be read. -/
def fileAt (path : String) : IO Directory := do
  try
    return .ofReached path (← IO.FS.readBinFile path)
  catch _ =>
    return {}

end GameClient.Host

open GameClient

def main (arguments : List String) : IO UInt32 := do
  let files ← match Host.Options.ofArguments arguments with
    | .ok { config := some path, .. } => Host.fileAt path
    | _ => pure {}
  let outcome := Host.run arguments files (← Host.setVariables)
  (← IO.getStdout).putStr outcome.output
  (← IO.getStderr).putStr outcome.errors
  return outcome.code.toUInt32
