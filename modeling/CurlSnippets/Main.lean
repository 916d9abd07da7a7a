import CurlSnippets.CommandLine.Run
import CurlSnippets.Log.Format
import CurlSnippets.Log.Registry

/-!
# The program

The command line with its settings from the environment.
-/

namespace CurlSnippets.CommandLine

/-- The environment variables that settings are read from. -/
def readEnvironment : IO Settings.Environment := do
  let found ← (Settings.Field.all.flatMap Settings.Field.environmentNames).mapM fun v => do
    return (← IO.getEnv (String.ofList v)).map fun value => (v, value.toList)
  return found.filterMap id

/-- What comes of opening a file. -/
def openFile (path : Text) : IO (Except OpenError Text) := do
  try
    return .ok (← IO.FS.readFile (String.ofList path)).toList
  catch e =>
    match e with
    | .noFileOrDirectory .. => return .error .missing
    | .inappropriateType .. => return .error .directory
    | _ => throw e

/-- What comes of a command in a file, or else on standard input. -/
def performSource (file target : Option Text) (strict : Bool) : IO (Except RunError Outcome) := do
  match file with
  | none =>
    let input ← (← IO.getStdin).readToEnd
    return convert target strict (withLineFeeds input.toList)
  | some path =>
    if path.contains '\x00' then return .error .nullInPath
    return convertFile path target strict (← openFile path)

/-- What comes of a task.  There is nothing here to send traces with. -/
def perform (settings : Settings) : Task → IO (Except RunError Outcome)
  | .done o => return .ok o
  | .convert file target strict => do
    let setUp := Tracing.setUp false settings.tracingExporters
    if let some e := setUp.failure then return .error (.scheme e)
    return traced setUp (← performSource file target strict)

/-- The layout of log lines. -/
def logLayout : Text := "%(levelname)s | %(name)s | %(message)s"

/-- Prints what a run leaves behind. -/
def printOutcome (settings : Settings) (o : Outcome) : IO Unit := do
  let loggers : Log.Registry := ({} : Log.Registry).setOwn
    ((Log.levelNumber? settings.logLevel).getD Log.Level.warning.number)
  for r in loggers.emitted o.records do
    let raw : Log.RawRecord :=
      { level := r.level.number, logger := r.logger, template := r.message }
    match raw.line settings.noColor logLayout with
    | .ok line => IO.eprintln (String.ofList line)
    | .error _ => pure ()
  IO.eprint (String.ofList o.complaint)
  IO.print (String.ofList o.output)

end CurlSnippets.CommandLine

open CurlSnippets CurlSnippets.CommandLine in
/-- Converts the command that the command line names. -/
def main (words : List String) : IO UInt32 := do
  match Settings.read (← readEnvironment) {} with
  | .error faults =>
    for (field, fault) in faults do
      IO.eprintln (String.ofList (field.name ++ ": " ++ fault.message))
    return 1
  | .ok settings =>
    match ← perform settings (plan settings (words.map String.toList)) with
    | .error e =>
      IO.eprintln (String.ofList e.message)
      return 1
    | .ok o =>
      printOutcome settings o
      return UInt32.ofNat o.exitCode
