import CurlSnippets.Command.Findings
import CurlSnippets.CommandLine.Files
import CurlSnippets.CommandLine.Help
import CurlSnippets.Settings
import CurlSnippets.Snippet.Target
import CurlSnippets.Tracing.SetUp

/-!
# Running the program

What the program does for a command line: it prints help or the names of the targets, or sets up
tracing, reads a command from a file or from standard input and prints the snippet for it.  Nothing is
printed for a target that is refused, and exit code 2 says so.  A run breaks off when tracing cannot be
set up, when the file has an impossible path or when the value of the target's option was dropped.
-/

namespace CurlSnippets.CommandLine

/-- What a run of the program leaves behind. -/
structure Outcome where
  exitCode : Nat := 0
  output : Text := []
  /-- What is printed about a refused command line. -/
  complaint : Text := []
  /-- What was done to set up tracing. -/
  tracing : List Tracing.Act := []
  /-- The log records written on the way. -/
  records : List Log.Record := []
deriving DecidableEq

/-- Why a run breaks off without an outcome. -/
inductive RunError where
  /-- An exporter for traces is of no kind. -/
  | scheme (cause : Tracing.SchemeError)
  /-- The path of the file holds a null character, so that no file can have it. -/
  | nullInPath
  /-- There is no target to look for. -/
  | noTarget
deriving DecidableEq

/-- The wording of the error. -/
def RunError.message : RunError → Text
  | .scheme cause => cause.message
  | .nullInPath => "embedded null byte"
  | .noTarget => "'list' object has no attribute 'strip'"

/-- The outcome of a refused command line. -/
def Outcome.refused (e : UsageError) : Outcome := { exitCode := 2, complaint := e.report }

/-- The record that names what was not found in a command, if anything. -/
def undetectedRecords (parts : List Part) : List Log.Record :=
  if parts.isEmpty then []
  else
    [⟨.info, Log.ownLogger,
      "Not found in the command: " ++ Text.join ", " (parts.map Part.name)⟩]

/-- Prints the snippet of a target for a command. -/
def convertTo (target : Text) (strict : Bool) (command : Text) : Outcome :=
  let report := readCommand command {}
  let records := report.records ++ undetectedRecords report.undetected
  match snippet target strict report.request with
  | .ok t => { output := t ++ ['\n'], records := records ++ snippetRecords target strict }
  | .error e => { exitCode := 2, records := records ++ [⟨.error, Log.ownLogger, e.message⟩] }

/-- Prints the snippet for a command, if there is a target. -/
def convert (target : Option Text) (strict : Bool) (command : Text) : Except RunError Outcome :=
  match target with
  | some target => .ok (convertTo target strict command)
  | none => .error .noTarget

/-- The names of the targets, one a line. -/
def targetList : Outcome :=
  { output := Text.lines (Target.registered.map Prod.fst) ++ ['\n'] }

/-- What the program has to do once the words of the command line are read. -/
inductive Task where
  /-- The outcome is known. -/
  | done (o : Outcome)
  /-- A command is to be read from a file, or else from standard input, and converted. -/
  | convert (file target : Option Text) (strict : Bool)

/-- What a command line asks for under some settings. -/
def plan (settings : Settings) (words : List Text) : Task :=
  let defaults : Arguments :=
    { target := some settings.defaultTarget, strict := settings.strictTargets }
  match Arguments.read defaults words with
  | .error e => .done (.refused e)
  | .ok .help => .done { output := help settings.defaultTarget }
  | .ok (.run a) => if a.listTargets then .done targetList else .convert a.file a.target a.strict

/-- Converts what a file was found to hold. -/
def convertFile (path : Text) (target : Option Text) (strict : Bool) :
    Except OpenError Text → Except RunError Outcome
  | .ok command => convert target strict (withLineFeeds command)
  | .error e => .ok (.refused (.unreadable path e.message))

/-- Converts the command in a file of a directory, or else the one on standard input. -/
def convertSource (directory : Directory) (input : Text) (file target : Option Text) (strict : Bool) :
    Except RunError Outcome :=
  match file with
  | none => convert target strict (withLineFeeds input)
  | some path =>
    if path.contains '\x00' then .error .nullInPath
    else convertFile path target strict (directory.read path)

/-- The rest of a run behind the set-up of tracing, which breaks the run off if it failed. -/
def traced (setUp : Tracing.Outcome) (rest : Except RunError Outcome) : Except RunError Outcome :=
  match setUp.failure with
  | some e => .error (.scheme e)
  | none => rest.map fun o => { o with tracing := setUp.acts, records := setUp.records ++ o.records }

/-- Runs the program in a directory, with a text on standard input.  Tracing may be available or not. -/
def run (available : Bool) (settings : Settings) (directory : Directory) (input : Text)
    (words : List Text) : Except RunError Outcome :=
  match plan settings words with
  | .done o => .ok o
  | .convert file target strict =>
    traced (Tracing.setUp available settings.tracingExporters)
      (convertSource directory input file target strict)

end CurlSnippets.CommandLine
