import CurlSnippets.Log.Level
import CurlSnippets.Tracing.Exporter

/-!
# Settings

The settings of the program and how they are read.  A setting comes from the value the caller gives,
else from an environment variable, else from its default.  Every setting is checked on its own, and
all that is wrong is reported together, in the order of the fields.
-/

namespace CurlSnippets

/-- The settings of the program. -/
structure Settings where
  /-- Log lines are written without colour. -/
  noColor : Bool := false
  /-- The name of the level at which logging starts. -/
  logLevel : Text := "WARNING"
  /-- The target of the command line when none is named. -/
  defaultTarget : Text := "curl"
  /-- Unknown targets are errors. -/
  strictTargets : Bool := false
  /-- The name under which traces are recorded. -/
  tracingResourceName : Text := "curlbridge"
  /-- Where traces are sent. -/
  tracingExporters : Option (List Tracing.Config) := none
deriving DecidableEq

namespace Settings

/-- The fields of the settings. -/
inductive Field where
  | noColor | logLevel | defaultTarget | strictTargets | tracingResourceName | tracingExporters
deriving DecidableEq, Repr

namespace Field

/-- The fields in order. -/
def all : List Field :=
  [.noColor, .logLevel, .defaultTarget, .strictTargets, .tracingResourceName, .tracingExporters]

/-- The name of a field. -/
def name : Field → Text
  | .noColor => "NO_COLOR"
  | .logLevel => "LOG_LEVEL"
  | .defaultTarget => "DEFAULT_TARGET"
  | .strictTargets => "STRICT_TARGETS"
  | .tracingResourceName => "TRACING_RESOURCE_NAME"
  | .tracingExporters => "TRACING_EXPORTERS"

/-- The environment variables that set a field, of which the first that exists counts. -/
def environmentNames (f : Field) : List Text :=
  (if f = .noColor then [f.name] else []) ++ ["CURLBRIDGE_" ++ f.name]

end Field

/-- What is wrong with one setting. -/
inductive Fault where
  /-- It is no truth value and cannot be one. -/
  | notBoolean
  /-- It cannot be read as a truth value. -/
  | unclearBoolean
  /-- It is not a text. -/
  | notText
  /-- There is no level of the name. -/
  | level (written : Text)
  | exporter (cause : Tracing.ConfigError)
deriving DecidableEq

namespace Fault

/-- The name of a fault's kind. -/
def kind : Fault → Text
  | .notBoolean => "bool_type"
  | .unclearBoolean => "bool_parsing"
  | .notText => "string_type"
  | .level _ => "value_error"
  | .exporter _ => "value_error"

/-- The wording of a fault. -/
def message : Fault → Text
  | .notBoolean => "Input should be a valid boolean"
  | .unclearBoolean => "Input should be a valid boolean, unable to interpret input"
  | .notText => "Input should be a valid string"
  | .level written => "Value error, " ++ written ++ " is not a valid log level."
  | .exporter cause => "Value error, " ++ cause.message

end Fault

/-! ### Checks of one value -/

/-- The truth value a word stands for, in any letter case of ASCII. -/
def boolOfText? (t : Text) : Option Bool :=
  let word := t.map Char.toLower
  if [("1" : Text), "t", "true", "y", "yes", "on"].contains word then some true
  else if [("0" : Text), "f", "false", "n", "no", "off"].contains word then some false
  else none

/-- The truth value a number stands for. -/
def boolOfInt? (n : Int) : Option Bool :=
  if n = 1 then some true else if n = 0 then some false else none

/-- A truth value, or a word or number that stands for one. -/
def readBool : Datum → Except Fault Bool
  | .bool b => .ok b
  | .text t => match boolOfText? t with
    | some b => .ok b
    | none => .error .unclearBoolean
  | .int n => match boolOfInt? n with
    | some b => .ok b
    | none => .error .unclearBoolean
  | .float x => match x.toInt? with
    | some n => match boolOfInt? n with
      | some b => .ok b
      | none => .error .unclearBoolean
    | none => .error .notBoolean
  | _ => .error .notBoolean

/-- The switch for colours: any text but the empty one turns them off. -/
def readNoColor : Datum → Except Fault Bool
  | .text t => .ok (!t.isEmpty)
  | v => readBool v

/-- The name of a level in upper case. -/
def readLevel (v : Datum) : Except Fault Text :=
  match Log.levelNumber? (Text.upper v.plain) with
  | some _ => .ok (Text.upper v.plain)
  | none => .error (.level v.plain)

/-- A text. -/
def readText : Datum → Except Fault Text
  | .text t => .ok t
  | _ => .error .notText

/-- A list of exporters. -/
def readExporters (source : Tracing.Source) : Except Fault (Option (List Tracing.Config)) :=
  match source.read with
  | .ok configs => .ok configs
  | .error e => .error (.exporter e)

/-! ### All settings together -/

/-- The values a caller gives, in place of those from the environment. -/
structure Given where
  noColor : Option Datum := none
  logLevel : Option Datum := none
  defaultTarget : Option Datum := none
  strictTargets : Option Datum := none
  tracingResourceName : Option Datum := none
  tracingExporters : Option Tracing.Source := none

/-- The environment: variables with their values. -/
abbrev Environment := List (Text × Text)

/-- The value of a field in the environment. -/
def fromEnvironment? (env : Environment) (f : Field) : Option Text :=
  f.environmentNames.findSome? fun v => env.lookup v

/-- The value of a field: as given, else from the environment. -/
def valueOf? (env : Environment) (f : Field) (given : Option Datum) : Option Datum :=
  given <|> (fromEnvironment? env f).map Datum.text

/-- Checks a value if there is one, and otherwise takes the default. -/
def readOr {α β : Type} (default : β) (check : α → Except Fault β) : Option α → Except Fault β
  | some v => check v
  | none => .ok default

/-- The fault that a check found. -/
def faultIn {β : Type} (f : Field) : Except Fault β → List (Field × Fault)
  | .ok _ => []
  | .error fault => [(f, fault)]

/-- The settings that an environment and given values make, or all that is wrong with them. -/
def read (env : Environment) (given : Given) : Except (List (Field × Fault)) Settings :=
  let defaults : Settings := {}
  let noColor := readOr defaults.noColor readNoColor (valueOf? env .noColor given.noColor)
  let logLevel := readOr defaults.logLevel readLevel (valueOf? env .logLevel given.logLevel)
  let defaultTarget :=
    readOr defaults.defaultTarget readText (valueOf? env .defaultTarget given.defaultTarget)
  let strictTargets :=
    readOr defaults.strictTargets readBool (valueOf? env .strictTargets given.strictTargets)
  let resourceName := readOr defaults.tracingResourceName readText
    (valueOf? env .tracingResourceName given.tracingResourceName)
  let exporters := readOr defaults.tracingExporters readExporters
    (given.tracingExporters <|> (fromEnvironment? env .tracingExporters).map Tracing.Source.text)
  match noColor, logLevel, defaultTarget, strictTargets, resourceName, exporters with
  | .ok noColor, .ok logLevel, .ok defaultTarget, .ok strictTargets, .ok tracingResourceName,
      .ok tracingExporters =>
    .ok { noColor, logLevel, defaultTarget, strictTargets, tracingResourceName, tracingExporters }
  | _, _, _, _, _, _ =>
    .error (faultIn .noColor noColor ++ faultIn .logLevel logLevel
      ++ faultIn .defaultTarget defaultTarget ++ faultIn .strictTargets strictTargets
      ++ faultIn .tracingResourceName resourceName ++ faultIn .tracingExporters exporters)

end Settings

end CurlSnippets
