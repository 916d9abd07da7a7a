import CurlSnippets.Text.Quoted

/-!
# Levels of log records

A level is a number, and five of them have a name of their own.
-/

namespace CurlSnippets.Log

/-- The named levels. -/
inductive Level where
  | debug | info | warning | error | critical
deriving DecidableEq, Repr

namespace Level

/-- The named levels in ascending order. -/
def all : List Level := [.debug, .info, .warning, .error, .critical]

/-- The number of a level. -/
def number : Level → Int
  | .debug => 10
  | .info => 20
  | .warning => 30
  | .error => 40
  | .critical => 50

/-- The name of a level. -/
def name : Level → Text
  | .debug => "DEBUG"
  | .info => "INFO"
  | .warning => "WARNING"
  | .error => "ERROR"
  | .critical => "CRITICAL"

/-- Why there is no level. -/
inductive LookupError where
  /-- None has the name. -/
  | name (name : Text)
  /-- None has the number. -/
  | number (n : Int)
deriving DecidableEq

/-- The wording of a failed search. -/
def LookupError.message : LookupError → Text
  | .name t => Text.quoted t
  | .number n => (toString n).toList ++ " is not a valid LogLevel"

/-- The level with a name; `WARN` is another name of the warning level. -/
def ofName (t : Text) : Except LookupError Level :=
  if t = "WARN" then .ok .warning
  else match all.find? fun l => l.name = t with
    | some l => .ok l
    | none => .error (.name t)

/-- The level with a number. -/
def ofNumber (n : Int) : Except LookupError Level :=
  match all.find? fun l => l.number = n with
  | some l => .ok l
  | none => .error (.number n)

end Level

/-- The name of any level number. -/
def levelName (n : Int) : Text :=
  match Level.all.find? fun l => l.number = n with
  | some l => l.name
  | none => if n = 0 then "NOTSET" else "Level " ++ (toString n).toList

/-- The number of a level in settings, where two names have a second spelling and `NOTSET` is the
level that decides nothing. -/
def levelNumber? (t : Text) : Option Int :=
  if t = "NOTSET" then some 0
  else if t = "WARN" then some Level.warning.number
  else if t = "FATAL" then some Level.critical.number
  else (Level.all.find? fun l => l.name = t).map Level.number

/-- The name of the program's own logger. -/
def ownLogger : Text := "curlbridge"

/-- One log record. -/
structure Record where
  level : Level
  /-- The name of the logger. -/
  logger : Text
  message : Text
deriving DecidableEq

end CurlSnippets.Log
