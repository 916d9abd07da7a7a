import CurlSnippets.Fields
import CurlSnippets.Log.Level

/-!
# Loggers

The levels of all loggers by name.  A logger with level zero takes its level from the nearest logger
above it that has one; a name is above those that continue it after a dot, and the root logger is
above all.  Asking for a logger gives it the level in effect for the program's own.
-/

namespace CurlSnippets.Log

/-- There is no level of a name. -/
structure UnknownLevel where
  /-- The name that was given. -/
  name : Text
deriving DecidableEq

/-- The wording of the error. -/
def UnknownLevel.message (e : UnknownLevel) : Text := "Unknown level: " ++ Text.quoted e.name

/-- The number of a level's name. -/
def levelNumber (name : Text) : Except UnknownLevel Int :=
  match levelNumber? name with
  | some n => .ok n
  | none => .error ⟨name⟩

/-- The names above a name, the nearest first. -/
def namesAbove (name : Text) : List Text :=
  ((List.range name.length).filter fun i => name[i]? = some '.').reverse.map fun i => name.take i

/-- The levels of all loggers. -/
structure Registry where
  /-- The level of the root logger. -/
  root : Int := Level.warning.number
  /-- The levels of the other loggers, in order of first use. -/
  levels : List (Text × Int) := [(ownLogger, Level.warning.number)]
  /-- The names asked for, in order of first use; the program's own comes first. -/
  names : List Text := [ownLogger]
deriving DecidableEq

namespace Registry

/-- Whether a name is the root logger's. -/
def isRoot (name : Text) : Bool := name.isEmpty || name = "root"

/-- The level of a logger; one that was never used has level zero. -/
def level (r : Registry) (name : Text) : Int :=
  if isRoot name then r.root else (r.levels.lookup name).getD 0

/-- The level in effect for a logger. -/
def effective (r : Registry) (name : Text) : Int :=
  ((name :: namesAbove name).map r.level |>.find? fun n => n ≠ 0).getD r.root

/-- Gives a logger a level. -/
def setLevel (r : Registry) (name : Text) (n : Int) : Registry :=
  if isRoot name then { r with root := n } else { r with levels := Pairs.put name n r.levels }

/-- Gives the program's own logger a level. -/
def setOwn (r : Registry) (n : Int) : Registry := r.setLevel ownLogger n

/-- Asks for a logger, which gets the level in effect for the program's own; without a name it is
the root logger. -/
def ask (r : Registry) : Option Text → Registry
  | none => r.setLevel [] (r.effective ownLogger)
  | some name =>
    let asked := r.setLevel name (r.effective ownLogger)
    { asked with names := if r.names.contains name then r.names else r.names ++ [name] }

/-- The records that are at or above the level in effect for their logger. -/
def emitted (r : Registry) (records : List Record) : List Record :=
  records.filter fun record => r.effective record.logger ≤ record.level.number

/-- Every name asked for with its level and the level in effect. -/
def listed (r : Registry) : List (Text × Int × Int) :=
  r.names.map fun name => (name, r.level name, r.effective name)

end Registry

end CurlSnippets.Log
