import CurlSnippets.Log.Level
import CurlSnippets.Text.Layout

/-!
# Log lines

A record is written by a layout that names its level, its logger and its message.  The name of the
level has a colour that grows with the level, unless colours are turned off.
-/

namespace CurlSnippets.Log

/-- A record before its message is put together: a template and its arguments. -/
structure RawRecord where
  level : Int
  logger : Text := ownLogger
  template : Text
  arguments : List Text := []
deriving DecidableEq

/-- The message of a record.  Without arguments the template is the message as it stands. -/
def RawRecord.message (r : RawRecord) : Except TemplateError Text :=
  if r.arguments.isEmpty then .ok r.template else Template.fill r.template r.arguments

/-- The number of a level's colour in a palette of 256. -/
def colorNumber (level : Int) : Text :=
  if level ≤ 10 then "14"
  else if level ≤ 20 then "27"
  else if level ≤ 30 then "214"
  else if level ≤ 40 then "9"
  else "124"

/-- The terminal sequence that turns a level's colour on. -/
def color (level : Int) : Text := List.flatten ["\x1b[38;5;", colorNumber level, "m"]

/-- The terminal sequence that turns colours off. -/
def colorReset : Text := "\x1b[0m"

/-- The name of a level as a line shows it: eight characters wide between the terminal sequences, or
plain. -/
def shownLevel (noColor : Bool) (level : Int) : Text :=
  if noColor then levelName level
  else color level ++ Text.padRight 8 ' ' (levelName level) ++ colorReset

/-- A record written by a layout. -/
def RawRecord.line (r : RawRecord) (noColor : Bool) (layout : Text) : Except LayoutError Text :=
  match Layout.ofText layout with
  | .error e => .error e
  | .ok layout =>
    match r.message with
    | .error e => .error (.template e)
    | .ok message =>
      Layout.fill
        [("levelname", shownLevel noColor r.level), ("name", r.logger), ("message", message)] layout

end CurlSnippets.Log
