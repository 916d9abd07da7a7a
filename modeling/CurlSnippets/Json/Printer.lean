import CurlSnippets.Json.Basic
import CurlSnippets.Text.Quoted

/-!
# Writing JSON

The layout of a JSON text: two spaces for each level, one item or member a line, and nothing between
the brackets of an empty array or object.  Strings escape quotes, backslashes and control characters
and nothing else but halves of characters that stand alone.
-/

namespace CurlSnippets.Json

/-- The escape of one character of a string. -/
def escapeChar (c : Char) : Text :=
  if c = '"' then ['\\', '"']
  else if c = '\\' then ['\\', '\\']
  else if c = '\n' then ['\\', 'n']
  else if c = '\r' then ['\\', 'r']
  else if c = '\t' then ['\\', 't']
  else if c = '\x0c' then ['\\', 'f']
  else if c = '\x08' then ['\\', 'b']
  else if c.toNat < 0x20 then "\\u" ++ Text.hex 4 c.toNat
  else [c]

/-- A text in double quotes. -/
def quote (s : Text) : Text := '"' :: s.flatMap escapeChar ++ ['"']

/-- The escape of one piece of a string.  Half a character that stands alone is written by its number,
since no text can hold it. -/
def escapePiece : Piece → Text
  | .char c => escapeChar c
  | .half u => "\\u" ++ Text.hex 4 u.val

/-- A string in double quotes. -/
def quoteUnits (s : CodeUnits) : Text := '"' :: (pieces s).flatMap escapePiece ++ ['"']

@[simp] theorem quoteUnits_units (t : Text) : quoteUnits (Text.units t) = quote t := by
  rw [quoteUnits, pieces_units, List.flatMap_map]
  rfl

/-- The text of a floating point number. -/
def floatText (x : Binary64) : Text := x.textWith "Infinity" "NaN"

/-- A line break, and the indentation of a level. -/
def newline (level : Nat) : Text := '\n' :: Text.fill (2 * level) ' '

mutual

/-- A value at a level of nesting. -/
def render (level : Nat) : Json → Text
  | .null => "null"
  | .bool true => "true"
  | .bool false => "false"
  | .int n => intText n
  | .float x => floatText x
  | .string s => quoteUnits s
  | .array [] => "[]"
  | .array (item :: items) =>
    '[' :: newline (level + 1) ++ render (level + 1) item ++ renderItems (level + 1) items
      ++ newline level ++ [']']
  | .object [] => ['\x7b', '\x7d']
  | .object ((name, value) :: members) =>
    '\x7b' :: newline (level + 1) ++ quoteUnits name ++ ": " ++ render (level + 1) value
      ++ renderMembers (level + 1) members ++ newline level ++ ['\x7d']

/-- The items of an array after the first, each behind a comma. -/
def renderItems (level : Nat) : List Json → Text
  | [] => []
  | item :: items => ',' :: newline level ++ render level item ++ renderItems level items

/-- The members of an object after the first, each behind a comma. -/
def renderMembers (level : Nat) : List (CodeUnits × Json) → Text
  | [] => []
  | (name, value) :: members =>
    ',' :: newline level ++ quoteUnits name ++ ": " ++ render level value ++ renderMembers level members

end

/-- The JSON text of a value. -/
def print (j : Json) : Text := render 0 j

end CurlSnippets.Json
