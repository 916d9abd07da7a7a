import CurlSnippets.Snippet.Literal

/-!
# Python displays

A JSON value as a Python expression: lists and dictionaries with one item a line, four spaces for
each level.
-/

namespace CurlSnippets.Literal

/-- A line break, and the indentation of a level. -/
def pythonNewline (level : Nat) : Text := '\n' :: Text.fill (4 * level) ' '

/-- A floating point number; what has no literal is made from its name. -/
def pythonFloat (x : Binary64) : Text :=
  match x with
  | .finite _ _ _ => x.text
  | _ => "float(\"" ++ x.text ++ "\")"

mutual

/-- A value at a level of nesting. -/
def pythonValue (level : Nat) : Json → Text
  | .null => "None"
  | .bool true => "True"
  | .bool false => "False"
  | .int n => intText n
  | .float x => pythonFloat x
  | .string s => Json.quoteUnits s
  | .array [] => "[]"
  | .array (item :: items) =>
    '[' :: pythonNewline (level + 1) ++ pythonValue (level + 1) item
      ++ pythonItems (level + 1) items ++ pythonNewline level ++ [']']
  | .object [] => ['\x7b', '\x7d']
  | .object ((name, value) :: members) =>
    '\x7b' :: pythonNewline (level + 1) ++ Json.quoteUnits name ++ ": " ++ pythonValue (level + 1) value
      ++ pythonMembers (level + 1) members ++ pythonNewline level ++ ['\x7d']

/-- The items of a list after the first, each behind a comma. -/
def pythonItems (level : Nat) : List Json → Text
  | [] => []
  | item :: items =>
    ',' :: pythonNewline level ++ pythonValue level item ++ pythonItems level items

/-- The members of a dictionary after the first, each behind a comma. -/
def pythonMembers (level : Nat) : List (CodeUnits × Json) → Text
  | [] => []
  | (name, value) :: members =>
    ',' :: pythonNewline level ++ Json.quoteUnits name ++ ": " ++ pythonValue level value
      ++ pythonMembers level members

end

end CurlSnippets.Literal
