import CurlSnippets.Fields
import CurlSnippets.Form.Percent

/-!
# Form fields as text

Fields as they are sent in a form body and as they stand in a query: `key=value`, with an ampersand
between fields.  A form sends no field whose value is empty.
-/

namespace CurlSnippets.Form

/-- The fields a form sends: those with a value. -/
def sent (f : Fields) : Fields := f.filterValues fun value => !value.isEmpty

/-- One field in written form. -/
def encodePair (p : Text × Text) : Text := Percent.encode p.1 ++ ['='] ++ Percent.encode p.2

/-- The written form of the fields a form sends. -/
def encode (f : Fields) : Text := Text.join ['&'] ((sent f).entries.map encodePair)

/-- A field as it stands in a query.  Empty text is no field, and a key alone has an empty value. -/
def decodePair? (t : Text) : Option (Text × Text) :=
  if t.isEmpty then none
  else match Text.cut '=' t with
    | (key, value) => some (Percent.decode key, Percent.decode (value.getD []))

/-- The fields of a query in order, repeated keys included. -/
def decodePairs (query : Text) : List (Text × Text) := (Text.split '&' query).filterMap decodePair?

end CurlSnippets.Form
