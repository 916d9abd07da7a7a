import CurlSnippets.Datum.Basic
import CurlSnippets.Http.Request
import CurlSnippets.Json.Printer

/-!
# Values as JSON

What becomes of a caller's value in a JSON body.  Decimal numbers stay numbers: a whole one becomes
an integer and another one a floating point number.  Dates, identifiers and values of no known kind
become strings, and every collection becomes an array.  A key becomes a string.

A second view, `display`, keeps to the JSON kinds in the same way but writes everything beyond them
as its text; it never fails.
-/

namespace CurlSnippets

/-- Why a value cannot become JSON. -/
inductive EncodeError where
  /-- A key is of a kind that has no place in an object. -/
  | key (kind : Text)
  /-- An integer is beyond the digit limit. -/
  | digitLimit
  /-- A decimal number signals that it is none. -/
  | signalingNan
  /-- A decimal number is infinite. -/
  | infinite
deriving DecidableEq

/-- The wording of the error. -/
def EncodeError.message : EncodeError → Text
  | .key kind => "keys must be str, int, float, bool or None, not " ++ kind
  | .digitLimit => DigitLimitError.written.message
  | .signalingNan => "[<class 'decimal.InvalidOperation'>]"
  | .infinite => "cannot convert Infinity to integer"

namespace Datum

/-- An integer, if it is within the digit limit. -/
def encodeInt (n : Int) : Except EncodeError Int :=
  if digitCount n.natAbs > digitLimit then .error .digitLimit else .ok n

/-- A decimal number as a JSON number. -/
def encodeDecimal : Decimal → Except EncodeError Json
  | .finite x =>
    match Decimal.whole? x with
    | some (coefficient, zeros) =>
      if digitCount coefficient + zeros > digitLimit then .error .digitLimit
      else
        let n : Int := coefficient * Nat.pow 10 zeros
        .ok (.int (if x.negative then -n else n))
    | Option.none => .ok (.float (Binary64.ofNumeral x))
  | .infinity _ => .error .infinite
  | .nan _ true _ => .error .signalingNan
  | .nan _ false _ => .ok (.float .nan)

/-- A key as the name of a member. -/
def encodeKey : Datum → Except EncodeError Text
  | .text t => .ok t
  | .float x => .ok (Json.floatText x)
  | .bool b => .ok (if b then "true" else "false")
  | .none => .ok "null"
  | .int n => (encodeInt n).map intText
  | v => .error (.key v.kind)

mutual

/-- A value as JSON. -/
def encode : Datum → Except EncodeError Json
  | .none => .ok .null
  | .bool b => .ok (.bool b)
  | .int n => (encodeInt n).map .int
  | .float x => .ok (.float x)
  | .text t => .ok (.string t)
  | .list items => (encodeItems items).map .array
  | .tuple items => (encodeItems items).map .array
  | .set items => (encodeItems items).map .array
  | .frozenSet items => (encodeItems items).map .array
  | .dict entries => (encodeEntries entries).map .object
  | .decimal d => encodeDecimal d
  | .dateTime d => .ok (.string (d.textWith 'T'))
  | .date d => .ok (.string d.text)
  | .time t => .ok (.string t.text)
  | .uuid t => .ok (.string (uuidText t))
  | .object t => .ok (.string t)

/-- Items as JSON; the first one that fails is the error. -/
def encodeItems : List Datum → Except EncodeError (List Json)
  | [] => .ok []
  | item :: items =>
    match encode item with
    | .error e => .error e
    | .ok j => (encodeItems items).map (j :: ·)

/-- Entries as members; the first key or value that fails is the error. -/
def encodeEntries : List (Datum × Datum) → Except EncodeError (List (CodeUnits × Json))
  | [] => .ok []
  | (key, value) :: entries =>
    match encodeKey key with
    | .error e => .error e
    | .ok name =>
      match encode value with
      | .error e => .error e
      | .ok j => (encodeEntries entries).map ((Text.units name, j) :: ·)

end

mutual

/-- A value within the JSON kinds, with everything beyond them as its text. -/
def display : Datum → Json
  | .none => .null
  | .bool b => .bool b
  | .int n => .int n
  | .float x => .float x
  | .text t => .string t
  | .list items => .array (displayItems items)
  | .dict entries => .object (displayEntries entries)
  | v => .string v.plain

/-- Items within the JSON kinds. -/
def displayItems : List Datum → List Json
  | [] => []
  | item :: items => display item :: displayItems items

/-- Entries within the JSON kinds. -/
def displayEntries : List (Datum × Datum) → List (CodeUnits × Json)
  | [] => []
  | (key, value) :: entries => (Text.units key.plain, display value) :: displayEntries entries

end

end Datum

/-- A body of a value as a JSON text. -/
def Body.json (v : Datum) : Except EncodeError Body :=
  v.encode.map fun j => .raw j.print (some "application/json")

end CurlSnippets
