import CurlSnippets.Datum.Calendar
import CurlSnippets.Number.Decimal
import CurlSnippets.Number.Shortest
import CurlSnippets.Text.Blank
import CurlSnippets.Text.Casing
import CurlSnippets.Text.Quoted

/-!
# Values a caller hands over

Any value that may be asked to become a JSON body: the JSON kinds, and numbers, dates, identifiers
and collections beyond them.  Each has a text, and one that shows its kind when it stands inside
another value.
-/

namespace CurlSnippets

/-- A value of a caller. -/
inductive Datum where
  | none
  | bool (b : Bool)
  | int (n : Int)
  | float (x : Binary64)
  | text (t : Text)
  | list (items : List Datum)
  | dict (entries : List (Datum × Datum))
  | tuple (items : List Datum)
  | set (items : List Datum)
  | frozenSet (items : List Datum)
  | decimal (d : Decimal)
  | dateTime (d : DateTime)
  | date (d : Date)
  | time (t : TimeOfDay)
  /-- An identifier of thirty-two hexadecimal digits, as it is written. -/
  | uuid (t : Text)
  /-- A value of no known kind, of which only its text is known. -/
  | object (t : Text)
deriving Inhabited

namespace Datum

/-- The name of a value's kind. -/
def kind : Datum → Text
  | .none => "NoneType"
  | .bool _ => "bool"
  | .int _ => "int"
  | .float _ => "float"
  | .text _ => "str"
  | .list _ => "list"
  | .dict _ => "dict"
  | .tuple _ => "tuple"
  | .set _ => "set"
  | .frozenSet _ => "frozenset"
  | .decimal _ => "Decimal"
  | .dateTime _ => "datetime"
  | .date _ => "date"
  | .time _ => "time"
  | .uuid _ => "UUID"
  | .object _ => "object"

/-- The identifier that a text writes: its digits in lower case, with hyphens in the usual
places. -/
def uuidText (t : Text) : Text :=
  let digits := (t.filter Char.isAlphanum).map Char.toLower
  Text.join ['-'] [digits.take 8, (digits.drop 8).take 4, (digits.drop 12).take 4,
    (digits.drop 16).take 4, digits.drop 20]

mutual

/-- How a value is shown inside another one. -/
def shown : Datum → Text
  | .none => "None"
  | .bool true => "True"
  | .bool false => "False"
  | .int n => intText n
  | .float x => x.text
  | .text t => Text.quoted t
  | .list items => "[" ++ Text.join ", " (shownItems items) ++ "]"
  | .dict entries => "\x7b" ++ Text.join ", " (shownEntries entries) ++ "\x7d"
  | .tuple [item] => "(" ++ shown item ++ ",)"
  | .tuple items => "(" ++ Text.join ", " (shownItems items) ++ ")"
  | .set [] => "set()"
  | .set items => "\x7b" ++ Text.join ", " (shownItems items) ++ "\x7d"
  | .frozenSet [] => "frozenset()"
  | .frozenSet items => "frozenset(\x7b" ++ Text.join ", " (shownItems items) ++ "\x7d)"
  | .decimal d => "Decimal('" ++ d.text ++ "')"
  | .dateTime d => d.shown
  | .date d => d.shown
  | .time t => t.shown
  | .uuid t => "UUID('" ++ uuidText t ++ "')"
  | .object t => t

/-- How items are shown. -/
def shownItems : List Datum → List Text
  | [] => []
  | item :: items => shown item :: shownItems items

/-- How entries are shown. -/
def shownEntries : List (Datum × Datum) → List Text
  | [] => []
  | (key, value) :: entries => (shown key ++ ": " ++ shown value) :: shownEntries entries

end

/-- The text of a value on its own. -/
def plain : Datum → Text
  | .text t => t
  | .decimal d => d.text
  | .dateTime d => d.textWith ' '
  | .date d => d.text
  | .time t => t.text
  | .uuid t => uuidText t
  | v => shown v

/-! ### Keys -/

/-- A number as a key: an exact fraction, an infinity, or what equals nothing. -/
inductive KeyNumber where
  | fraction (numerator : Int) (denominator : Nat)
  | infinity (negative : Bool)
  | nan

/-- The number that a value is, if it is one.  Truth values count as one and zero. -/
def keyNumber? : Datum → Option KeyNumber
  | .bool b => some (.fraction (if b then 1 else 0) 1)
  | .int n => some (.fraction n 1)
  | .float .nan => some .nan
  | .float (.infinity negative) => some (.infinity negative)
  | .float x => x.toFraction?.map fun (n, d) => .fraction n d
  | .decimal (.finite x) =>
    let n : Int := if x.negative then -(x.coefficient : Int) else x.coefficient
    some (if x.exponent ≥ 0 then .fraction (n * Nat.pow 10 x.exponent.toNat) 1
      else .fraction n (Nat.pow 10 (-x.exponent).toNat))
  | .decimal (.infinity negative) => some (.infinity negative)
  | .decimal (.nan _ _ _) => some .nan
  | _ => Option.none

/-- Whether two numbers are the same. -/
def KeyNumber.same : KeyNumber → KeyNumber → Bool
  | .fraction n d, .fraction n' d' => n * d' = n' * d
  | .infinity negative, .infinity negative' => negative = negative'
  | _, _ => false

mutual

/-- Whether two values are the same key of a map.  Numbers of any kind are compared by value. -/
def sameKey : Datum → Datum → Bool
  | .none, .none => true
  | .text a, .text b => a = b
  | .tuple as, .tuple bs => sameKeys as bs
  | .frozenSet as, .frozenSet bs => sameKeys as bs
  | .dateTime a, .dateTime b => a = b
  | .date a, .date b => a = b
  | .time a, .time b => a = b
  | .uuid a, .uuid b => uuidText a = uuidText b
  | a, b =>
    match keyNumber? a, keyNumber? b with
    | some m, some n => m.same n
    | _, _ => false

/-- Whether two lists have the same keys in order. -/
def sameKeys : List Datum → List Datum → Bool
  | [], [] => true
  | a :: as, b :: bs => sameKey a b && sameKeys as bs
  | _, _ => false

end

/-- Entries with a value under a key: in the place of the earlier value and under the earlier key,
or else at the end. -/
def putEntry (key value : Datum) : List (Datum × Datum) → List (Datum × Datum)
  | [] => [(key, value)]
  | (k, v) :: rest =>
    if sameKey k key then (k, value) :: rest else (k, v) :: putEntry key value rest

/-- The map that entries write, of which a later one replaces an earlier one of the same key. -/
def ofEntries (entries : List (Datum × Datum)) : Datum :=
  .dict (entries.foldl (fun acc e => putEntry e.1 e.2 acc) [])

/-! ### Truth -/

/-- Whether a value means yes: its text is `1` or begins with `t` or `y`, blanks around it and
letter case aside. -/
def truth (v : Datum) : Bool :=
  let t := Text.lower (Text.trim v.plain)
  t = "1" || Text.beginsWith "t" t || Text.beginsWith "y" t

end Datum

end CurlSnippets
