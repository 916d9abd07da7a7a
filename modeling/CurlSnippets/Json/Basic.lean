import CurlSnippets.Fields
import CurlSnippets.Number.Shortest
import CurlSnippets.Text.Units

/-!
# JSON values

The values of JSON texts.  Whole numbers are exact; numbers with a fraction or an exponent are
binary floating point numbers, and include the infinities and what is no number.  Strings and names
are lists of code units, since an escape can name half a character.  The members of an object keep
their order.
-/

namespace CurlSnippets

/-- A JSON value. -/
inductive Json where
  | null
  | bool (b : Bool)
  | int (n : Int)
  | float (x : Binary64)
  | string (s : CodeUnits)
  | array (items : List Json)
  | object (members : List (CodeUnits × Json))
deriving Repr, Inhabited

/-- Named values as an object. -/
def Json.ofFields (f : Fields) : Json := 
  .object (f.entries.map fun p => (Text.units p.1, .string p.2))

/-- How many digits an integer may have that is read or written in decimal. -/
def digitLimit : Nat := 4300

/-- Why an integer could not be read or written. -/
inductive DigitLimitError where
  /-- It was read and has more digits than the limit. -/
  | read (digits : Nat)
  /-- It was to be written and has more digits than the limit. -/
  | written
deriving DecidableEq, Repr

/-- The wording of the error. -/
def DigitLimitError.message : DigitLimitError → Text
  | .read digits =>
    "Exceeds the limit (" ++ natText digitLimit
      ++ " digits) for integer string conversion: value has " ++ natText digits
      ++ " digits; use sys.set_int_max_str_digits() to increase the limit"
  | .written =>
    "Exceeds the limit (" ++ natText digitLimit ++ " digits) for integer string conversion; "
      ++ "use sys.set_int_max_str_digits() to increase the limit"

end CurlSnippets
