import CurlSnippets.Json.Basic
import CurlSnippets.Text.Quoted

/-!
# Reading JSON

A text is read from left to right, and the first thing wrong with it is the error.  Beside the JSON
grammar, `NaN`, `Infinity` and `-Infinity` are numbers.  An integer beyond the digit limit is no
syntax error but one of its own.  Of members with the same name the last value counts, in the place
of the first.
-/

namespace CurlSnippets.Json

/-- What is wrong with a text. -/
inductive ReadError where
  /-- It is not JSON. -/
  | syntaxError
  /-- An integer has more digits than the limit. -/
  | digitLimit (digits : Nat)
deriving DecidableEq, Repr

/-- What is read, and the text that follows it. -/
abbrev Reading (α : Type) := Except ReadError (α × Text)

/-- What is read, changed. -/
def Reading.map {α β : Type} (f : α → β) : Reading α → Reading β
  | .ok (a, behind) => .ok (f a, behind)
  | .error e => .error e

/-- Whether a character may stand between the parts of a text. -/
def isSpace (c : Char) : Bool := c = ' ' || c = '\t' || c = '\n' || c = '\r'

/-- The text without the space it begins with. -/
def skip (t : Text) : Text := t.dropWhile isSpace

/-! ### Strings -/

/-- The number of four hexadecimal digits. -/
def hex4? (a b c d : Char) : Option Nat :=
  match Text.hexValue? a, Text.hexValue? b, Text.hexValue? c, Text.hexValue? d with
  | some a, some b, some c, some d => some (((a * 16 + b) * 16 + c) * 16 + d)
  | _, _, _, _ => none

/-- The character of an escape of one letter. -/
def unescape? (c : Char) : Option Char :=
  if c = '"' || c = '\\' || c = '/' then some c
  else if c = 'b' then some '\x08'
  else if c = 'f' then some '\x0c'
  else if c = 'n' then some '\n'
  else if c = 'r' then some '\r'
  else if c = 't' then some '\t'
  else none

/-- The rest of a string after its opening quote.  An escape by number is one code unit, whatever its
neighbours are. -/
def stringFrom : Text → Reading CodeUnits
  | [] => .error .syntaxError
  | '"' :: rest => .ok ([], rest)
  | '\\' :: 'u' :: a :: b :: c :: d :: rest =>
    match hex4? a b c d with
    | none => .error .syntaxError
    | some code => Reading.map (CodeUnit.ofNat code :: ·) (stringFrom rest)
  | '\\' :: c :: rest =>
    match unescape? c with
    | none => .error .syntaxError
    | some e => Reading.map (Text.unitsOf e ++ ·) (stringFrom rest)
  | c :: rest =>
    if c = '\\' || c.toNat < 0x20 then .error .syntaxError
    else Reading.map (Text.unitsOf c ++ ·) (stringFrom rest)

/-! ### Numbers -/

/-- The digits before the point: a zero alone, or digits that begin with another one. -/
def whole? : Text → Option (Text × Text)
  | '0' :: rest => some (['0'], rest)
  | t =>
    match t.takeWhile Char.isDigit with
    | [] => none
    | digits => some (digits, t.dropWhile Char.isDigit)

/-- A point and digits, or nothing. -/
def fraction (t : Text) : Text × Text :=
  match t with
  | '.' :: rest =>
    match rest.takeWhile Char.isDigit with
    | [] => ([], t)
    | digits => (digits, rest.dropWhile Char.isDigit)
  | _ => ([], t)

/-- A mark, a sign or none, and digits; or nothing. -/
def exponent (t : Text) : Option Int × Text :=
  match t with
  | [] => (none, t)
  | c :: rest =>
    if c = 'e' || c = 'E' then
      let (negative, rest) := Numeral.cutSign rest
      match rest.takeWhile Char.isDigit with
      | [] => (none, t)
      | digits => (some (signed negative digits), rest.dropWhile Char.isDigit)
    else (none, t)

/-- A number.  It is whole if it has neither a fraction nor an exponent. -/
def number (t : Text) : Reading Json :=
  let (negative, unsigned) := match t with
    | '-' :: rest => (true, rest)
    | _ => (false, t)
  match whole? unsigned with
  | none => .error .syntaxError
  | some (digits, rest) =>
    let (places, rest') := fraction rest
    let (power, behind) := exponent rest'
    match places, power with
    | [], none =>
      if digits.length > CurlSnippets.digitLimit then .error (.digitLimit digits.length)
      else .ok (.int (signed negative digits), behind)
    | _, _ =>
      .ok (.float (Binary64.ofNumeral (Numeral.ofDigits negative digits places (power.getD 0))),
        behind)

/-! ### Values -/

/-- The values that are written as a word. -/
def words : List (Text × Json) :=
  [("null", .null), ("true", .bool true), ("false", .bool false), ("NaN", .float .nan),
    ("Infinity", .float (.infinity false)), ("-Infinity", .float (.infinity true))]

/-- A value written as a word, or a number. -/
def scalar (t : Text) : Reading Json :=
  match words.findSome? fun w => (Text.after? w.1 t).map fun rest => (w.2, rest) with
  | some found => .ok found
  | none => number t

mutual

/-- A value that begins right here.  The depth bounds the steps into and along the value. -/
def value : (depth : Nat) → Text → Reading Json
  | 0, _ => .error .syntaxError
  | _ + 1, [] => .error .syntaxError
  | depth + 1, c :: rest =>
    if c = '"' then Reading.map .string (stringFrom rest)
    else if c = '[' then
      match skip rest with
      | ']' :: behind => .ok (.array [], behind)
      | inner => Reading.map .array (items depth inner)
    else if c = '\x7b' then
      match skip rest with
      | '\x7d' :: behind => .ok (.object [], behind)
      | inner => Reading.map (fun ms => .object (Pairs.putAll ms [])) (members depth inner)
    else scalar (c :: rest)

/-- The items of an array up to its closing bracket. -/
def items : (depth : Nat) → Text → Reading (List Json)
  | 0, _ => .error .syntaxError
  | depth + 1, t =>
    match value depth t with
    | .error e => .error e
    | .ok (item, behind) =>
      match skip behind with
      | ']' :: behind => .ok ([item], behind)
      | ',' :: behind => Reading.map (item :: ·) (items depth (skip behind))
      | _ => .error .syntaxError

/-- The members of an object up to its closing brace, repeated names included. -/
def members : (depth : Nat) → Text → Reading (List (CodeUnits × Json))
  | 0, _ => .error .syntaxError
  | depth + 1, '"' :: rest =>
    match stringFrom rest with
    | .error e => .error e
    | .ok (name, behind) =>
      match skip behind with
      | ':' :: behind =>
        match value depth (skip behind) with
        | .error e => .error e
        | .ok (member, behind) =>
          match skip behind with
          | '\x7d' :: behind => .ok ([(name, member)], behind)
          | ',' :: behind => Reading.map ((name, member) :: ·) (members depth (skip behind))
          | _ => .error .syntaxError
      | _ => .error .syntaxError
  | _ + 1, _ => .error .syntaxError

end

/-- The value that a text writes, with nothing but space around it.  A text with a byte order mark
in front is no JSON. -/
def read (t : Text) : Except ReadError Json :=
  match value (2 * t.length + 2) (skip t) with
  | .error e => .error e
  | .ok (j, behind) => if (skip behind).isEmpty then .ok j else .error .syntaxError

/-- The value that a text writes, if it is JSON at all. -/
def decode (t : Text) : Except DigitLimitError (Option Json) :=
  match read t with
  | .ok j => .ok (some j)
  | .error .syntaxError => .ok none
  | .error (.digitLimit digits) => .error (.read digits)

end CurlSnippets.Json
