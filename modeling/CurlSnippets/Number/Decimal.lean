import CurlSnippets.Number.Binary64

/-!
# Decimal numbers

Decimal floating point numbers of any precision, which keep the zeros they were written with.  The
text of one is positional unless its last digit stands before the point's place or its first digit
more than six places behind it; then it has an exponent.
-/

namespace CurlSnippets

/-- A decimal floating point number. -/
inductive Decimal where
  | finite (value : Numeral)
  | infinity (negative : Bool)
  /-- What is no number; a signaling one may not be computed with. -/
  | nan (negative signaling : Bool) (payload : Text)
deriving DecidableEq, Repr

namespace Decimal

/-- A minus sign, if it is asked for. -/
def sign (negative : Bool) : Text := if negative then ['-'] else []

/-- The digits of a coefficient with the point after the first `point` of them. -/
def place (digits : Text) (point : Int) : Text :=
  if point ≤ 0 then "0." ++ Text.fill (-point).toNat '0' ++ digits
  else if (digits.length : Int) ≤ point then digits ++ Text.fill (point.toNat - digits.length) '0'
  else digits.take point.toNat ++ "." ++ digits.drop point.toNat

/-- An exponent with its sign; zero is left out. -/
def exponentText (e : Int) : Text :=
  if e = 0 then [] else "E" ++ (if e < 0 then ['-'] else ['+']) ++ natText e.natAbs

/-- The text of a finite number. -/
def numeralText (x : Numeral) : Text :=
  let digits := natText x.coefficient
  let left : Int := x.exponent + digits.length
  let point : Int := if x.exponent ≤ 0 && left > -6 then left else 1
  sign x.negative ++ place digits point ++ exponentText (left - point)

/-- The text of a number. -/
def text : Decimal → Text
  | .finite x => numeralText x
  | .infinity negative => sign negative ++ "Infinity"
  | .nan negative signaling payload =>
    sign negative ++ (if signaling then ("sNaN" : Text) else "NaN") ++ payload

/-- A name of what is no number, and its payload, which is digits without zeros in front. -/
def nan? (negative : Bool) (name : Text) : Option Decimal :=
  let payload? (signaling : Bool) (digits : Text) : Option Decimal :=
    if digits.all Char.isDigit then some (.nan negative signaling (digits.dropWhile (· = '0')))
    else none
  match Text.after? "snan" name with
  | some digits => payload? true digits
  | none => match Text.after? "nan" name with
    | some digits => payload? false digits
    | none => none

/-- The number that a text names or writes; blanks around it and low lines do not count. -/
def ofText? (t : Text) : Option Decimal :=
  let (negative, rest) := Numeral.cutSign ((Text.trim t).filter (· ≠ '_'))
  let name := rest.map Char.toLower
  if name = "inf" || name = "infinity" then some (.infinity negative)
  else match nan? negative name with
    | some d => some d
    | none => (Numeral.ofUnsigned? negative rest).map .finite

/-- The whole number that a numeral is, if it is one, as coefficient and number of zeros behind. -/
def whole? (x : Numeral) : Option (Nat × Nat) :=
  if x.coefficient = 0 then some (0, 0)
  else if x.exponent ≥ 0 then some (x.coefficient, x.exponent.toNat)
  else
    let places := (-x.exponent).toNat
    if digitCount x.coefficient < places then none
    else if x.coefficient % Nat.pow 10 places = 0 then
      some (x.coefficient / Nat.pow 10 places, 0)
    else none

end Decimal

end CurlSnippets
