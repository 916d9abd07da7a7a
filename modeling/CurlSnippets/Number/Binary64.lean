import CurlSnippets.Number.Numeral

/-!
# Binary floating point numbers

The numbers of the binary interchange format with sixty-four bits, as exact values.  A finite number
is a mantissa below 2^53 times a power of two not below 2^-1074; the mantissa has all fifty-three
bits unless the power is the least one.  Decimal numbers are rounded to the nearest of them, a tie
to the even mantissa.
-/

namespace CurlSnippets

/-- A binary floating point number. -/
inductive Binary64 where
  | nan
  | infinity (negative : Bool)
  /-- `mantissa` times two to the power `exponent`. -/
  | finite (negative : Bool) (mantissa : Nat) (exponent : Int)
deriving DecidableEq, Repr

namespace Binary64

/-- The least power of two of a finite number. -/
def leastExponent : Int := -1074

/-- The greatest power of two of a finite number. -/
def greatestExponent : Int := 971

/-- Zero with a sign. -/
def zero (negative : Bool) : Binary64 := .finite negative 0 leastExponent

/-- The quotient rounded to the nearest whole number, a tie to the even one. -/
def roundQuotient (n d : Nat) : Nat :=
  let q := n / d
  let r := n % d
  if 2 * r < d then q else if d < 2 * r then q + 1 else if q % 2 = 0 then q else q + 1

/-- A fraction divided by a power of two. -/
def scale (n d : Nat) (exponent : Int) : Nat × Nat :=
  if exponent ≥ 0 then (n, d * Nat.pow 2 exponent.toNat) else (n * Nat.pow 2 (-exponent).toNat, d)

/-- The power of two at which a positive fraction has fifty-three bits before the point. -/
def naturalExponent (n d : Nat) : Int :=
  let guess : Int := (Nat.log2 n : Int) - Nat.log2 d - 53
  let (n', d') := scale n d guess
  if n' / d' < Nat.pow 2 53 then guess else guess + 1

/-- The number nearest to a fraction. -/
def ofFraction (negative : Bool) (n d : Nat) : Binary64 :=
  if n = 0 then zero negative
  else
    let exponent := max (naturalExponent n d) leastExponent
    let (n', d') := scale n d exponent
    let mantissa := roundQuotient n' d'
    let (mantissa, exponent) :=
      if mantissa = Nat.pow 2 53 then (Nat.pow 2 52, exponent + 1) else (mantissa, exponent)
    if exponent > greatestExponent then .infinity negative else .finite negative mantissa exponent

/-- The number nearest to a decimal number.  One of 310 or more digits before the point is beyond
all finite numbers, and one that begins at the 325th place after it is nearest to zero. -/
def ofNumeral (x : Numeral) : Binary64 :=
  let magnitude : Int := digitCount x.coefficient + x.exponent
  if x.coefficient = 0 || magnitude < -323 then zero x.negative
  else if magnitude > 309 then .infinity x.negative
  else if x.exponent ≥ 0 then
    ofFraction x.negative (x.coefficient * Nat.pow 10 x.exponent.toNat) 1
  else ofFraction x.negative x.coefficient (Nat.pow 10 (-x.exponent).toNat)

/-- The value as a fraction, if it is finite. -/
def toFraction? : Binary64 → Option (Int × Nat)
  | .finite negative mantissa exponent =>
    let m : Int := if negative then -(mantissa : Int) else mantissa
    some (if exponent ≥ 0 then (m * Nat.pow 2 exponent.toNat, 1)
      else (m, Nat.pow 2 (-exponent).toNat))
  | _ => none

/-- The value as an integer, if it is a whole number. -/
def toInt? (x : Binary64) : Option Int :=
  match x.toFraction? with
  | some (n, d) => if n % d = 0 then some (n / d) else none
  | none => none

/-- The number that a text names or writes, blanks around it aside. -/
def ofText? (t : Text) : Option Binary64 :=
  let (negative, name) := Numeral.cutSign (Text.trim t)
  let name := name.map Char.toLower
  if name = "inf" || name = "infinity" then some (.infinity negative)
  else if name = "nan" then some .nan
  else (Numeral.ofText? t).map ofNumeral

end Binary64

end CurlSnippets
