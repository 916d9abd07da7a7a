import CurlSnippets.Number.Binary64

/-!
# Shortest decimal digits

Among the decimal numbers that round to a given binary one, those with the fewest digits, and of
these the nearest.  For one digit, two digits and so on, only the two neighbours of the value on the
grid of decimals with that many digits need a look: if any point of the grid rounds to the value, so
does one of them.

On this rests the text of a floating point number: positional between 10^-4 and 10^16, with an
exponent of two digits or more outside.
-/

namespace CurlSnippets

/-- The decimal numbers that round to a binary one, as an interval of fractions over one common
denominator. -/
structure RoundingInterval where
  low : Nat
  value : Nat
  high : Nat
  denominator : Nat
  /-- Whether the ends round to the value as well. -/
  closed : Bool

namespace RoundingInterval

/-- The interval of a positive mantissa and a power of two.  Below a power of two the neighbour is
only half as far away. -/
def ofBinary (mantissa : Nat) (exponent : Int) : RoundingInterval :=
  let below := if mantissa = Nat.pow 2 52 && exponent > Binary64.leastExponent then 1 else 2
  let quarter := exponent - 2
  let up := if quarter ≥ 0 then Nat.pow 2 quarter.toNat else 1
  { low := (4 * mantissa - below) * up
    value := 4 * mantissa * up
    high := (4 * mantissa + 2) * up
    denominator := if quarter ≥ 0 then 1 else Nat.pow 2 (-quarter).toNat
    closed := mantissa % 2 = 0 }

/-- A fraction's numerator and denominator, with a decimal `coefficient * 10 ^ exponent` brought to
the same denominator in front. -/
def align (i : RoundingInterval) (coefficient : Nat) (exponent : Int) : Nat × Nat :=
  if exponent ≥ 0 then (coefficient * Nat.pow 10 exponent.toNat * i.denominator, 1)
  else (coefficient * i.denominator, Nat.pow 10 (-exponent).toNat)

/-- Whether a decimal number lies in the interval. -/
def holds (i : RoundingInterval) (coefficient : Nat) (exponent : Int) : Bool :=
  let (point, unit) := i.align coefficient exponent
  if i.closed then i.low * unit ≤ point && point ≤ i.high * unit
  else i.low * unit < point && point < i.high * unit

/-- How far a decimal number is from the value, in units that depend on the exponent alone. -/
def distance (i : RoundingInterval) (coefficient : Nat) (exponent : Int) : Nat :=
  let (point, unit) := i.align coefficient exponent
  if point ≤ i.value * unit then i.value * unit - point else point - i.value * unit

/-- The number of digits before the point; zero or less counts zeros right behind the point. -/
def magnitude (i : RoundingInterval) : Int :=
  let n := digitCount i.value
  let d := digitCount i.denominator
  let reaches :=
    if d ≤ n then i.denominator * Nat.pow 10 (n - d) ≤ i.value
    else i.denominator ≤ i.value * Nat.pow 10 (d - n)
  (n : Int) - d + if reaches then 1 else 0

/-- The greatest multiple of a power of ten that is not above the value. -/
def floorAt (i : RoundingInterval) (exponent : Int) : Nat :=
  if exponent ≥ 0 then i.value / (i.denominator * Nat.pow 10 exponent.toNat)
  else i.value * Nat.pow 10 (-exponent).toNat / i.denominator

/-- The nearer one of two neighbours on a grid, as far as they round to the value; of two as near
the even one. -/
def pick (i : RoundingInterval) (exponent : Int) : Option Nat :=
  let low := i.floorAt exponent
  match i.holds low exponent, i.holds (low + 1) exponent with
  | true, true =>
    let below := i.distance low exponent
    let above := i.distance (low + 1) exponent
    some (if below < above then low else if above < below then low + 1
      else if low % 2 = 0 then low else low + 1)
  | true, false => some low
  | false, true => some (low + 1)
  | false, false => none

/-- The first grid, from `digits` digits on, that has a point in the interval; `more` bounds the
search. -/
def search (i : RoundingInterval) (digits : Nat) : (more : Nat) → Nat × Int
  | 0 => (i.floorAt (i.magnitude - digits), i.magnitude - digits)
  | more + 1 =>
    match i.pick (i.magnitude - digits) with
    | some c => (c, i.magnitude - digits)
    | none => search i (digits + 1) more

/-- The shortest decimal number in the interval: a coefficient and a power of ten. -/
def shortest (i : RoundingInterval) : Nat × Int := i.search 1 17

end RoundingInterval

namespace Binary64

/-- Digits without zeros at the end, and how many were taken off. -/
def dropZeros (digits : Text) : Text × Nat :=
  let kept := (digits.reverse.dropWhile (· = '0')).reverse
  (kept, digits.length - kept.length)

/-- An exponent with its sign and at least two digits. -/
def exponentText (e : Int) : Text :=
  (if e < 0 then '-' else '+') :: Text.padLeft 2 '0' (natText e.natAbs)

/-- Digits with the point after the first `point` of them, counted from the first digit.  Where the
point is no more than sixteen places to the right, or has no more than four zeros behind it, the
number is written out. -/
def place (digits : Text) (point : Int) : Text :=
  if -4 < point && point ≤ 16 then
    if point ≤ 0 then "0." ++ Text.fill (-point).toNat '0' ++ digits
    else if (digits.length : Int) ≤ point then
      digits ++ Text.fill (point.toNat - digits.length) '0' ++ ".0"
    else digits.take point.toNat ++ "." ++ digits.drop point.toNat
  else
    digits.take 1 ++ (if digits.length = 1 then [] else '.' :: digits.drop 1)
      ++ "e" ++ exponentText (point - 1)

/-- The text of a positive finite number. -/
def magnitudeText (mantissa : Nat) (exponent : Int) : Text :=
  let (coefficient, power) := (RoundingInterval.ofBinary mantissa exponent).shortest
  let digits := natText coefficient
  place (dropZeros digits).1 (digits.length + power)

/-- The text of a number, with the text of an infinity and of what is no number given. -/
def textWith (infinity nan : Text) : Binary64 → Text
  | .nan => nan
  | .infinity negative => (if negative then ['-'] else []) ++ infinity
  | .finite negative mantissa exponent =>
    (if negative then ['-'] else [])
      ++ (if mantissa = 0 then ("0.0" : Text) else magnitudeText mantissa exponent)

/-- The text of a number: the shortest digits that read back as it. -/
def text (x : Binary64) : Text := x.textWith "inf" "nan"

end Binary64

end CurlSnippets
