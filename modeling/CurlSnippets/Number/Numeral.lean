import CurlSnippets.Text.Blank

/-!
# Numerals

A number written in decimal digits, as an exact value: a sign, a coefficient and a power of ten.
-/

namespace CurlSnippets

/-- The digits of a natural number. -/
def natText (n : Nat) : Text := Nat.toDigits 10 n

/-- The digits of an integer, after a minus sign if it is negative. -/
def intText (n : Int) : Text := if n < 0 then '-' :: natText n.natAbs else natText n.natAbs

/-- The number of digits of a natural number. -/
def digitCount (n : Nat) : Nat := (natText n).length

/-- The integer that a sign and digits write. -/
def signed (negative : Bool) (digits : Text) : Int :=
  let n : Int := Nat.ofDigitChars 10 digits 0
  if negative then -n else n

/-- A decimal number: `coefficient` times ten to the power `exponent`, with a sign. -/
structure Numeral where
  negative : Bool
  coefficient : Nat
  exponent : Int
deriving DecidableEq, Repr

namespace Numeral

/-- The numeral of a sign, the digits on both sides of the point, and a written exponent. -/
def ofDigits (negative : Bool) (whole fraction : Text) (exponent : Int) : Numeral :=
  ⟨negative, Nat.ofDigitChars 10 (whole ++ fraction) 0, exponent - fraction.length⟩

/-- A sign or none, and what follows it. -/
def cutSign : Text → Bool × Text
  | '-' :: rest => (true, rest)
  | '+' :: rest => (false, rest)
  | t => (false, t)

/-- The digits at the front of a text, and what follows them. -/
def cutDigits (t : Text) : Text × Text := (t.takeWhile Char.isDigit, t.dropWhile Char.isDigit)

/-- The exponent that makes up the whole text; none at all is zero. -/
def exponent? : Text → Option Int
  | [] => some 0
  | c :: rest =>
    if c = 'e' || c = 'E' then
      let (negative, digits) := cutSign rest
      if !digits.isEmpty && digits.all Char.isDigit then some (signed negative digits) else none
    else none

/-- The text without the low lines between digits; a low line elsewhere stays. -/
def withoutGroups : (afterDigit : Bool) → Text → Text
  | _, [] => []
  | true, '_' :: c :: rest =>
    if c.isDigit then c :: withoutGroups true rest else '_' :: withoutGroups false (c :: rest)
  | _, c :: rest => c :: withoutGroups c.isDigit rest

/-- The numeral that a text without sign writes: digits with a point in them or none, and an
exponent or none. -/
def ofUnsigned? (negative : Bool) (t : Text) : Option Numeral :=
  let (whole, rest) := cutDigits t
  let (fraction, rest) := match rest with
    | '.' :: rest => cutDigits rest
    | _ => ([], rest)
  if whole.isEmpty && fraction.isEmpty then none
  else (exponent? rest).map (ofDigits negative whole fraction)

/-- The numeral that a text writes, blanks around it and low lines between digits aside. -/
def ofText? (t : Text) : Option Numeral :=
  let (negative, digits) := cutSign (Text.trim t)
  ofUnsigned? negative (withoutGroups false digits)

end Numeral

end CurlSnippets
