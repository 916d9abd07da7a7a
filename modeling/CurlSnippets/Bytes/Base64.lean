import CurlSnippets.Bytes.Utf8

/-!
# Base64

Octets as letters of a sixty-four letter alphabet, three octets to four letters.  Reading is
strict: only letters, then padding.  Two letters over need two pads and three need one, no more and
no fewer; letters that fill whole groups may be followed by any number of pads.  Bits left over in
the last letter are ignored.
-/

namespace CurlSnippets.Base64

/-- The letter for a number below sixty-four. -/
def letter (n : Nat) : Char :=
  if n < 26 then Char.ofNat (0x41 + n)
  else if n < 52 then Char.ofNat (0x61 + (n - 26))
  else if n < 62 then Char.ofNat (0x30 + (n - 52))
  else if n = 62 then '+' else '/'

/-- The number that a letter stands for. -/
def digit? (c : Char) : Option Nat :=
  let n := c.toNat
  if 0x41 ≤ n && n ≤ 0x5A then some (n - 0x41)
  else if 0x61 ≤ n && n ≤ 0x7A then some (n - 0x61 + 26)
  else if 0x30 ≤ n && n ≤ 0x39 then some (n - 0x30 + 52)
  else if c = '+' then some 62
  else if c = '/' then some 63
  else none

/-- Octets in letters, padded to whole groups. -/
def encode : Bytes → Text
  | [] => []
  | [a] => [letter (a.toNat / 4), letter (a.toNat % 4 * 16), '=', '=']
  | [a, b] =>
    [letter (a.toNat / 4), letter (a.toNat % 4 * 16 + b.toNat / 16), letter (b.toNat % 16 * 4), '=']
  | a :: b :: c :: rest =>
    letter (a.toNat / 4) :: letter (a.toNat % 4 * 16 + b.toNat / 16)
      :: letter (b.toNat % 16 * 4 + c.toNat / 64) :: letter (c.toNat % 64) :: encode rest

/-- The numbers of the letters at the front of a text, and what follows them. -/
def digits : Text → List Nat × Text
  | [] => ([], [])
  | c :: rest =>
    match digit? c with
    | some d => (d :: (digits rest).1, (digits rest).2)
    | none => ([], c :: rest)

/-- The octets of a list of letters' numbers, and how many letters are left over at the end. -/
def octets : List Nat → Bytes × Nat
  | d :: e :: f :: g :: rest =>
    (UInt8.ofNat (d * 4 + e / 16) :: UInt8.ofNat (e % 16 * 16 + f / 4)
      :: UInt8.ofNat (f % 4 * 64 + g) :: (octets rest).1, (octets rest).2)
  | [d, e, f] => ([UInt8.ofNat (d * 4 + e / 16), UInt8.ofNat (e % 16 * 16 + f / 4)], 3)
  | [d, e] => ([UInt8.ofNat (d * 4 + e / 16)], 2)
  | [_] => ([], 1)
  | [] => ([], 0)

/-- Whether the text after the letters is right padding, for the number of letters in all and the
number of them left over. -/
def padded (letters left : Nat) (tail : Text) : Bool :=
  match left with
  | 0 => tail.all (· = '=') && (tail.isEmpty || letters ≠ 0)
  | 2 => tail = ['=', '=']
  | 3 => tail = ['=']
  | _ => false

/-- The octets that a text in letters stands for, if it is well formed. -/
def decode? (t : Text) : Option Bytes :=
  let (letters, tail) := digits t
  let (bytes, left) := octets letters
  if padded letters.length left tail then some bytes else none

end CurlSnippets.Base64
