import CurlSnippets.Text.Basic

/-!
# UTF-8

Texts as octets and back.  Writing is exact.  Reading never fails: each longest run of octets that
begins a character and cannot be finished counts as one U+FFFD.
-/

namespace CurlSnippets

/-- Octets. -/
abbrev Bytes := List UInt8

namespace Utf8

/-- The character that stands for octets which are none. -/
def replacement : Char := Char.ofNat 0xFFFD

/-- The octets of one character. -/
def encodeChar (c : Char) : Bytes :=
  let n := c.toNat
  if n < 0x80 then [UInt8.ofNat n]
  else if n < 0x800 then [UInt8.ofNat (0xC0 + n / 64), UInt8.ofNat (0x80 + n % 64)]
  else if n < 0x10000 then
    [UInt8.ofNat (0xE0 + n / 4096), UInt8.ofNat (0x80 + n / 64 % 64), UInt8.ofNat (0x80 + n % 64)]
  else
    [UInt8.ofNat (0xF0 + n / 262144), UInt8.ofNat (0x80 + n / 4096 % 64),
      UInt8.ofNat (0x80 + n / 64 % 64), UInt8.ofNat (0x80 + n % 64)]

/-- The octets of a text. -/
def encode (t : Text) : Bytes := t.flatMap encodeChar

/-- The least and the greatest octet that may follow a first octet of three or four.  The bounds
keep out spellings that are too long, surrogates, and what lies beyond the last code point. -/
def secondBounds (first : Nat) : Nat × Nat :=
  if first = 0xE0 then (0xA0, 0xBF)
  else if first = 0xED then (0x80, 0x9F)
  else if first = 0xF0 then (0x90, 0xBF)
  else if first = 0xF4 then (0x80, 0x8F)
  else (0x80, 0xBF)

/-- Whether an octet may come second after `first`. -/
def isSecond (first second : Nat) : Bool :=
  (secondBounds first).1 ≤ second && second ≤ (secondBounds first).2

/-- Whether an octet may come later than second. -/
def isTail (octet : Nat) : Bool := 0x80 ≤ octet && octet ≤ 0xBF

/-- The text that octets stand for. -/
def decode : Bytes → Text
  | [] => []
  | a :: rest =>
    let a' := a.toNat
    if a' < 0x80 then Char.ofNat a' :: decode rest
    else if 0xC2 ≤ a' && a' ≤ 0xDF then
      match rest with
      | b :: rest' =>
        if isTail b.toNat then Char.ofNat ((a' - 0xC0) * 64 + (b.toNat - 0x80)) :: decode rest'
        else replacement :: decode (b :: rest')
      | [] => [replacement]
    else if 0xE0 ≤ a' && a' ≤ 0xEF then
      match rest with
      | b :: c :: rest' =>
        if isSecond a' b.toNat then
          if isTail c.toNat then
            Char.ofNat ((a' - 0xE0) * 4096 + (b.toNat - 0x80) * 64 + (c.toNat - 0x80))
              :: decode rest'
          else replacement :: decode (c :: rest')
        else replacement :: decode (b :: c :: rest')
      | [b] => if isSecond a' b.toNat then [replacement] else replacement :: decode [b]
      | [] => [replacement]
    else if 0xF0 ≤ a' && a' ≤ 0xF4 then
      match rest with
      | b :: c :: d :: rest' =>
        if isSecond a' b.toNat then
          if isTail c.toNat then
            if isTail d.toNat then
              Char.ofNat ((a' - 0xF0) * 262144 + (b.toNat - 0x80) * 4096 + (c.toNat - 0x80) * 64
                + (d.toNat - 0x80)) :: decode rest'
            else replacement :: decode (d :: rest')
          else replacement :: decode (c :: d :: rest')
        else replacement :: decode (b :: c :: d :: rest')
      | [b, c] =>
        if isSecond a' b.toNat then
          if isTail c.toNat then [replacement] else replacement :: decode [c]
        else replacement :: decode [b, c]
      | [b] => if isSecond a' b.toNat then [replacement] else replacement :: decode [b]
      | [] => [replacement]
    else replacement :: decode rest

end Utf8

end CurlSnippets
