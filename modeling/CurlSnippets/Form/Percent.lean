import CurlSnippets.Bytes.Utf8
import CurlSnippets.Text.Quoted

/-!
# Percent escapes

The text form of one key or value of a form: letters, digits and `_ . - ~` stand for themselves, a
space is a plus sign, and every other octet is a percent sign and two hexadecimal digits.  Reading
takes escapes back octet by octet; a percent sign that begins no escape stands for itself, and so
does every character beyond ASCII.
-/

namespace CurlSnippets.Percent

/-- Whether a character stands for itself. -/
def isUnreserved (c : Char) : Bool :=
  c.isAlphanum || c = '_' || c = '.' || c = '-' || c = '~'

/-- A hexadecimal digit in upper case. -/
def upperHex (n : Nat) : Char :=
  if n < 10 then Char.ofNat (0x30 + n) else Char.ofNat (0x41 + (n - 10))

/-- The escape of one octet. -/
def escape (b : UInt8) : Text := ['%', upperHex (b.toNat / 16), upperHex (b.toNat % 16)]

/-- The written form of one character. -/
def encodeChar (c : Char) : Text :=
  if isUnreserved c then [c]
  else if c = ' ' then ['+']
  else (Utf8.encodeChar c).flatMap escape

/-- The written form of a key or a value. -/
def encode (t : Text) : Text := t.flatMap encodeChar

/-- The octet of an escape with two given digits. -/
def escaped? (high low : Char) : Option UInt8 :=
  match Text.hexValue? high, Text.hexValue? low with
  | some h, some l => some (UInt8.ofNat (h * 16 + l))
  | _, _ => none

/-- The text with its escapes taken back; `pending` holds the octets read since the last character
beyond ASCII, the latest first. -/
def unescapeFrom (pending : Bytes) : Text → Text
  | [] => Utf8.decode pending.reverse
  | '%' :: high :: low :: rest =>
    match escaped? high low with
    | some b => unescapeFrom (b :: pending) rest
    | none => unescapeFrom (0x25 :: pending) (high :: low :: rest)
  | c :: rest =>
    if c.toNat < 128 then unescapeFrom (UInt8.ofNat c.toNat :: pending) rest
    else Utf8.decode pending.reverse ++ c :: unescapeFrom [] rest

/-- The text with its escapes taken back. -/
def unescape (t : Text) : Text := unescapeFrom [] t

/-- The key or value that a written form stands for. -/
def decode (t : Text) : Text := unescape (t.map fun c => if c = '+' then ' ' else c)

end CurlSnippets.Percent
