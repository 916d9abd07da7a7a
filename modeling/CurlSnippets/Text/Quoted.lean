import CurlSnippets.Text.Printable

/-!
# Quoted texts in messages

A message that names a text shows it between quotes: apostrophes, unless the text has an apostrophe
and no double quote.  What cannot be shown is written by its code point.
-/

namespace CurlSnippets.Text

/-- A number in hexadecimal, with zeros in front up to a width. -/
def hex (width n : Nat) : Text := padLeft width '0' (Nat.toDigits 16 n)

/-- The value of a hexadecimal digit in either letter case. -/
def hexValue? (c : Char) : Option Nat :=
  let n := c.toNat
  if 0x30 ≤ n && n ≤ 0x39 then some (n - 0x30)
  else if 0x41 ≤ n && n ≤ 0x46 then some (n - 0x37)
  else if 0x61 ≤ n && n ≤ 0x66 then some (n - 0x57)
  else none

/-- A character written by its code point. -/
def codeEscape (c : Char) : Text :=
  if c.toNat < 0x100 then "\\x" ++ hex 2 c.toNat
  else if c.toNat < 0x10000 then "\\u" ++ hex 4 c.toNat
  else "\\U" ++ hex 8 c.toNat

/-- How one character is shown between quotes of the kind `quote`. -/
def quotedChar (quote c : Char) : Text :=
  if c = quote || c = '\\' then ['\\', c]
  else if c = '\n' then "\\n"
  else if c = '\r' then "\\r"
  else if c = '\t' then "\\t"
  else if isPrintable c then [c]
  else codeEscape c

/-- The quote that is put around a text. -/
def quoteFor (t : Text) : Char := if t.contains '\'' && !t.contains '"' then '"' else '\''

/-- A text as a message shows it. -/
def quoted (t : Text) : Text :=
  [quoteFor t] ++ t.flatMap (quotedChar (quoteFor t)) ++ [quoteFor t]

/-- A text as a message shows it, with every character beyond ASCII by its code point. -/
def quotedAscii (t : Text) : Text :=
  (quoted t).flatMap fun c => if c.toNat < 128 then [c] else codeEscape c

/-- A list of texts as a message shows it. -/
def quotedList (ts : List Text) : Text := "[" ++ join ", " (ts.map quoted) ++ "]"

end CurlSnippets.Text
