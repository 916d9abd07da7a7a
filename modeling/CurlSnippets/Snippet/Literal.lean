import CurlSnippets.Fields
import CurlSnippets.Json.Printer

/-!
# String literals

How a text is written in the language of each snippet.  An escaped form replaces single characters;
a raw form takes the text as it is and is used where nothing in the text would end it early or be
changed on reading.
-/

namespace CurlSnippets.Literal

/-- A text between quotes, character by character. -/
def enclose (quote : Char) (escape : Char → Text) (t : Text) : Text :=
  quote :: t.flatMap escape ++ [quote]

/-- Whether a character is a control character, the last ASCII code included. -/
def isControl (c : Char) : Bool := c.toNat < 0x20 || c.toNat = 0x7F

/-! ### Shell -/

/-- An apostrophe ends the quotes, stands behind a backslash, and the quotes begin again. -/
def shellEscape (c : Char) : Text := if c = '\'' then ['\'', '\\', '\'', '\''] else [c]

/-- A word of the shell in apostrophes. -/
def shell (t : Text) : Text := enclose '\'' shellEscape t

/-! ### JavaScript -/

/-- Line ends of every kind are escaped, the two beyond ASCII by number. -/
def javascriptEscape (c : Char) : Text :=
  if c = '\\' then ['\\', '\\']
  else if c = '\'' then ['\\', '\'']
  else if c = '\n' then ['\\', 'n']
  else if c = '\r' then ['\\', 'r']
  else if c = '\t' then ['\\', 't']
  else if c = Char.ofNat 0x2028 then "\\u2028"
  else if c = Char.ofNat 0x2029 then "\\u2029"
  else [c]

/-- A JavaScript string in apostrophes. -/
def javascript (t : Text) : Text := enclose '\'' javascriptEscape t

/-! ### Python -/

/-- A Python string in double quotes.  Every escape of a JSON string means the same there. -/
def python (t : Text) : Text := Json.quote t

/-- Whether a text ends with a double quote. -/
def endsQuoted (t : Text) : Bool := t.getLast? = some '"'

/-- A Python string between three double quotes, if it holds no three of them, no backslash, and
none at its end; else one in double quotes. -/
def pythonRaw (t : Text) : Text :=
  if Text.occursIn "\"\"\"" t || t.contains '\\' || endsQuoted t then python t
  else "\"\"\"" ++ t ++ "\"\"\""

/-! ### Go -/

/-- Control characters without a letter of their own are written as two hexadecimal digits. -/
def goEscape (c : Char) : Text :=
  if c = '\\' then ['\\', '\\']
  else if c = '"' then ['\\', '"']
  else if c = '\n' then ['\\', 'n']
  else if c = '\r' then ['\\', 'r']
  else if c = '\t' then ['\\', 't']
  else if isControl c then ['\\', 'x'] ++ Text.hex 2 c.toNat
  else [c]

/-- A Go string in double quotes. -/
def go (t : Text) : Text := enclose '"' goEscape t

/-- The back quote of raw Go strings. -/
def backquote : Char := '\x60'

/-- A raw Go string, if it holds no back quote and no carriage return, which reading would drop;
else one in double quotes. -/
def goRaw (t : Text) : Text :=
  if t.contains backquote || t.contains '\r' then go t else [backquote] ++ t ++ [backquote]

/-! ### Rust -/

/-- Control characters without a letter of their own are written in braces. -/
def rustEscape (c : Char) : Text :=
  if c = '\\' then ['\\', '\\']
  else if c = '"' then ['\\', '"']
  else if c = '\n' then ['\\', 'n']
  else if c = '\r' then ['\\', 'r']
  else if c = '\t' then ['\\', 't']
  else if c = '\x00' then ['\\', '0']
  else if isControl c then "\\u\x7b" ++ Text.hex 1 c.toNat ++ ['\x7d']
  else [c]

/-- A Rust string in double quotes. -/
def rust (t : Text) : Text := enclose '"' rustEscape t

/-- A raw Rust string with one number sign, if it holds neither its end nor a carriage return; else
one in double quotes. -/
def rustRaw (t : Text) : Text :=
  if Text.occursIn "\"#" t || t.contains '\r' then rust t else "r#\"" ++ t ++ "\"#"

/-! ### Java -/

/-- Control characters without a letter of their own are written as three octal digits.  Escapes by
code point would be replaced before the string is read. -/
def javaEscape (c : Char) : Text :=
  if c = '\\' then ['\\', '\\']
  else if c = '"' then ['\\', '"']
  else if c = '\n' then ['\\', 'n']
  else if c = '\r' then ['\\', 'r']
  else if c = '\t' then ['\\', 't']
  else if c = '\x08' then ['\\', 'b']
  else if c = '\x0c' then ['\\', 'f']
  else if isControl c then '\\' :: Text.padLeft 3 '0' (Nat.toDigits 8 c.toNat)
  else [c]

/-- A Java string in double quotes. -/
def java (t : Text) : Text := enclose '"' javaEscape t

/-! ### PHP -/

/-- Only the backslash and the apostrophe are escaped. -/
def phpEscape (c : Char) : Text :=
  if c = '\\' then ['\\', '\\'] else if c = '\'' then ['\\', '\''] else [c]

/-- A PHP string in apostrophes. -/
def php (t : Text) : Text := enclose '\'' phpEscape t

/-- One entry of a PHP array on a line of its own. -/
def phpEntry (indent : Text) (p : Text × Text) : Text :=
  indent ++ "    " ++ php p.1 ++ " => " ++ php p.2 ++ [',']

/-- A PHP array of named values, the lines after the first behind an indentation. -/
def phpArray (f : Fields) (indent : Text) : Text :=
  if f.isEmpty then "[]"
  else "[\n" ++ Text.lines (f.entries.map (phpEntry indent)) ++ ['\n'] ++ indent ++ [']']

end CurlSnippets.Literal
