import CurlSnippets.Text.Basic

/-!
# Blank characters

The characters that separate words: Unicode white space together with the four information
separators U+001C to U+001F.  A zero width space and a byte order mark are not blank.
-/

namespace CurlSnippets.Text

/-- Whether a character separates words. -/
def isBlank (c : Char) : Bool :=
  let n := c.toNat
  (9 ≤ n && n ≤ 13) || (28 ≤ n && n ≤ 32) || n = 0x85 || n = 0xA0 || n = 0x1680
    || (0x2000 ≤ n && n ≤ 0x200A) || n = 0x2028 || n = 0x2029 || n = 0x202F || n = 0x205F
    || n = 0x3000

/-- The text without the blanks at either end. -/
def trim (t : Text) : Text := stripBoth isBlank t

/-- The text without the blanks it begins with. -/
def dropBlanks (t : Text) : Text := t.dropWhile isBlank

/-- Core's white space is blank. -/
theorem isBlank_of_isWhitespace {c : Char} (h : c.isWhitespace) : isBlank c := by
  simp only [Char.isWhitespace, Bool.or_eq_true, decide_eq_true_eq] at h
  rcases h with ((h | h) | h) | h <;> subst h <;> decide

end CurlSnippets.Text
