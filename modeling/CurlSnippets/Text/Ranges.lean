import CurlSnippets.Text.Basic

/-!
# Tables of character ranges

A property of characters that follows no short rule is kept as a table of ranges of code points, in
ascending order, both ends included.
-/

namespace CurlSnippets.Text

/-- Ranges of code points in ascending order, both ends included. -/
abbrev Ranges := List (Nat × Nat)

/-- Whether a code point lies in one of the ranges.  The table is in ascending order, so the search
ends at the first range that reaches up to the code point. -/
def Ranges.has (n : Nat) : Ranges → Bool
  | [] => false
  | (first, last) :: rest => if last < n then Ranges.has n rest else first ≤ n

end CurlSnippets.Text
