import CurlSnippets.Text.Blank

/-!
# The layout of a command

A command is brought into a normal layout before anything is looked for in it: every line
continuation becomes a space, blanks outside quotes are squeezed to one space, and blanks at either
end are dropped.  A quoted stretch is kept as written.  Inside apostrophes the sequence `'\''`,
which is how an apostrophe is written there, does not end the stretch.
-/

namespace CurlSnippets.Command

/-- Every line continuation, a backslash before a line break, becomes a space. -/
def joinLines : Text → Text
  | [] => []
  | '\\' :: '\r' :: '\n' :: rest => ' ' :: joinLines rest
  | '\\' :: '\n' :: rest => ' ' :: joinLines rest
  | c :: rest => c :: joinLines rest

/-- How many characters an apostrophe-quoted stretch takes after its first apostrophe, the closing
one included.  An escaped apostrophe belongs to the stretch only if another one closes it later. -/
def singleSpan? : Text → Option Nat
  | [] => none
  | '\'' :: '\\' :: '\'' :: '\'' :: rest =>
    match singleSpan? rest with
    | some n => some (n + 4)
    | none => some 1
  | '\'' :: _ => some 1
  | _ :: rest => (singleSpan? rest).map (· + 1)

/-- How many characters a stretch in double quotes takes after its first quote. -/
def doubleSpan? : Text → Option Nat
  | [] => none
  | c :: rest => if c = '"' then some 1 else (doubleSpan? rest).map (· + 1)

/-- How many characters after the first one belong to the quoted stretch that a text begins with. -/
def spanLength? : Text → Option Nat
  | '\'' :: rest => singleSpan? rest
  | '"' :: rest => doubleSpan? rest
  | _ => none

/-- Whether a text begins with a blank. -/
def beginsBlank : Text → Bool
  | [] => false
  | c :: _ => Text.isBlank c

/-- The text with its blanks outside quotes squeezed; the first `kept` characters belong to a quoted
stretch and stay as they are.  Of a run of blanks the last one is written, as a space. -/
def squeeze : (kept : Nat) → Text → Text
  | _, [] => []
  | kept + 1, c :: rest => c :: squeeze kept rest
  | 0, c :: rest =>
    match spanLength? (c :: rest) with
    | some n => c :: squeeze n rest
    | none =>
      if Text.isBlank c then
        if beginsBlank rest then squeeze 0 rest else ' ' :: squeeze 0 rest
      else c :: squeeze 0 rest

/-- The command in normal layout. -/
def normalize (command : Text) : Text := Text.trim (squeeze 0 (joinLines command))

end CurlSnippets.Command
