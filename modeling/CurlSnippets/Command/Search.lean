import CurlSnippets.Text.Basic

/-!
# Searching a text

A pattern is tried at one place of a text and sees the character before that place.  A search takes
the leftmost place where the pattern matches; a search for all matches goes on behind each one.
-/

namespace CurlSnippets

/-- A pattern is given the character before a place, if there is one, and the text from the place
on.  If it matches it answers what it captures and the text behind the match. -/
abbrev Pattern (α : Type) := Option Char → Text → Option (α × Text)

namespace Pattern

variable {α : Type}

/-- The capture of the leftmost match in the text that follows the character `before`. -/
def firstAfter (p : Pattern α) (before : Option Char) : Text → Option α
  | [] => (p before []).map Prod.fst
  | c :: rest =>
    match p before (c :: rest) with
    | some (a, _) => some a
    | none => firstAfter p (some c) rest

/-- The capture of the leftmost match. -/
def first? (p : Pattern α) (t : Text) : Option α := firstAfter p none t

/-- The matched texts and captures of all matches, from left to right, in the text that follows the
character `before`; the first `taken` characters belong to the previous match. -/
def allAfter (p : Pattern α) (before : Option Char) : (taken : Nat) → Text → List (Text × α)
  | _, [] => []
  | taken + 1, c :: rest => allAfter p (some c) taken rest
  | 0, c :: rest =>
    match p before (c :: rest) with
    | some (a, behind) =>
      ((c :: rest).take (rest.length + 1 - behind.length), a)
        :: allAfter p (some c) (rest.length - behind.length) rest
    | none => allAfter p (some c) 0 rest

/-- The matched texts and captures of all matches, from left to right. -/
def all (p : Pattern α) (t : Text) : List (Text × α) := allAfter p none 0 t

end Pattern

end CurlSnippets
