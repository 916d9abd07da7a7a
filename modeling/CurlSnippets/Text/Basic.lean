/-!
# Texts

A text is the list of its characters, so that every function on texts is a recursion on a list and
every statement about a written form is a statement about appending lists.  This module holds the
operations the rest of the library is written with: cutting at a separator, joining, looking for
one text inside another, and small tests on the first and last character.

Half a character, which a pair of code units is made of, is no character: a text has none in it, so every
text has octets.  Strings that may hold such halves are lists of code units.
-/

namespace CurlSnippets

/-- A text is the list of its characters. -/
abbrev Text := List Char

instance : Coe String Text := ⟨String.toList⟩

namespace Text

/-! ### Cutting and joining -/

/-- The part of a text before the first `sep`, and the part after it if there is a `sep` at all. -/
def cut (sep : Char) : Text → Text × Option Text
  | [] => ([], none)
  | c :: rest =>
    if c = sep then ([], some rest)
    else (c :: (cut sep rest).1, (cut sep rest).2)

/-- The pieces of a text between its separators; there is always one piece more than there are
separators. -/
def split (sep : Char) : Text → List Text
  | [] => [[]]
  | c :: rest =>
    if c = sep then [] :: split sep rest
    else match split sep rest with
      | [] => [[c]]
      | piece :: pieces => (c :: piece) :: pieces

/-- The pieces one after another with `sep` between them. -/
def join (sep : Text) : List Text → Text
  | [] => []
  | [piece] => piece
  | piece :: pieces => piece ++ sep ++ join sep pieces

/-- The lines of a program, with a line feed between them. -/
def lines (pieces : List Text) : Text := join ['\n'] pieces

/-- As many copies of a character as asked for. -/
def fill (n : Nat) (c : Char) : Text := List.replicate n c

/-- The text with copies of `c` in front, so that it is at least `width` long. -/
def padLeft (width : Nat) (c : Char) (t : Text) : Text := fill (width - t.length) c ++ t

/-- The text with copies of `c` behind it, so that it is at least `width` long. -/
def padRight (width : Nat) (c : Char) (t : Text) : Text := t ++ fill (width - t.length) c

/-! ### Looking inside -/

/-- What follows `start` in a text that begins with it. -/
def after? : (start : Text) → Text → Option Text
  | [], t => some t
  | _ :: _, [] => none
  | s :: start, c :: t => if s = c then after? start t else none

/-- Whether the text begins with `start`. -/
def beginsWith (start t : Text) : Bool := (after? start t).isSome

/-- Whether `part` stands anywhere in the text. -/
def occursIn (part : Text) : Text → Bool
  | [] => part.isEmpty
  | c :: rest => beginsWith part (c :: rest) || occursIn part rest

/-- The text without the characters that `drop` holds of at either end. -/
def stripBoth (drop : Char → Bool) (t : Text) : Text :=
  ((t.dropWhile drop).reverse.dropWhile drop).reverse

/-! ### Small laws -/

@[simp] theorem after?_append (start t : Text) : after? start (start ++ t) = some t := by
  induction start with
  | nil => rfl
  | cons s start ih => simp [after?, ih]

theorem eq_append_of_after? {start t rest : Text} (h : after? start t = some rest) :
    t = start ++ rest := by
  induction start generalizing t with
  | nil => simpa [after?] using h
  | cons s start ih =>
    cases t with
    | nil => simp [after?] at h
    | cons c t =>
      by_cases hs : s = c
      · subst hs
        simp only [after?, if_true] at h
        simp [ih h]
      · simp [after?, hs] at h

/-- What was cut apart, put together again, is the text. -/
theorem cut_eq (sep : Char) (t : Text) :
    t = (cut sep t).1 ++ (match (cut sep t).2 with | none => [] | some rest => sep :: rest) := by
  induction t with
  | nil => rfl
  | cons c t ih =>
    by_cases h : c = sep
    · simp [cut, h]
    · simp [cut, h, ← ih]

theorem split_ne_nil (sep : Char) (t : Text) : split sep t ≠ [] := by
  cases t with
  | nil => simp [split]
  | cons c t =>
    by_cases h : c = sep
    · simp [split, h]
    · simp only [split, h, if_false]
      split <;> simp

end Text

end CurlSnippets
