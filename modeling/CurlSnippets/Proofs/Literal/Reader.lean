import CurlSnippets.Snippet.Literal
import Mathlib.Data.List.Basic

/-!
# Reading quoted literals

How a language reads a literal in quotes: a character stands for itself or may not stand there, and a
backslash begins an escape, which is one letter or has a form of its own.  Reading ends at the first
quote that is not part of an escape.

A literal is read back, in front of any text, if the reader undoes the escape of every single character
(`Undoes.read_enclose`, `Undoes.read_text`).
-/

namespace CurlSnippets.Literal

theorem ascii_of_isControl {c : Char} (h : isControl c) : c.toNat < 128 := by
  rw [isControl, Bool.or_eq_true, decide_eq_true_eq, decide_eq_true_eq] at h
  omega

/-- How a language reads what stands between quotes.  The value of a literal is a list of units: of
characters, or of what the language writes characters in. -/
structure Reader (β : Type) where
  quote : Char
  /-- What a character adds to the value. -/
  units : Char → List β
  /-- Whether a character that is no quote and no backslash may stand for itself. -/
  plain : Char → Bool
  /-- The letters that stand for a character behind a backslash. -/
  letters : List (Char × Char)
  /-- Any other escape: what it adds to the value, and how many characters it has behind its backslash. -/
  other : Text → Option (List β × Nat)

namespace Reader

variable {β : Type} (r : Reader β)

/-- Reads an escape behind its backslash. -/
def escape : Text → Option (List β × Nat)
  | [] => none
  | c :: t =>
    match r.letters.lookup c with
    | some d => some (r.units d, 1)
    | none => r.other (c :: t)

/-- What is read, with `value` in front of it. -/
def behind (value : List β) : Option (List β × Text) → Option (List β × Text) :=
  Option.map fun found => (value ++ found.1, found.2)

/-- The rest of a literal behind its opening quote, and what is left; `skipped` characters were already
read as part of an escape. -/
def body : (skipped : Nat) → Text → Option (List β × Text)
  | _, [] => none
  | skipped + 1, _ :: t => body skipped t
  | 0, c :: t =>
    if c = r.quote then some ([], t)
    else if c = '\\' then
      match r.escape t with
      | some (value, n) => behind value (body n t)
      | none => none
    else if r.plain c then behind (r.units c) (body 0 t)
    else none

/-- The value of the literal that a text begins with, and what is left behind it. -/
def read : Text → Option (List β × Text)
  | [] => none
  | c :: t => if c = r.quote then r.body 0 t else none

/-! ### What one character is read as -/

variable {r}

theorem escape_letter {c d : Char} (h : r.letters.lookup c = some d) (t : Text) :
    r.escape (c :: t) = some (r.units d, 1) := by
  rw [escape, h]

theorem escape_other {c : Char} (h : r.letters.lookup c = none) (t : Text) :
    r.escape (c :: t) = r.other (c :: t) := by
  rw [escape, h]

theorem body_skipped (x s : Text) : r.body x.length (x ++ s) = r.body 0 s := by
  induction x with
  | nil => rfl
  | cons c x ih => exact ih

theorem body_plain {c : Char} (quote : c ≠ r.quote) (backslash : c ≠ '\\') (h : r.plain c) (s : Text) :
    r.body 0 (c :: s) = behind (r.units c) (r.body 0 s) := by
  rw [body, if_neg quote, if_neg backslash, if_pos h]

theorem body_escape (quote : r.quote ≠ '\\') {x s : Text} {value : List β}
    (h : r.escape (x ++ s) = some (value, x.length)) :
    r.body 0 ('\\' :: (x ++ s)) = behind value (r.body 0 s) := by
  rw [body, if_neg quote.symm, if_pos rfl, h]
  exact congrArg (behind value) (body_skipped x s)

variable (r) in
/-- The escapes of a writer are undone.  The characters that have a letter, quote and backslash among
them, are written with it; of the others some have a code behind a backslash, and the rest stand for
themselves. -/
structure Undoes (write : Char → Text) (coded : Char → Bool) (code : Char → Text) : Prop where
  differ : r.quote ≠ '\\'
  quote : r.quote ∈ r.letters.map Prod.snd
  backslash : '\\' ∈ r.letters.map Prod.snd
  letters : ∀ p ∈ r.letters, write p.2 = ['\\', p.1] ∧ r.letters.lookup p.1 = some p.2
  others : ∀ c ∉ r.letters.map Prod.snd, write c = if coded c then '\\' :: code c else [c]
  plain : ∀ c ∉ r.letters.map Prod.snd, coded c = false → r.plain c
  /-- A code is read alike in front of any text. -/
  codes : ∀ c, coded c → ∀ s, r.escape (code c ++ s) = some (r.units c, (code c).length)

namespace Undoes

variable {write : Char → Text} {coded : Char → Bool} {code : Char → Text}

/-- A written character is read back. -/
theorem body (h : r.Undoes write coded code) (c : Char) (s : Text) :
    r.body 0 (write c ++ s) = behind (r.units c) (r.body 0 s) := by
  by_cases hc : c ∈ r.letters.map Prod.snd
  · -- the character has a letter of its own
    obtain ⟨⟨letter, d⟩, hp, rfl⟩ := List.mem_map.1 hc
    obtain ⟨written, found⟩ := h.letters _ hp
    rw [written]
    exact body_escape h.differ (x := [letter]) (escape_letter found s)
  · have written := h.others c hc
    cases by_code : coded c with
    | true =>
      -- it has a code
      rw [written, if_pos by_code]
      exact body_escape h.differ (h.codes c by_code s)
    | false =>
      -- it stands for itself, and so is neither the quote nor a backslash
      have noQuote : c ≠ r.quote := fun e => hc (e ▸ h.quote)
      have noBackslash : c ≠ '\\' := fun e => hc (e ▸ h.backslash)
      rw [written, by_code]
      exact body_plain noQuote noBackslash (h.plain c hc by_code) s

theorem body_flatMap (h : r.Undoes write coded code) (t s : Text) :
    r.body 0 (t.flatMap write ++ r.quote :: s) = some (t.flatMap r.units, s) := by
  induction t with
  | nil => rw [List.flatMap_nil, List.nil_append, Reader.body, if_pos rfl, List.flatMap_nil]
  | cons c t ih => rw [List.flatMap_cons, List.append_assoc, h.body, ih, List.flatMap_cons]; rfl

/-- **A literal is read back** in front of any text. -/
theorem read_enclose (h : r.Undoes write coded code) (t s : Text) :
    r.read (enclose r.quote write t ++ s) = some (t.flatMap r.units, s) := by
  have inside : enclose r.quote write t ++ s = r.quote :: (t.flatMap write ++ r.quote :: s) := by
    simp [enclose]
  rw [inside, read, if_pos rfl, h.body_flatMap]

/-- A literal that stands for a list of characters is read back as its text. -/
theorem read_text {r : Reader Char} (h : r.Undoes write coded code) (chars : ∀ c, r.units c = [c])
    (t s : Text) : r.read (enclose r.quote write t ++ s) = some (t, s) := by
  have same : t.flatMap r.units = t := by
    rw [List.flatMap_congr fun c _ => chars c, List.flatMap_singleton']
  rw [h.read_enclose, same]

end Undoes

end Reader

end CurlSnippets.Literal
