import CurlSnippets.Text.Quoted

/-!
# Templates

A template is a text with placeholders.  A placeholder is a percent sign, flags, a least width, a
greatest length behind a point, and a letter for the form in which the argument is written; two
percent signs stand for one.  Arguments are texts, taken in order, and every one must be used.
-/

namespace CurlSnippets

/-- What a placeholder is filled with: a text, or all values that have a name at once. -/
inductive Filling where
  | text | fields
deriving DecidableEq, Repr

/-- The name of the kind of a filling. -/
def Filling.kind : Filling → Text
  | .text => "str"
  | .fields => "dict"

/-- Why a template cannot be filled in. -/
inductive TemplateError where
  /-- A placeholder has no argument. -/
  | tooFew
  /-- An argument has no placeholder. -/
  | tooMany
  /-- A placeholder has a name. -/
  | named
  /-- A placeholder wants its width or length from an argument. -/
  | star
  /-- The template ends inside a placeholder. -/
  | incomplete
  /-- A width is beyond all texts. -/
  | width
  /-- A length is beyond all texts. -/
  | precision
  /-- A placeholder is for a number. -/
  | number (form : Char) (given : Filling)
  /-- A placeholder is for an integer. -/
  | integer (form : Char) (given : Filling)
  /-- A placeholder is for a number in floating point. -/
  | real (given : Filling)
  /-- A placeholder is for one character. -/
  | character
  /-- There is no form of the letter, which stands at a place. -/
  | unsupported (form : Char) (index : Nat)
deriving DecidableEq

namespace TemplateError

/-- Whether it is the template that is wrong, and not what it is filled with. -/
def isMalformed : TemplateError → Bool
  | .incomplete | .width | .precision | .unsupported _ _ => true
  | _ => false

/-- The wording of the error. -/
def message : TemplateError → Text
  | .tooFew => "not enough arguments for format string"
  | .tooMany => "not all arguments converted during string formatting"
  | .named => "format requires a mapping"
  | .star => "* wants int"
  | .incomplete => "incomplete format"
  | .width => "width too big"
  | .precision => "precision too big"
  | .number form given =>
    List.flatten ["%", [form], " format: a real number is required, not ", given.kind]
  | .integer form given =>
    List.flatten ["%", [form], " format: an integer is required, not ", given.kind]
  | .real given => "must be real number, not " ++ given.kind
  | .character => "%c requires int or char"
  | .unsupported form index =>
    let shown := if 31 ≤ form.toNat && form.toNat < 127 then form else '?'
    List.flatten ["unsupported format character '", [shown], "' (0x", Text.hex 0 form.toNat,
      ") at index ", Nat.toDigits 10 index]

end TemplateError

/-- How an argument is put in. -/
structure Placeholder where
  /-- Blanks go behind the argument and not in front of it. -/
  left : Bool
  width : Nat
  precision : Option Nat
  /-- The letter of the form. -/
  form : Char
deriving DecidableEq

namespace Placeholder

/-- Whether a character is a flag. -/
def isFlag (c : Char) : Bool := c = '-' || c = '+' || c = ' ' || c = '#' || c = '0'

/-- The number that digits write; none is zero. -/
def number (digits : Text) : Nat := Nat.ofDigitChars 10 digits 0

/-- The greatest width. -/
def greatestWidth : Nat := Nat.pow 2 63 - 1

/-- The greatest length. -/
def greatestPrecision : Nat := Nat.pow 2 31 - 1

/-- The text without the letter of a number's size, which says nothing. -/
def dropSize : Text → Text
  | c :: rest => if c = 'h' || c = 'l' || c = 'L' then rest else c :: rest
  | [] => []

/-- A length, if a point announces one, and what follows it. -/
def cutPrecision (t : Text) : Except TemplateError (Option Nat × Text) :=
  match t with
  | '.' :: '*' :: _ => .error .star
  | '.' :: rest =>
    let n := number (rest.takeWhile Char.isDigit)
    if n > greatestPrecision then .error .precision
    else .ok (some n, rest.dropWhile Char.isDigit)
  | _ => .ok (none, t)

/-- The letter of a placeholder, and what follows it. -/
def cutForm (left : Bool) (width : Nat) (precision : Option Nat) (t : Text) :
    Except TemplateError (Placeholder × Text) :=
  match dropSize t with
  | [] => .error .incomplete
  | form :: rest => .ok (⟨left, width, precision, form⟩, rest)

/-- A width and what follows it, behind flags. -/
def cutWidth (left : Bool) (t : Text) : Except TemplateError (Placeholder × Text) :=
  if t.head? = some '*' then .error .star
  else
    let width := number (t.takeWhile Char.isDigit)
    if width > greatestWidth then .error .width
    else match cutPrecision (t.dropWhile Char.isDigit) with
      | .error e => .error e
      | .ok (precision, rest) => cutForm left width precision rest

/-- The placeholder behind a percent sign, and what follows it. -/
def cut (t : Text) : Except TemplateError (Placeholder × Text) :=
  cutWidth ((t.takeWhile isFlag).contains '-') (t.dropWhile isFlag)

theorem length_dropSize_le (t : Text) : (dropSize t).length ≤ t.length := by
  cases t with
  | nil => simp [dropSize]
  | cons c t =>
    simp only [dropSize]
    split <;> simp

theorem length_of_cutForm {left : Bool} {width : Nat} {precision : Option Nat} {t rest : Text}
    {p : Placeholder} (h : cutForm left width precision t = .ok (p, rest)) :
    rest.length < t.length := by
  have hl := length_dropSize_le t
  unfold cutForm at h
  split at h
  · simp at h
  · rename_i form rest' heq
    simp only [Except.ok.injEq, Prod.mk.injEq] at h
    rw [heq, h.2, List.length_cons] at hl
    exact hl

theorem length_of_cutPrecision {t rest : Text} {n : Option Nat}
    (h : cutPrecision t = .ok (n, rest)) : rest.length ≤ t.length := by
  unfold cutPrecision at h
  split at h
  · simp at h
  · rename_i r _
    simp only at h
    split at h
    · simp at h
    · simp only [Except.ok.injEq, Prod.mk.injEq] at h
      rw [← h.2, List.length_cons]
      exact Nat.le_succ_of_le (List.dropWhile_sublist _).length_le
  · simp only [Except.ok.injEq, Prod.mk.injEq] at h
    exact Nat.le_of_eq (congrArg List.length h.2.symm)

theorem length_of_cut {t rest : Text} {p : Placeholder} (h : cut t = .ok (p, rest)) :
    rest.length < t.length := by
  unfold cut cutWidth at h
  split at h
  · simp at h
  · simp only at h
    split at h
    · simp at h
    · split at h
      · simp at h
      · rename_i heq
        have h1 := length_of_cutForm h
        have h2 := length_of_cutPrecision heq
        have h3 := (List.dropWhile_sublist (l := t) isFlag).length_le
        have h4 := (List.dropWhile_sublist (l := t.dropWhile isFlag) Char.isDigit).length_le
        omega

/-- The text with blanks up to the width. -/
def pad (p : Placeholder) (t : Text) : Text :=
  if p.left then Text.padRight p.width ' ' t else Text.padLeft p.width ' ' t

/-- The text cut at the greatest length, with blanks up to the width. -/
def fit (p : Placeholder) (t : Text) : Text :=
  p.pad (match p.precision with
    | some n => t.take n
    | none => t)

/-- Why a filling cannot be put in where the form is none for texts; `index` is the place of the
letter. -/
def refusal (p : Placeholder) (index : Nat) (given : Filling) : TemplateError :=
  if p.form = 'c' then .character
  else if p.form = 'd' || p.form = 'i' || p.form = 'u' then .number p.form given
  else if p.form = 'x' || p.form = 'X' || p.form = 'o' then .integer p.form given
  else if ['e', 'E', 'f', 'F', 'g', 'G'].contains p.form then .real given
  else .unsupported p.form index

/-- An argument as the placeholder writes it; `index` is the place of the letter. -/
def write (p : Placeholder) (index : Nat) (argument : Text) : Except TemplateError Text :=
  if p.form = 's' then .ok (p.fit argument)
  else if p.form = 'r' then .ok (p.fit (Text.quoted argument))
  else if p.form = 'a' then .ok (p.fit (Text.quotedAscii argument))
  else if p.form = 'c' && argument.length = 1 then .ok (p.pad argument)
  else .error (p.refusal index .text)

end Placeholder

namespace Template

/-- The rest of a template of a given length, filled in with the arguments that are left. -/
def fillFrom (length : Nat) (arguments : List Text) (t : Text) : Except TemplateError Text :=
  match t with
  | [] => if arguments.isEmpty then .ok [] else .error .tooMany
  | '%' :: '%' :: rest => (fillFrom length arguments rest).map ('%' :: ·)
  | '%' :: '(' :: _ => .error .named
  | '%' :: rest =>
    match _h : Placeholder.cut rest with
    | .error e => .error (if e = .star && arguments.isEmpty then .tooFew else e)
    | .ok (p, after) =>
      match arguments with
      | [] => .error .tooFew
      | argument :: others =>
        match p.write (length - after.length - 1) argument with
        | .error e => .error e
        | .ok written => (fillFrom length others after).map (written ++ ·)
  | c :: rest => (fillFrom length arguments rest).map (c :: ·)
termination_by t.length
decreasing_by
  · simp only [List.length_cons]
    omega
  · have := Placeholder.length_of_cut _h
    simp only [List.length_cons]
    omega
  · simp

/-- A template filled in with arguments. -/
def fill (t : Text) (arguments : List Text) : Except TemplateError Text :=
  fillFrom t.length arguments t

end Template

end CurlSnippets
