import CurlSnippets.Json.Reader
import CurlSnippets.Proofs.Literal.Reader
import CurlSnippets.Proofs.Snippet.Literals

/-!
# Java literals read back

Java reads a program in two phases.  Unicode escapes are translated first, wherever they stand, also in
a literal; a backslash begins one if the backslashes directly in front of it are even in number.  Then
literals are read, with escapes of their own.

No backslash of a written literal begins a Unicode escape: it is the first of an escape that goes on
with another letter than `u`, or the second.  So the first phase leaves a literal as it is
(`translate_java`), and the second reads it back.
-/

namespace CurlSnippets.Literal.Java

open Text

/-! ### Unicode escapes -/

/-- The number of a Unicode escape that a text goes on with behind a backslash, and how many characters
it has there: any number of `u` and four digits. -/
def code? (t : Text) : Option (Nat × Nat) :=
  match t.dropWhile (· = 'u') with
  | a :: b :: c :: d :: _ =>
    (Json.hex4? a b c d).map fun n => (n, (t.takeWhile (· = 'u')).length + 4)
  | _ => none

/-- The character of a Unicode escape behind its backslash, and how many characters it has there.  A
character beyond the first 65536 is written as two halves; half a character is none. -/
def character? (t : Text) : Option (Char × Nat) :=
  match code? t with
  | none => none
  | some (high, n) =>
    if high < 0xD800 || 0xDFFF < high then some (Char.ofNat high, n)
    else match t.drop n with
      | '\\' :: rest =>
        match code? rest with
        | some (low, m) =>
          if high ≤ 0xDBFF && 0xDC00 ≤ low && low ≤ 0xDFFF then
            some (CodeUnit.join (.ofNat high) (.ofNat low), n + 1 + m)
          else none
        | none => none
      | _ => none

/-- Translates the Unicode escapes of a text; `skipped` characters were already read as part of one, and
`even` says whether the backslashes directly in front are even in number. -/
def translateFrom (even : Bool) : (skipped : Nat) → Text → Option Text
  | _, [] => some []
  | skipped + 1, _ :: t => translateFrom true skipped t
  | 0, c :: t =>
    if c = '\\' && even then
      if t.head? = some 'u' then
        match character? t with
        | some (d, n) => (translateFrom true n t).map (d :: ·)
        | none => none
      else (translateFrom false 0 t).map (c :: ·)
    else (translateFrom true 0 t).map (c :: ·)

/-- The text with its Unicode escapes translated, if all of them are well formed. -/
def translate (t : Text) : Option Text := translateFrom true 0 t

theorem translate_cons {c : Char} (h : c ≠ '\\') (t : Text) :
    translate (c :: t) = (translate t).map (c :: ·) := by
  simp [translate, translateFrom, h]

theorem translate_append_of_notMem {x : Text} (h : '\\' ∉ x) (t : Text) :
    translate (x ++ t) = (translate t).map (x ++ ·) := by
  induction x with
  | nil => simp
  | cons c x ih =>
    obtain ⟨hc, hx⟩ := not_or.1 fun h' => h (List.mem_cons.2 h')
    rw [List.cons_append, translate_cons (Ne.symm hc), ih hx, Option.map_map]
    rfl

/-- Whether a text is an escape without a Unicode escape: the character behind its backslash is no `u`,
and what follows has no backslash. -/
def staysEscape : Text → Bool
  | '\\' :: c :: x => c ≠ 'u' && !x.contains '\\'
  | _ => false

/-- Behind the first backslash of an escape the backslashes are odd in number, so a second one begins no
Unicode escape. -/
theorem translate_append_of_staysEscape {e : Text} (h : staysEscape e) (t : Text) :
    translate (e ++ t) = (translate t).map (e ++ ·) := by
  unfold staysEscape at h
  split at h
  · rename_i c x
    simp only [Bool.and_eq_true, decide_eq_true_eq, Bool.not_eq_true', List.contains_eq_mem,
      decide_eq_false_iff_not] at h
    obtain ⟨hc, hx⟩ := h
    -- the character behind the backslash is passed over, even if it is a backslash
    have two : translate ('\\' :: c :: (x ++ t)) = (translate (x ++ t)).map ('\\' :: c :: ·) := by
      simp [translate, translateFrom, hc, Function.comp_def]
    rw [List.cons_append, List.cons_append, two, translate_append_of_notMem hx, Option.map_map]
    rfl
  · exact absurd h Bool.false_ne_true

theorem translate_javaEscape (c : Char) (t : Text) :
    translate (javaEscape c ++ t) = (translate t).map (javaEscape c ++ ·) := by
  have stay : ∀ c ∈ quotedSpecials, staysEscape (javaEscape c) := by decide
  by_cases special : c ∈ quotedSpecials
  · -- one of finitely many, whose escapes can be looked at
    exact translate_append_of_staysEscape (stay c special) t
  · rw [escapes_java.plain c special]
    exact translate_cons (plain_of_notMem_quotedSpecials special).1 t

theorem translate_flatMap (v t : Text) :
    translate (v.flatMap javaEscape ++ t) = (translate t).map (v.flatMap javaEscape ++ ·) := by
  induction v with
  | nil => simp
  | cons c v ih =>
    rw [List.flatMap_cons, List.append_assoc, translate_javaEscape, ih, Option.map_map]
    simp [Function.comp_def]

/-- A written literal is the same after the first phase. -/
theorem translate_java (v t : Text) : translate (java v ++ t) = (translate t).map (java v ++ ·) := by
  have quotes : ∀ u, java v ++ u = '"' :: (v.flatMap javaEscape ++ '"' :: u) := by
    intro u
    simp [java, enclose]
  simp only [quotes]
  rw [translate_cons (by decide), translate_flatMap, translate_cons (by decide), Option.map_map,
    Option.map_map]
  rfl

/-! ### Literals -/

/-- Whether a character is an octal digit. -/
def isOctal (c : Char) : Bool := '0' ≤ c && c ≤ '7'

/-- The octal digits that a text goes on with: three at most, and two at most if the first is greater
than three. -/
def octalDigits (t : Text) : Text :=
  (t.take (if t.head?.any (· ≤ '3') then 3 else 2)).takeWhile isOctal

/-- The character of an octal escape behind its backslash. -/
def octal? (t : Text) : Option (Text × Nat) :=
  match octalDigits t with
  | [] => none
  | digits => some ([Char.ofNat (Nat.ofDigitChars 8 digits 0)], digits.length)

/-- How Java reads a string literal: no line end may stand in it. -/
def reader : Reader Char where
  quote := '"'
  units c := [c]
  plain c := c ≠ '\n' && c ≠ '\r'
  letters := [('\\', '\\'), ('"', '"'), ('n', '\n'), ('r', '\r'), ('t', '\t'), ('b', '\x08'),
    ('f', '\x0c')]
  other := octal?

/-- Three digits are a whole escape if the first is three at most, whatever follows. -/
theorem escape_octal {a b c : Char} (ha : a ∈ ['0', '1', '2', '3']) (hb : isOctal b) (hc : isOctal c)
    (s : Text) :
    reader.escape ([a, b, c] ++ s) = some ([Char.ofNat (Nat.ofDigitChars 8 [a, b, c] 0)], 3) := by
  have first : ∀ a ∈ ['0', '1', '2', '3'],
      reader.letters.lookup a = none ∧ a ≤ '3' ∧ isOctal a := by decide
  obtain ⟨noLetter, low, octal⟩ := first a ha
  have digits : octalDigits (a :: b :: c :: s) = [a, b, c] := by
    simp [octalDigits, low, octal, hb, hc]
  refine (Reader.escape_other noLetter _).trans ?_
  show octal? (a :: b :: c :: s) = _
  rw [octal?, digits]
  rfl

/-- The digits of a code below 128 are three, of which the first is at most one. -/
theorem exists_octal {n : Nat} (h : n < 128) :
    ∃ a b c, padLeft 3 '0' (Nat.toDigits 8 n) = [a, b, c] ∧ a ∈ ['0', '1', '2', '3'] ∧ isOctal b ∧
      isOctal c ∧ Nat.ofDigitChars 8 [a, b, c] 0 = n := by
  have all : ∀ n < 128,
      padLeft 3 '0' (Nat.toDigits 8 n) =
          [(n / 64).digitChar, (n / 8 % 8).digitChar, (n % 8).digitChar] ∧
        (n / 64).digitChar ∈ ['0', '1', '2', '3'] ∧ isOctal (n / 8 % 8).digitChar ∧
        isOctal (n % 8).digitChar ∧
        Nat.ofDigitChars 8 [(n / 64).digitChar, (n / 8 % 8).digitChar, (n % 8).digitChar] 0 = n := by
    decide
  exact ⟨_, _, _, all n h⟩

theorem undoes_javaEscape : reader.Undoes javaEscape isControl
    fun c => padLeft 3 '0' (Nat.toDigits 8 c.toNat) where
  differ := by decide
  quote := by decide
  backslash := by decide
  letters := by decide
  others c h := by
    simp only [reader, List.map_cons, List.map_nil, List.mem_cons, List.not_mem_nil, or_false,
      not_or] at h
    simp only [javaEscape, h, if_false]
  plain c h _ := by
    have feed : c ≠ '\n' := fun e => h (e ▸ by decide)
    have carriage : c ≠ '\r' := fun e => h (e ▸ by decide)
    simp [reader, feed, carriage]
  codes c h s := by
    obtain ⟨x, y, z, digits, hx, hy, hz, number⟩ := exists_octal (ascii_of_isControl h)
    rw [digits, escape_octal hx hy hz, number, Char.ofNat_toNat]
    rfl

/-- **A Java literal is read back** by both phases.  The first leaves it as it is, alone and in front of
any text, and the second reads it to its end, in front of any text, as the text that was written. -/
theorem java_read_back (v s : Text) :
    translate (java v) = some (java v) ∧
      translate (java v ++ s) = (translate s).map (java v ++ ·) ∧
      reader.read (java v ++ s) = some (v, s) := by
  have alone := translate_java v []
  rw [List.append_nil, show translate [] = some [] from rfl, Option.map_some, List.append_nil] at alone
  exact ⟨alone, translate_java v s, undoes_javaEscape.read_text (fun _ => rfl) v s⟩

/-- A digit behind a control character, and a backslash in front of a `u`. -/
example : java "\x017\\u0041" = ("\"\\0017\\\\u0041\"" : Text) := by decide

end CurlSnippets.Literal.Java
