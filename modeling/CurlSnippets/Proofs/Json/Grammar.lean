import CurlSnippets.Proofs.Json.DigitLimit
import CurlSnippets.Proofs.Number.Numeral
import CurlSnippets.Proofs.Text.Laws

/-!
# The grammar of JSON

What a text says as JSON is a tree that keeps every member of an object, also one whose name is
repeated, and every number exactly.  The grammar relates a tree to a text that begins with it and to what
is left of the text, so that a written form is put together from those of its parts.

Beside the grammar of JSON the words `NaN`, `Infinity` and `-Infinity` are numbers, but numbers without a
value.  A text is JSON if every number in it has one (`IsText`).

A text says one thing at most (`Says.unique`): its first character tells what kind of value it begins
with, and the reader of the library finds the strings in it (`stringFrom_of_charsAt`) and the parts of
its numbers (`whole?_append`, `fraction_of_fractionAt`, `exponent_of_powerAt`).
-/

namespace CurlSnippets.Json

/-! ### Trees -/

/-- A number as a text has it: an integer, a number with a fraction or an exponent, or one of the
words beside the grammar. -/
inductive Number where
  | int (n : Int)
  | decimal (x : Numeral)
  | nan
  | infinity (negative : Bool)
deriving DecidableEq

namespace Number

/-- The number of a sign, the digits on both sides of the point and an exponent.  It is whole if it
has neither digits behind the point nor an exponent. -/
def ofDigits (negative : Bool) (whole : Text) : (places : Text) → (power : Option Int) → Number
  | [], none => .int (signed negative whole)
  | places, power => .decimal (Numeral.ofDigits negative whole places (power.getD 0))

/-- The value of a number, if it has one. -/
def value? : Number → Option ℚ
  | .int n => some n
  | .decimal x => some x.value
  | _ => none

end Number

/-- What a JSON text says, with numbers of any kind. -/
inductive Document (ν : Type) where
  | null
  | bool (b : Bool)
  | number (x : ν)
  | string (s : CodeUnits)
  | array (items : List (Document ν))
  | object (members : List (CodeUnits × Document ν))

namespace Document

variable {ν μ : Type}

mutual

/-- A tree with its numbers changed. -/
def map (f : ν → μ) : Document ν → Document μ
  | .null => .null
  | .bool b => .bool b
  | .number x => .number (f x)
  | .string s => .string s
  | .array items => .array (mapItems f items)
  | .object members => .object (mapMembers f members)

/-- Items with their numbers changed. -/
def mapItems (f : ν → μ) : List (Document ν) → List (Document μ)
  | [] => []
  | item :: items => map f item :: mapItems f items

/-- Members with their numbers changed. -/
def mapMembers (f : ν → μ) : List (CodeUnits × Document ν) → List (CodeUnits × Document μ)
  | [] => []
  | (name, item) :: members => (name, map f item) :: mapMembers f members

end

mutual

/-- Whether `number` holds of every number of a tree and `names` of the names of every object. -/
def All (number : ν → Prop) (names : List CodeUnits → Prop) : Document ν → Prop
  | .number x => number x
  | .array items => AllItems number names items
  | .object members => names (members.map Prod.fst) ∧ AllMembers number names members
  | _ => True

/-- Whether the same holds of every item. -/
def AllItems (number : ν → Prop) (names : List CodeUnits → Prop) : List (Document ν) → Prop
  | [] => True
  | item :: items => All number names item ∧ AllItems number names items

/-- Whether the same holds of every member. -/
def AllMembers (number : ν → Prop) (names : List CodeUnits → Prop) : List (CodeUnits × Document ν) → Prop
  | [] => True
  | (_, item) :: members => All number names item ∧ AllMembers number names members

end

end Document

/-! ### Tokens -/

/-- Space, or none, from the first text to the second. -/
inductive Gap : Text → Text → Prop where
  | none (t : Text) : Gap t t
  | space {c : Char} {t u : Text} : isSpace c → Gap t u → Gap (c :: t) u

/-- The letters behind a backslash, with the characters that they stand for. -/
def letters : List (Char × Char) :=
  [('"', '"'), ('\\', '\\'), ('/', '/'), ('b', '\x08'), ('f', '\x0c'), ('n', '\n'), ('r', '\r'),
    ('t', '\t')]

/-- A string behind its opening quote: its value, the text that begins with it, and what is left. -/
inductive CharsAt : CodeUnits → Text → Text → Prop where
  | close (r : Text) : CharsAt [] ('"' :: r) r
  | plain {c : Char} {s : CodeUnits} {t r : Text} :
      c ≠ '"' → c ≠ '\\' → 0x20 ≤ c.toNat → CharsAt s t r → CharsAt (Text.unitsOf c ++ s) (c :: t) r
  | letter {l c : Char} {s : CodeUnits} {t r : Text} :
      (l, c) ∈ letters → CharsAt s t r → CharsAt (Text.unitsOf c ++ s) ('\\' :: l :: t) r
  /-- A code unit by its number, whether it makes a character with its neighbours or stands alone. -/
  | code {a b c d : Char} {n : Nat} {s : CodeUnits} {t r : Text} :
      hex4? a b c d = some n → CharsAt s t r →
      CharsAt (.ofNat n :: s) ('\\' :: 'u' :: a :: b :: c :: d :: t) r

/-- Digits, at least one. -/
structure IsDigits (t : Text) : Prop where
  ne_nil : t ≠ []
  all : ∀ c ∈ t, c.isDigit

/-- The digits of an integer, of which a zero is the first only if it is the only one. -/
structure IsWhole (t : Text) : Prop extends IsDigits t where
  zero : t.head? = some '0' → t = ['0']

/-- A point and the digits behind it, or nothing. -/
inductive FractionAt : Text → Text → Text → Prop where
  | none (r : Text) : FractionAt [] r r
  | some {digits : Text} (r : Text) : IsDigits digits → FractionAt digits ('.' :: (digits ++ r)) r

/-- The signs of an exponent. -/
def signs : List (Bool × Text) := [(false, []), (false, ['+']), (true, ['-'])]

/-- An exponent behind its mark, or nothing. -/
inductive PowerAt : Option Int → Text → Text → Prop where
  | none (r : Text) : PowerAt none r r
  | some {mark : Char} {negative : Bool} {sign digits : Text} (r : Text) :
      mark = 'e' ∨ mark = 'E' →
      (negative, sign) ∈ signs → IsDigits digits →
      PowerAt (some (signed negative digits)) (mark :: (sign ++ (digits ++ r))) r

/-- The sign in front of a number. -/
def minus (negative : Bool) : Text := if negative then ['-'] else []

/-! ### Values -/

/-- The values that are written as a word. -/
def literals : List (Text × Document Number) :=
  [("null", .null), ("true", .bool true), ("false", .bool false), ("NaN", .number .nan),
    ("Infinity", .number (.infinity false)), ("-Infinity", .number (.infinity true))]

/-- A word or a number: its tree, the text that begins with it, and what is left. -/
inductive ScalarAt : Document Number → Text → Text → Prop where
  | word {w : Text} {tree : Document Number} (r : Text) :
      (w, tree) ∈ literals → ScalarAt tree (w ++ r) r
  | number (negative : Bool) {whole places t u r : Text} {power : Option Int} :
      IsWhole whole → FractionAt places t u → PowerAt power u r →
      ScalarAt (.number (.ofDigits negative whole places power)) (minus negative ++ (whole ++ t)) r

mutual

/-- A value: its tree, the text that begins with it, and what is left. -/
inductive ValueAt : Document Number → Text → Text → Prop where
  | scalar {tree : Document Number} {t r : Text} : ScalarAt tree t r → ValueAt tree t r
  | string {s : CodeUnits} {t r : Text} : CharsAt s t r → ValueAt (.string s) ('"' :: t) r
  | empty {t r : Text} : Gap t (']' :: r) → ValueAt (.array []) ('[' :: t) r
  | array {items : List (Document Number)} {t r : Text} :
      ItemsAt items t r → ValueAt (.array items) ('[' :: t) r
  | emptyObject {t r : Text} : Gap t ('\x7d' :: r) → ValueAt (.object []) ('\x7b' :: t) r
  | object {members : List (CodeUnits × Document Number)} {t r : Text} :
      MembersAt members t r → ValueAt (.object members) ('\x7b' :: t) r

/-- Items up to the closing bracket, at least one. -/
inductive ItemsAt : List (Document Number) → Text → Text → Prop where
  | last {item : Document Number} {t u v r : Text} :
      Gap t u → ValueAt item u v → Gap v (']' :: r) → ItemsAt [item] t r
  | next {item : Document Number} {items : List (Document Number)} {t u v w r : Text} :
      Gap t u → ValueAt item u v → Gap v (',' :: w) → ItemsAt items w r → ItemsAt (item :: items) t r

/-- Members up to the closing brace, at least one. -/
inductive MembersAt : List (CodeUnits × Document Number) → Text → Text → Prop where
  | last {name : CodeUnits} {item : Document Number} {t u v w x y r : Text} :
      Gap t ('"' :: u) → CharsAt name u v → Gap v (':' :: w) → Gap w x → ValueAt item x y →
      Gap y ('\x7d' :: r) → MembersAt [(name, item)] t r
  | next {name : CodeUnits} {item : Document Number} {members : List (CodeUnits × Document Number)}
      {t u v w x y z r : Text} :
      Gap t ('"' :: u) → CharsAt name u v → Gap v (':' :: w) → Gap w x → ValueAt item x y →
      Gap y (',' :: z) → MembersAt members z r → MembersAt ((name, item) :: members) t r

end

/-- A text says what a tree is, with nothing but space around it. -/
def Says (t : Text) (tree : Document Number) : Prop :=
  ∃ u v, Gap t u ∧ ValueAt tree u v ∧ Gap v []

/-- A text is JSON, and says what a tree of numbers is. -/
def IsText (t : Text) (tree : Document ℚ) : Prop :=
  ∃ exact, Says t exact ∧ exact.map Number.value? = tree.map some

/-! ### Strings are read -/

variable {s : CodeUnits} {t u r : Text}

theorem stringFrom_letter {c e : Char} (hc : c ≠ 'u') (he : unescape? c = some e) (rest : Text) :
    stringFrom ('\\' :: c :: rest) = Reading.map (Text.unitsOf e ++ ·) (stringFrom rest) := by
  rw [stringFrom]
  · rw [he]
  · rintro a b x y z rfl
    exact absurd rfl hc

/-- A string is read as its value. -/
theorem stringFrom_of_charsAt (h : CharsAt s t r) : stringFrom t = .ok (s, r) := by
  induction h with
  | close r => rw [stringFrom]
  | plain quote backslash printable _ ih =>
    rename_i c s t r _
    -- no control character, and neither quote nor backslash
    have low : ¬ c.toNat < 0x20 := Nat.not_lt.2 printable
    rw [stringFrom]
    · simp [backslash, low, ih, Reading.map]
    · exact quote
    · rintro a b x y z rfl
      exact absurd rfl backslash
    · rintro a b rfl
      exact absurd rfl backslash
  | letter mem _ ih =>
    have all : ∀ p ∈ letters, p.1 ≠ 'u' ∧ unescape? p.1 = some p.2 := by decide
    obtain ⟨other, found⟩ := all _ mem
    rw [stringFrom_letter other found, ih]
    rfl
  | code number _ ih =>
    rw [stringFrom, number]
    simp only [ih]
    rfl

/-! ### Space is skipped -/

theorem skip_cons {c : Char} (h : isSpace c = false) (t : Text) : skip (c :: t) = c :: t := by
  rw [skip, List.dropWhile_cons, h]
  rfl

/-- Space is skipped up to what is no space. -/
theorem skip_of_gap {c : Char} (h : Gap t (c :: u)) (hc : isSpace c = false) : skip t = c :: u := by
  generalize e : c :: u = v at h
  induction h with
  | none t =>
    subst e
    exact skip_cons hc u
  | space space _ ih =>
    rw [skip, List.dropWhile_cons, space]
    exact ih e

theorem skip_of_gap_nil (h : Gap t []) : skip t = [] := by
  generalize e : ([] : Text) = v at h
  induction h with
  | none t =>
    subst e
    rfl
  | space space _ ih =>
    rw [skip, List.dropWhile_cons, space]
    exact ih e

/-! ### Numbers are read part by part -/

/-- Whether a text does not go on with a number. -/
def EndsNumber (t : Text) : Prop :=
  ∀ c ∈ t.head?, c.isDigit = false ∧ c ≠ '.' ∧ c ≠ 'e' ∧ c ≠ 'E'

theorem endsNumber_nil : EndsNumber [] := by simp [EndsNumber]

theorem endsNumber_cons {c : Char} (h : c.isDigit = false ∧ c ≠ '.' ∧ c ≠ 'e' ∧ c ≠ 'E') (t : Text) :
    EndsNumber (c :: t) := by
  simpa [EndsNumber] using h

/-- Space does not go on with a number. -/
theorem endsNumber_of_gap (h : Gap t u) (ends : EndsNumber u) : EndsNumber t := by
  cases h with
  | none => exact ends
  | space space _ =>
    refine endsNumber_cons ?_ _
    simp only [isSpace, Bool.or_eq_true, decide_eq_true_eq] at space
    -- none of the four spaces is a digit, a point or a mark
    rcases space with ((rfl | rfl) | rfl) | rfl <;> decide

theorem endsNumber_of_gap_cons {c : Char} (h : Gap t (c :: u))
    (hc : c.isDigit = false ∧ c ≠ '.' ∧ c ≠ 'e' ∧ c ≠ 'E') : EndsNumber t :=
  endsNumber_of_gap h (endsNumber_cons hc u)

theorem EndsNumber.stops (h : EndsNumber r) : ∀ c ∈ r.head?, c.isDigit = false :=
  fun c hc => (h c hc).1

/-- Digits are taken from the front of a text up to what is no digit. -/
theorem IsDigits.run {digits : Text} (h : IsDigits digits)
    (stops : ∀ c ∈ r.head?, c.isDigit = false) :
    (digits ++ r).takeWhile Char.isDigit = digits ∧ (digits ++ r).dropWhile Char.isDigit = r :=
  Text.run_append_of_head? h.all stops

/-- A sign is cut off, and none if a digit comes first. -/
theorem cutSign_append {negative : Bool} {sign digits : Text} (mem : (negative, sign) ∈ signs)
    (h : IsDigits digits) : Numeral.cutSign (sign ++ (digits ++ r)) = (negative, digits ++ r) := by
  obtain ⟨c, rest, rfl⟩ := List.exists_cons_of_ne_nil h.ne_nil
  have digit : c.isDigit := h.all c (by simp)
  simp only [signs, List.mem_cons, Prod.mk.injEq, List.not_mem_nil, or_false] at mem
  rcases mem with ⟨rfl, rfl⟩ | ⟨rfl, rfl⟩ | ⟨rfl, rfl⟩
  · rw [List.nil_append, List.cons_append, Numeral.cutSign]
    all_goals
      rintro t same
      rw [(List.cons.inj same).1] at digit
      exact absurd digit (by decide)
  · rfl
  · rfl

/-- No digit goes on with digits that an exponent or its absence ends. -/
theorem PowerAt.stops {power : Option Int} (h : PowerAt power t r) (ends : EndsNumber r) :
    ∀ c ∈ t.head?, c.isDigit = false := by
  cases h with
  | none => exact ends.stops
  | some _ mark =>
    rintro c ⟨⟩
    rcases mark with rfl | rfl <;> rfl

theorem FractionAt.stops {places : Text} {power : Option Int} (h : FractionAt places t u)
    (later : PowerAt power u r) (ends : EndsNumber r) : ∀ c ∈ t.head?, c.isDigit = false := by
  cases h with
  | none => exact later.stops ends
  | some =>
    rintro c ⟨⟩
    rfl

/-- An exponent is read, or its absence. -/
theorem exponent_of_powerAt {power : Option Int} (h : PowerAt power t r) (ends : EndsNumber r) :
    exponent t = (power, r) := by
  cases h with
  | none =>
    -- what ends a number is no mark of an exponent
    cases t with
    | nil => rfl
    | cons c t =>
      obtain ⟨-, -, small, large⟩ := ends c rfl
      simp [exponent, small, large]
  | some _ mark sign digits =>
    obtain ⟨taken, left⟩ := digits.run ends.stops
    obtain ⟨c, rest, rfl⟩ := List.exists_cons_of_ne_nil digits.ne_nil
    rw [exponent, if_pos (by simpa using mark), cutSign_append sign digits]
    simp only [taken, left]

/-- A fraction is read, or its absence. -/
theorem fraction_of_fractionAt {places : Text} {power : Option Int} (h : FractionAt places t u)
    (later : PowerAt power u r) (ends : EndsNumber r) : fraction t = (places, u) := by
  cases h with
  | none =>
    unfold fraction
    split
    · -- a point would neither end the number nor mark an exponent
      cases later with
      | none => exact absurd rfl (ends '.' rfl).2.1
      | some _ mark => exact absurd mark (by decide)
    · rfl
  | some _ digits =>
    obtain ⟨taken, left⟩ := digits.run (later.stops ends)
    obtain ⟨c, rest, rfl⟩ := List.exists_cons_of_ne_nil digits.ne_nil
    rw [fraction, taken, left]

/-- The digits in front of a point are read. -/
theorem whole?_append {whole : Text} (h : IsWhole whole) (stops : ∀ c ∈ t.head?, c.isDigit = false) :
    whole? (whole ++ t) = some (whole, t) := by
  obtain ⟨taken, left⟩ := h.toIsDigits.run stops
  obtain ⟨c, rest, rfl⟩ := List.exists_cons_of_ne_nil h.ne_nil
  -- a zero in front is the only digit
  by_cases hc : c = '0'
  · subst hc
    obtain rfl : rest = [] := (List.cons.inj (h.zero rfl)).2
    rfl
  · unfold whole?
    split
    · rename_i e
      exact absurd (List.cons.inj e).1 hc
    · rw [taken, left]

/-! ### First characters -/

/-- The first character of a word or a number. -/
def startsScalar (c : Char) : Bool := c.isDigit || ['-', 'n', 't', 'f', 'N', 'I'].contains c

/-- The first character of a value: neither space nor a closing bracket. -/
def starts (c : Char) : Bool := !isSpace c && c ≠ ']' && c ≠ '\x7d'

theorem isSpace_of_starts {c : Char} (h : starts c) : isSpace c = false := by
  rw [starts, Bool.and_eq_true, Bool.and_eq_true, Bool.not_eq_true'] at h
  exact h.1.1

theorem starts_of_startsScalar {c : Char} (h : startsScalar c) : starts c := by
  have other : ∀ d, startsScalar d = false → c ≠ d := fun _ => Text.ne_of_holds h
  simp [starts, isSpace, other ' ' rfl, other '\t' rfl, other '\n' rfl, other '\r' rfl,
    other ']' rfl, other '\x7d' rfl]

theorem exists_whole_eq_cons {whole : Text} (h : IsWhole whole) :
    ∃ c rest, whole = c :: rest ∧ c.isDigit := by
  obtain ⟨c, rest, rfl⟩ := List.exists_cons_of_ne_nil h.ne_nil
  exact ⟨c, rest, rfl, h.all c (by simp)⟩

theorem ScalarAt.exists_eq_cons {tree : Document Number} (h : ScalarAt tree t r) :
    ∃ c u, t = c :: u ∧ startsScalar c := by
  cases h with
  | word r mem =>
    have first : ∀ w ∈ literals.map Prod.fst, w.head?.any startsScalar := by decide
    obtain ⟨c, head, start⟩ := (Option.any_eq_true _ _).1 (first _ (List.mem_map_of_mem mem))
    obtain ⟨u, rfl⟩ := List.head?_eq_some_iff.1 head
    exact ⟨c, u ++ r, rfl, start⟩
  | number negative whole =>
    cases negative with
    | true => exact ⟨'-', _, rfl, rfl⟩
    | false =>
      obtain ⟨c, rest, rfl, digit⟩ := exists_whole_eq_cons whole
      exact ⟨c, _, rfl, by rw [startsScalar, digit, Bool.true_or]⟩

theorem ValueAt.exists_eq_cons {tree : Document Number} (h : ValueAt tree t r) :
    ∃ c u, t = c :: u ∧ starts c := by
  cases h with
  | scalar h =>
    obtain ⟨c, u, e, start⟩ := h.exists_eq_cons
    exact ⟨c, u, e, starts_of_startsScalar start⟩
  | string => exact ⟨_, _, rfl, rfl⟩
  | empty => exact ⟨_, _, rfl, rfl⟩
  | array => exact ⟨_, _, rfl, rfl⟩
  | emptyObject => exact ⟨_, _, rfl, rfl⟩
  | object => exact ⟨_, _, rfl, rfl⟩

/-- Space in front of a value is skipped. -/
theorem ValueAt.skip_eq {tree : Document Number} (h : ValueAt tree u r) (gap : Gap t u) :
    skip t = u := by
  obtain ⟨c, rest, rfl, start⟩ := h.exists_eq_cons
  exact skip_of_gap gap (isSpace_of_starts start)

/-- No closing bracket stands in the place of an item. -/
theorem ItemsAt.skip_ne {items : List (Document Number)} (h : ItemsAt items t r) (v : Text) :
    skip t ≠ ']' :: v := by
  have first : ∀ {tree : Document Number} {u w : Text},
      Gap t u → ValueAt tree u w → skip t ≠ ']' :: v := by
    intro tree u w gap item e
    obtain ⟨c, rest, rfl, start⟩ := item.exists_eq_cons
    rw [item.skip_eq gap] at e
    rw [(List.cons.inj e).1] at start
    exact absurd start (by decide)
  cases h with
  | last gap item => exact first gap item
  | next gap item => exact first gap item

/-- No closing brace stands in the place of a member. -/
theorem MembersAt.skip_ne {members : List (CodeUnits × Document Number)} (h : MembersAt members t r)
    (v : Text) : skip t ≠ '\x7d' :: v := by
  have first : ∀ {u : Text}, Gap t ('"' :: u) → skip t ≠ '\x7d' :: v := by
    intro u gap e
    rw [skip_of_gap gap (by decide)] at e
    exact absurd (List.cons.inj e).1 (by decide)
  cases h with
  | last gap => exact first gap
  | next gap => exact first gap

end CurlSnippets.Json
