import CurlSnippets.Proofs.Literal.Display
import CurlSnippets.Proofs.Number.Reread

/-!
# Python displays with floating point numbers

A floating point number is written in digits, with a point or an exponent, or as a call of `float` with
the name of the number.  So every value that may be read is read back from its display, with what the
digits come to for each floating point number in it (`value?_pythonValue`).  They come to finite numbers
exactly if the numbers of the value are finite (`isFinite_mapFloats_reread_iff`).
-/

namespace CurlSnippets

namespace Json

variable {t r : Text}

/-! ### Numbers -/

/-- The number that a value is, if it is a floating point number. -/
def float? : Json → Option Binary64
  | .float x => some x
  | _ => none

/-- What is no word is read as a number, which begins with a minus sign or a digit. -/
theorem number_of_scalarAt {tree : Document Number} (h : ScalarAt tree t r)
    (other : ∀ w ∈ literals, w.2 ≠ tree) (short : tree.Short) (ends : EndsNumber r) :
    (∃ c u, t = c :: u ∧ (c = '-' ∨ c.isDigit)) ∧ number t = .ok (tree.decode, r) := by
  cases h with
  | word r mem => exact absurd rfl (other _ mem)
  | number negative whole places power =>
    refine ⟨?_, number_append negative whole places power ends short⟩
    obtain ⟨c, rest, rfl, digit⟩ := exists_whole_eq_cons whole
    cases negative with
    | true => exact ⟨_, _, rfl, .inl rfl⟩
    | false => exact ⟨_, _, rfl, .inr digit⟩

/-- A finite number is read from its text. -/
theorem number_floatText {x : Binary64} (h : x.IsFinite) (ends : EndsNumber r) :
    (∃ c u, floatText x ++ r = c :: u ∧ (c = '-' ∨ c.isDigit)) ∧
      number (floatText x ++ r) = .ok (.float x.reread, r) := by
  cases x with
  | nan | infinity => exact h.elim
  | finite negative mantissa exponent =>
    have read := scalarAt_floatText (.finite negative mantissa exponent) r
    rw [Number.ofBinary_finite] at read
    exact number_of_scalarAt read (by simp [literals]) trivial ends

/-- An integer is read from its text. -/
theorem number_intText {n : Int} (hn : digitCount n.natAbs ≤ digitLimit) (ends : EndsNumber r) :
    (∃ c u, intText n ++ r = c :: u ∧ (c = '-' ∨ c.isDigit)) ∧
      number (intText n ++ r) = .ok (.int n, r) :=
  number_of_scalarAt (scalarAt_intText n r) (by simp [literals]) hn ends

/-! ### Values -/

/-- The digits of what was read come to finite numbers exactly if the numbers are finite. -/
theorem isFinite_mapFloats_reread_iff {j : Json} (h : InRange j) :
    (j.mapFloats Binary64.reread).IsFinite ↔ j.IsFinite :=
  isFinite_mapFloats_iff j fun x part => Binary64.isFinite_reread_iff (h x part)

end Json

namespace Literal.Python

/-! ### Literals -/

/-- A literal for a floating point number: a number with a point or an exponent, behind a minus sign or
none, or a call with the name of the number. -/
def float? (c : Char) (t : Text) : Option (Binary64 × Nat) :=
  if c = '-' || c.isDigit then
    match Json.number (c :: t) with
    | .ok (j, behind) => j.float?.map fun x => (x, t.length - behind.length)
    | .error _ => none
  else do
    let argument ← Text.after? "float(\"" (c :: t)
    let (name, behind) ← Text.upTo "\")" argument
    let x ← Binary64.ofText? name
    some (x, t.length - behind.length)

open Json (EndsNumber)

variable {s : Text}

/-- Where a number is read, it is a literal if it is a floating point number. -/
theorem float?_of_number {c : Char} {u : Text} {j : Json} (start : c = '-' ∨ c.isDigit)
    (read : Json.number (c :: (u ++ s)) = .ok (j, s)) :
    float? c (u ++ s) = j.float?.map fun x => (x, u.length) := by
  have begins : (c = '-' || c.isDigit) = true := by simpa using start
  have length : (u ++ s).length - s.length = u.length := by
    rw [List.length_append, Nat.add_sub_cancel]
  rw [float?, if_pos begins, read]
  simp only [length]

/-- A call is read as the number that it names. -/
theorem float?_call (name : Text) {x : Binary64} (free : Text.free "\")" name)
    (value : Binary64.ofText? name = some x) :
    float? 'f' ("loat(\"" ++ (name ++ ("\")" ++ s))) =
      some (x, ("loat(\"" ++ (name ++ "\")")).length) := by
  have argument : Text.after? "float(\"" ('f' :: ("loat(\"" ++ (name ++ ("\")" ++ s)))) =
      some (name ++ ("\")" ++ s)) := Text.after?_append "float(\"" _
  have length : ("loat(\"" ++ (name ++ ("\")" ++ s)) : Text).length - s.length =
      ("loat(\"" ++ (name ++ "\")") : Text).length := by
    simp only [List.length_append]
    omega
  have cut : Text.upTo "\")" (name ++ ("\")" ++ s)) = some (name, s) := Text.upTo_append free s
  rw [float?, if_neg (by decide)]
  simp only [argument, cut, value, length, Option.bind_eq_bind, Option.bind_some]

/-- Every floating point number has a literal, which is read as what its shown digits come to. -/
theorem floats_reread : Floats float? (fun _ => True) Binary64.reread where
  apart c t h := by
    simp only [beginsFloat, Bool.or_eq_false_iff, decide_eq_false_iff_not] at h
    obtain ⟨⟨digit, minus⟩, letter⟩ := h
    have other : 'f' ≠ c := fun e => letter e.symm
    have none : Text.after? "float(\"" (c :: t) = none := if_neg other
    rw [float?, if_neg (by simp [digit, minus]), none]
    rfl
  integer n c x s text follows hn := by
    -- the reader of numbers finds an integer, which is no literal of this kind
    obtain ⟨⟨d, u, starts, start⟩, read⟩ := Json.number_intText hn follows.endsNumber
    rw [text] at starts read
    obtain ⟨rfl, -⟩ := List.cons.inj starts
    exact float?_of_number start read
  written x _ := by
    cases x with
    | nan => exact ⟨_, _, rfl, fun s _ => float?_call "nan" (by decide) (by decide)⟩
    | infinity negative =>
      cases negative with
      | true => exact ⟨_, _, rfl, fun s _ => float?_call "-inf" (by decide) (by decide)⟩
      | false => exact ⟨_, _, rfl, fun s _ => float?_call "inf" (by decide) (by decide)⟩
    | finite negative mantissa exponent =>
      -- the same first character whatever follows, so that it is taken from the empty rest
      have read := fun s (ends : EndsNumber s) =>
        Json.number_floatText (x := .finite negative mantissa exponent) trivial ends
      obtain ⟨c, u, text, start⟩ := (read [] (by simp [EndsNumber])).1
      rw [List.append_nil] at text
      refine ⟨c, u, text, fun s follows => ?_⟩
      have number := (read s follows.endsNumber).2
      rw [text] at number
      exact float?_of_number start number

/-! ### Displays -/

theorem carriage_notMem_pythonFloat (x : Binary64) : '\r' ∉ pythonFloat x := by
  cases x with
  | nan => decide
  | infinity negative => cases negative <;> decide
  | finite negative mantissa exponent =>
    have written := Json.scalarAt_floatText (.finite negative mantissa exponent) []
    rw [List.append_nil] at written
    exact written.control_notMem (by decide) List.not_mem_nil

theorem carriage_notMem_intText (n : Int) : '\r' ∉ intText n := by
  have written := Json.scalarAt_intText n []
  rw [List.append_nil] at written
  exact written.control_notMem (by decide) List.not_mem_nil

theorem carriage_notMem_pythonNewline (level : Nat) : '\r' ∉ pythonNewline level := by
  intro h
  rcases List.mem_cons.1 h with e | h
  · exact absurd e (by decide)
  · exact absurd (List.eq_of_mem_replicate h) (by decide)

theorem carriage_notMem_quoteUnits (v : CodeUnits) : '\r' ∉ Json.quoteUnits v :=
  control_notMem_quoteUnits (by decide) v

mutual

/-- A display has no carriage return in it, so that its line breaks are read as they are. -/
theorem carriage_notMem_pythonValue (level : Nat) : ∀ j : Json, '\r' ∉ pythonValue level j
  | .null => by simp [pythonValue]
  | .bool true => by simp [pythonValue]
  | .bool false => by simp [pythonValue]
  | .int n => carriage_notMem_intText n
  | .float x => carriage_notMem_pythonFloat x
  | .string v => carriage_notMem_quoteUnits v
  | .array [] => by simp [pythonValue]
  | .array (item :: l) => by
    have first := carriage_notMem_pythonValue (level + 1) item
    have others := carriage_notMem_pythonItems (level + 1) l
    simp [pythonValue, carriage_notMem_pythonNewline, first, others]
  | .object [] => by simp [pythonValue]
  | .object ((name, item) :: l) => by
    have first := carriage_notMem_pythonValue (level + 1) item
    have others := carriage_notMem_pythonMembers (level + 1) l
    simp [pythonValue, carriage_notMem_pythonNewline, carriage_notMem_quoteUnits, first, others]

theorem carriage_notMem_pythonItems (level : Nat) : ∀ l : List Json, '\r' ∉ pythonItems level l
  | [] => List.not_mem_nil
  | item :: l => by
    have first := carriage_notMem_pythonValue level item
    have others := carriage_notMem_pythonItems level l
    simp [pythonItems, carriage_notMem_pythonNewline, first, others]

theorem carriage_notMem_pythonMembers (level : Nat) : ∀ l : List (CodeUnits × Json),
    '\r' ∉ pythonMembers level l
  | [] => List.not_mem_nil
  | (name, item) :: l => by
    have first := carriage_notMem_pythonValue level item
    have others := carriage_notMem_pythonMembers level l
    simp [pythonMembers, carriage_notMem_pythonNewline, carriage_notMem_quoteUnits, first, others]

end

/-- The value of the display that a text is, floating point numbers included. -/
def value? (t : Text) : Option Json :=
  match (readerWith float?).run (.wants []) t with
  | some (.has value []) => some value
  | _ => none

/-- **A display is read back**, at any level, with what its digits come to for each floating point
number. -/
theorem value?_pythonValue {j : Json} (h : Json.Readable j) (level : Nat) :
    value? (pythonValue level j) = some (j.mapFloats Binary64.reread) := by
  have ends : Follows [] := by simp [Follows]
  have run := run_pythonValue floats_reread level [] [] j ⟨h, fun _ _ => trivial⟩ ends
  rw [List.append_nil] at run
  rw [value?, run]
  rfl

end Literal.Python

end CurlSnippets
