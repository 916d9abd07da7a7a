import CurlSnippets.Proofs.Datum.JsonBody
import CurlSnippets.Proofs.Json.Floats

/-!
# Which values become a JSON body

A value of the supported kinds is written from its scalars in order.  The first decimal number among them
that is infinite or signals that it is none is the error (`encode_becomes`); the others become numbers,
but a floating point number that is not finite is written as a word, and so is a decimal number that is
not whole and beyond the binary ones.  So the body is a JSON text exactly if every scalar is finite
(`json_isText_iff`).
-/

namespace CurlSnippets

/-! ### Decimal numbers -/

/-- What is found to be whole is an integer. -/
theorem Decimal.exists_int_of_whole? {x : Numeral} {c z : Nat} (h : whole? x = some (c, z)) :
    ∃ n : Int, x.value = n := by
  have size : ∃ m : Nat, (x.coefficient : ℚ) * 10 ^ x.exponent = m := by
    rw [whole?] at h
    split at h
    · -- zero is whole whatever its exponent
      rename_i zero
      exact ⟨0, by rw [zero, Nat.cast_zero, zero_mul]⟩
    · split at h
      · -- zeros behind the coefficient
        rename_i positive
        obtain ⟨k, hk⟩ := Int.eq_ofNat_of_zero_le positive
        exact ⟨x.coefficient * 10 ^ k, by rw [hk, zpow_natCast]; push_cast; rfl⟩
      · rename_i negative
        obtain ⟨k, hk⟩ := Int.exists_eq_neg_ofNat (not_le.1 negative).le
        rw [hk, neg_neg, Int.toNat_natCast] at h
        dsimp only at h
        split at h
        · cases h
        · split at h
          · -- the places behind the point are all zero
            rename_i divides
            refine ⟨x.coefficient / 10 ^ k, ?_⟩
            have whole : x.coefficient = x.coefficient / 10 ^ k * 10 ^ k :=
              (Nat.div_mul_cancel (Nat.dvd_of_mod_eq_zero divides)).symm
            rw [hk, zpow_neg, zpow_natCast, ← div_eq_mul_inv, div_eq_iff (by positivity)]
            exact_mod_cast whole
          · cases h
  obtain ⟨m, hm⟩ := size
  refine ⟨if x.negative then -(m : Int) else m, ?_⟩
  rw [Numeral.value]
  cases x.negative with
  | true =>
    rw [if_pos rfl, if_pos rfl, neg_mul, hm]
    push_cast
    rfl
  | false => rw [if_neg (by decide), if_neg (by decide), hm, Int.cast_natCast]

/-- A decimal number below the limit becomes an integer if it is one, and else the nearest binary number. -/
theorem Datum.encodeDecimal_finite {x : Numeral} (short : |x.value| < 10 ^ digitLimit) :
    (∃ n : Int, x.value = n ∧ encodeDecimal (.finite x) = .ok (.int n)) ∨
      (∀ n : Int, x.value ≠ n) ∧
        encodeDecimal (.finite x) = .ok (.float (Binary64.ofNumeral x)) := by
  by_cases whole : ∃ n : Int, x.value = n
  · obtain ⟨n, hn⟩ := whole
    have size : n.natAbs < 10 ^ digitLimit := by
      rw [hn, ← Int.cast_abs, Int.abs_eq_natAbs] at short
      exact_mod_cast short
    exact .inl ⟨n, hn, encodeDecimal_of_value hn ((digitCount_le_iff (by decide)).2 size)⟩
  · refine .inr ⟨not_exists.1 whole, ?_⟩
    -- what is found to be whole would be an integer
    have fraction : Decimal.whole? x = Option.none := by
      refine Option.eq_none_iff_forall_ne_some.2 ?_
      rintro ⟨c, z⟩ found
      exact whole (Decimal.exists_int_of_whole? found)
    rw [encodeDecimal, fraction]

namespace Datum

/-! ### Supported values -/

mutual

/-- Whether the keys of every map in a value are texts, its integers within the digit limit, and its finite
decimal numbers below the same limit. -/
def Supported : Datum → Prop
  | .int n => digitCount n.natAbs ≤ digitLimit
  | .decimal (.finite x) => |x.value| < 10 ^ digitLimit
  | .list items | .tuple items | .set items | .frozenSet items => SupportedItems items
  | .dict entries => SupportedEntries entries
  | _ => True

/-- Whether the same holds of items. -/
def SupportedItems : List Datum → Prop
  | [] => True
  | item :: items => Supported item ∧ SupportedItems items

/-- Whether the same holds of entries. -/
def SupportedEntries : List (Datum × Datum) → Prop
  | [] => True
  | (key, value) :: entries => (∃ name, key = .text name) ∧ Supported value ∧ SupportedEntries entries

end

mutual

/-- The values in a value that have no parts themselves, in the order in which they are written. -/
def scalars : Datum → List Datum
  | .list items | .tuple items | .set items | .frozenSet items => scalarsOfItems items
  | .dict entries => scalarsOfEntries entries
  | v => [v]

/-- The scalars of items. -/
def scalarsOfItems : List Datum → List Datum
  | [] => []
  | item :: items => scalars item ++ scalarsOfItems items

/-- The scalars of the values under the keys of entries. -/
def scalarsOfEntries : List (Datum × Datum) → List Datum
  | [] => []
  | (_, value) :: entries => scalars value ++ scalarsOfEntries entries

end

/-- The error of a scalar for which there is no number. -/
def refusal? : Datum → Option EncodeError
  | .decimal (.infinity _) => some .infinite
  | .decimal (.nan _ true _) => some .signalingNan
  | _ => Option.none

/-- Whether a scalar is finite where it is written: a decimal number is if it is whole or below the
overflow of the binary ones. -/
def IsFinite : Datum → Prop
  | .float x => x.IsFinite
  | .decimal (.finite x) => (∃ n : Int, x.value = n) ∨ |x.value| < Binary64.overflow
  | .decimal _ => False
  | _ => True

/-! ### What they become -/

/-- What scalars become: the error of the first one that is refused, or else something that is finite
exactly if all of them are. -/
def Becomes {α : Type} (scalars : List Datum) (finite : α → Prop) : Except EncodeError α → Prop
  | .error e => scalars.findSome? refusal? = some e
  | .ok a => scalars.findSome? refusal? = Option.none ∧ (finite a ↔ ∀ s ∈ scalars, s.IsFinite)

namespace Becomes

variable {α β : Type} {v : Datum} {s t : List Datum} {P : α → Prop} {Q : β → Prop}

theorem ok {a : α} (taken : refusal? v = Option.none) (finite : P a ↔ v.IsFinite) :
    Becomes [v] P (.ok a) :=
  ⟨by rw [List.findSome?_cons, taken, List.findSome?_nil],
    finite.trans (by rw [List.forall_mem_singleton])⟩

theorem error {e : EncodeError} (refused : refusal? v = some e) :
    Becomes [v] P (.error e) := by
  rw [Becomes, List.findSome?_cons, refused]

theorem nil {a : α} (finite : P a) : Becomes [] P (.ok a) :=
  ⟨rfl, iff_of_true finite (List.forall_mem_nil _)⟩

theorem map {r : Except EncodeError α} (h : Becomes s P r) {f : α → β}
    (same : ∀ a, Q (f a) ↔ P a) : Becomes s Q (r.map f) := by
  cases r with
  | error e => exact h
  | ok a => exact ⟨h.1, (same a).trans h.2⟩

/-- What is written first decides over the error, and both over the rest. -/
theorem append {r : Except EncodeError Json} {rs : Except EncodeError α}
    (h : Becomes s Json.IsFinite r) (hs : Becomes t P rs) {f : Json → α → β}
    (both : ∀ j a, Q (f j a) ↔ j.IsFinite ∧ P a) :
    Becomes (s ++ t) Q (r.bind fun j => rs.map (f j)) := by
  cases r with
  | error e =>
    -- the first part is refused, and the second is not looked at
    have first : s.findSome? refusal? = some e := h
    show (s ++ t).findSome? refusal? = some e
    rw [List.findSome?_append, first, Option.some_or]
  | ok j =>
    cases rs with
    | error e =>
      -- nothing is refused in the first part
      have later : t.findSome? refusal? = some e := hs
      show (s ++ t).findSome? refusal? = some e
      rw [List.findSome?_append, h.1, later, Option.none_or]
    | ok a =>
      refine ⟨by rw [List.findSome?_append, h.1, hs.1, Option.none_or], ?_⟩
      rw [both, h.2, hs.2, List.forall_mem_append]

end Becomes

theorem becomes_decimal {d : Decimal} (h : (Datum.decimal d).Supported) :
    Becomes [.decimal d] Json.IsFinite (encodeDecimal d) := by
  cases d with
  | infinity negative => exact .error rfl
  | nan negative signaling payload =>
    cases signaling with
    | true => exact .error rfl
    | false => exact .ok rfl Json.isFinite_float
  | finite x =>
    rcases encodeDecimal_finite h with ⟨n, value, whole⟩ | ⟨fraction, nearest⟩
    · rw [whole]
      exact .ok rfl (iff_of_true (Json.isFinite_int n) (.inl ⟨n, value⟩))
    · rw [nearest]
      refine .ok rfl (Json.isFinite_float.trans ((Binary64.isFinite_ofNumeral_iff x).trans ?_))
      exact (or_iff_right (not_exists.2 fraction)).symm

theorem encodeItems_cons (item : Datum) (items : List Datum) : encodeItems (item :: items) =
    (encode item).bind fun j => (encodeItems items).map (j :: ·) := by
  rw [encodeItems]
  cases encode item <;> rfl

theorem encodeEntries_cons (name : Text) (value : Datum) (entries : List (Datum × Datum)) :
    encodeEntries ((.text name, value) :: entries) =
      (encode value).bind fun j => (encodeEntries entries).map ((Text.units name, j) :: ·) := by
  rw [encodeEntries, encodeKey]
  cases encode value <;> rfl

-- By induction on the value, whose parts are written in the order of its scalars.
mutual

/-- What a value becomes is decided by its scalars. -/
theorem encode_becomes : ∀ v : Datum, v.Supported → Becomes v.scalars Json.IsFinite v.encode
  | .none, _ => .ok rfl (iff_of_true Json.isFinite_null trivial)
  | .bool b, _ => .ok rfl (iff_of_true (Json.isFinite_bool b) trivial)
  | .int n, h => by
    rw [encode, encodeInt_of_le h]
    exact .ok rfl (iff_of_true (Json.isFinite_int n) trivial)
  | .float _, _ => .ok rfl Json.isFinite_float
  | .text t, _ => .ok rfl (iff_of_true (Json.isFinite_string t) trivial)
  | .list items, h | .tuple items, h | .set items, h | .frozenSet items, h => by
    rw [encode]
    exact (encodeItems_becomes items h).map fun _ => Json.isFinite_array
  | .dict entries, h => by
    rw [encode]
    exact (encodeEntries_becomes entries h).map fun _ => Json.isFinite_object
  | .decimal _, h => becomes_decimal h
  | .dateTime _, _ | .date _, _ | .time _, _ | .uuid _, _ | .object _, _ =>
    .ok rfl (iff_of_true (Json.isFinite_string _) trivial)

theorem encodeItems_becomes : ∀ items : List Datum, SupportedItems items →
    Becomes (scalarsOfItems items) (fun js => ∀ j ∈ js, Json.IsFinite j) (encodeItems items)
  | [], _ => .nil (List.forall_mem_nil _)
  | item :: items, ⟨first, others⟩ => by
    rw [encodeItems_cons, scalarsOfItems]
    exact (encode_becomes item first).append (encodeItems_becomes items others)
      fun _ _ => List.forall_mem_cons

theorem encodeEntries_becomes : ∀ entries : List (Datum × Datum), SupportedEntries entries →
    Becomes (scalarsOfEntries entries) (fun ms => ∀ p ∈ ms, Json.IsFinite p.2)
      (encodeEntries entries)
  | [], _ => .nil (List.forall_mem_nil _)
  | (_, value) :: entries, ⟨⟨name, rfl⟩, first, others⟩ => by
    rw [encodeEntries_cons, scalarsOfEntries]
    exact (encode_becomes value first).append (encodeEntries_becomes entries others)
      fun _ _ => List.forall_mem_cons

end

/-- For what is refused there is no finite number. -/
theorem not_isFinite_of_refusal? {v : Datum} {e : EncodeError} (h : refusal? v = some e) :
    ¬ v.IsFinite := by
  match v, h with
  | .decimal (.infinity _), _ => exact not_false
  | .decimal (.nan _ true _), _ => exact not_false

end Datum

/-- **Values that become a JSON body.**  Making a body fails with the error of the first scalar that is
refused, and gives a JSON text exactly if every scalar is finite. -/
theorem Body.json_isText_iff {v : Datum} (h : v.Supported) :
    (∀ e, Body.json v = .error e ↔ v.scalars.findSome? Datum.refusal? = some e) ∧
      ((∃ content values, Body.json v = .ok (.raw content (some "application/json")) ∧
          Json.IsText content values) ↔ ∀ s ∈ v.scalars, s.IsFinite) := by
  have becomes := Datum.encode_becomes v h
  rw [Body.json]
  cases hv : v.encode with
  | error e =>
    rw [hv] at becomes
    have refused : v.scalars.findSome? Datum.refusal? = some e := becomes
    refine ⟨fun e' => ?_, iff_of_false ?_ ?_⟩
    · rw [refused, Option.some_inj]
      exact ⟨fun made => Except.error.inj made, fun same => congrArg Except.error same⟩
    · rintro ⟨content, values, made, -⟩
      cases made
    · -- the scalar that is refused is not finite
      obtain ⟨s, hs, he⟩ := List.exists_of_findSome?_eq_some refused
      exact fun finite => Datum.not_isFinite_of_refusal? he (finite s hs)
  | ok j =>
    rw [hv] at becomes
    obtain ⟨taken, finite⟩ := becomes
    refine ⟨fun e => ?_, ?_⟩
    · rw [taken]
      exact iff_of_false (by simp [Except.map]) (by simp)
    · rw [← finite, ← Json.exists_isText_print_iff]
      constructor
      · rintro ⟨content, values, made, text⟩
        cases made
        exact ⟨values, text⟩
      · rintro ⟨values, text⟩
        exact ⟨j.print, values, rfl, text⟩

theorem Body.json_isText_iff_nested : ∃ content values,
    Body.json (.dict [(.text "a", .list [.none, .int (-12), .decimal (.finite ⟨false, 150, -2⟩)]),
        (.text "b", .set [.uuid "00000000000000000000000000000000", .float (.finite true 1 0)])]) =
      .ok (.raw content (some "application/json")) ∧ Json.IsText content values := by
  have small : |Numeral.value ⟨false, 150, -2⟩| < 10 ^ digitLimit := by
    have power : (10 : ℚ) ^ 1 ≤ 10 ^ digitLimit := pow_le_pow_right₀ (by decide) (by decide)
    refine lt_of_lt_of_le ?_ power
    norm_num [Numeral.value]
  have near : |Numeral.value ⟨false, 150, -2⟩| < Binary64.overflow := by
    have two := Binary64.mul_le_overflow (m := 2) (e := 0) (by norm_num) (by decide)
    refine lt_of_lt_of_le ?_ two
    norm_num [Numeral.value]
  refine (Body.json_isText_iff ?_).2.2 ?_
  · exact ⟨⟨_, rfl⟩, ⟨trivial, by show digitCount 12 ≤ digitLimit; decide, small, trivial⟩,
      ⟨_, rfl⟩, ⟨trivial, trivial, trivial⟩, trivial⟩
  · simp only [Datum.scalars, Datum.scalarsOfItems, Datum.scalarsOfEntries, List.append_nil,
      List.cons_append, List.nil_append, List.forall_mem_cons]
    exact ⟨trivial, trivial, .inr near, trivial, trivial, List.forall_mem_nil _⟩

/-- An infinite decimal number is supported but raises, and a float that is no number is written as a word,
which is no JSON. -/
theorem Body.json_infinity :
    (Datum.decimal (.infinity false)).Supported ∧
      Body.json (.decimal (.infinity false)) = .error .infinite ∧
      (Datum.float .nan).Supported ∧
      Body.json (.float .nan) = .ok (.raw "NaN" (some "application/json")) ∧
      ¬ ∃ values, Json.IsText "NaN" values := by
  refine ⟨trivial, rfl, trivial, rfl, ?_⟩
  exact mt (Json.exists_isText_print_iff (.float .nan)).1 (mt Json.isFinite_float.1 not_false)

end CurlSnippets
