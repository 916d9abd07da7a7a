import CurlSnippets.Number.Shortest
import CurlSnippets.Proofs.Number.Numeral
import Mathlib.Data.List.TakeWhile
import Mathlib.Tactic.GCongr

/-!
# The digits that are shown of a binary number

The search for the shortest digits never comes to zero (`shortest_pos`): it looks at powers of ten up to
the value only.  So the text of a positive number has digits of which the first is no zero.  They are
laid out before a point, behind it and in front of an exponent (`layout`), and keep their value
(`value_layout`).
-/

namespace CurlSnippets

namespace RoundingInterval

variable {i : RoundingInterval}

/-- The first digit of the value stands where the magnitude says, or before it. -/
theorem pow_magnitude_le (value : 0 < i.value) :
    (10 : ℚ) ^ (i.magnitude - 1) * i.denominator ≤ i.value := by
  have ten : (10 : ℚ) ≠ 0 := by decide
  generalize hn : digitCount i.value = n
  generalize hd : digitCount i.denominator = d
  have low : (10 : ℚ) ^ ((n : Int) - 1) ≤ i.value := by
    have some : 0 < n := hn ▸ List.length_pos_iff.2 (natText_ne_nil _)
    have power : (n : Int) - 1 = ((n - 1 : Nat) : Int) := by omega
    rw [power, zpow_natCast]
    exact_mod_cast hn ▸ pow_digitCount_le value
  have high : (i.denominator : ℚ) ≤ 10 ^ (d : Int) := by
    rw [zpow_natCast]
    exact_mod_cast hd ▸ (lt_pow_digitCount i.denominator).le
  have before : (10 : ℚ) ^ ((n : Int) - d + 0 - 1) * i.denominator ≤ i.value :=
    calc (10 : ℚ) ^ ((n : Int) - d + 0 - 1) * i.denominator
        ≤ 10 ^ ((n : Int) - d + 0 - 1) * 10 ^ (d : Int) := by gcongr
      _ = 10 ^ ((n : Int) - 1) := by
        rw [← zpow_add₀ ten]
        congr 1
        omega
      _ ≤ i.value := low
  -- the numbers of digits say where the first digit is, up to one place, which is compared
  rw [magnitude, hn, hd]
  split
  · split
    · rename_i reaches
      have power : (n : Int) - d = ((n - d : Nat) : Int) := by omega
      rw [add_sub_cancel_right, power, zpow_natCast, mul_comm]
      exact_mod_cast reaches
    · exact before
  · split
    · rename_i reaches
      have power : (n : Int) - d = -((d - n : Nat) : Int) := by omega
      rw [add_sub_cancel_right, power, zpow_neg, zpow_natCast, inv_mul_le_iff₀ (by positivity),
        mul_comm]
      exact_mod_cast reaches
    · exact before

/-- Below the value there is a multiple of every smaller power of ten. -/
theorem floorAt_pos {e : Int} (denominator : 0 < i.denominator)
    (h : (10 : ℚ) ^ e * i.denominator ≤ i.value) : 0 < i.floorAt e := by
  rw [floorAt]
  split
  · rename_i positive
    obtain ⟨k, rfl⟩ := Int.eq_ofNat_of_zero_le positive
    rw [zpow_natCast] at h
    have below : i.denominator * Nat.pow 10 k ≤ i.value := by
      rw [Nat.mul_comm]
      exact_mod_cast h
    exact Nat.div_pos below (Nat.mul_pos denominator (Nat.pow_pos (by decide)))
  · rename_i negative
    obtain ⟨k, rfl⟩ := Int.exists_eq_neg_ofNat (not_le.1 negative).le
    rw [zpow_neg, zpow_natCast, inv_mul_le_iff₀ (by positivity)] at h
    have below : i.denominator ≤ i.value * Nat.pow 10 k := by
      rw [Nat.mul_comm]
      exact_mod_cast h
    rw [neg_neg, Int.toNat_natCast]
    exact Nat.div_pos below denominator

theorem pick_pos {e : Int} {c : Nat} (floor : 0 < i.floorAt e) (h : i.pick e = some c) : 0 < c := by
  have above : i.floorAt e ≤ c := by
    rw [pick] at h
    split at h
    · obtain rfl := Option.some.inj h
      split_ifs <;> omega
    · exact (Option.some.inj h).le
    · exact (Option.some.inj h).le.trans' (Nat.le_succ _)
    · cases h
  exact floor.trans_le above

theorem search_pos (value : 0 < i.value) (denominator : 0 < i.denominator) (more digits : Nat)
    (some : 0 < digits) : 0 < (i.search digits more).1 := by
  -- the search looks at no power of ten above the magnitude
  have floor : ∀ k : Nat, 0 < k → 0 < i.floorAt (i.magnitude - k) := by
    intro k hk
    have power : (10 : ℚ) ^ (i.magnitude - k) ≤ 10 ^ (i.magnitude - 1) :=
      zpow_le_zpow_right₀ (by decide) (by omega)
    refine floorAt_pos denominator (le_trans ?_ (pow_magnitude_le value))
    gcongr
  induction more generalizing digits with
  | zero => exact floor digits some
  | succ more ih =>
    rw [search]
    split
    · exact pick_pos (floor digits some) ‹_›
    · exact ih (digits + 1) (Nat.succ_pos _)

theorem denominator_ofBinary (mantissa : Nat) (exponent : Int) :
    0 < (ofBinary mantissa exponent).denominator := by
  show 0 < if exponent - 2 ≥ 0 then 1 else Nat.pow 2 (-(exponent - 2)).toNat
  split
  · exact Nat.one_pos
  · exact Nat.pow_pos (by decide)

/-- The shortest digits are not zero. -/
theorem shortest_pos {mantissa : Nat} (exponent : Int) (h : mantissa ≠ 0) :
    0 < (ofBinary mantissa exponent).shortest.1 := by
  have positive := Nat.pos_of_ne_zero h
  refine search_pos ?_ (denominator_ofBinary mantissa exponent) 17 1 (by decide)
  refine Nat.mul_pos (by omega) ?_
  split
  · exact Nat.pow_pos (by decide)
  · exact Nat.one_pos

end RoundingInterval

/-! ### Layout -/

namespace Binary64

/-- Digits with the point after the first `point` of them, as digits before a point, digits behind it
and an exponent. -/
def layout (digits : Text) (point : Int) : Text × Text × Option Int :=
  if -4 < point && point ≤ 16 then
    if point ≤ 0 then (['0'], Text.fill (-point).toNat '0' ++ digits, none)
    else if (digits.length : Int) ≤ point then
      (digits ++ Text.fill (point.toNat - digits.length) '0', ['0'], none)
    else (digits.take point.toNat, digits.drop point.toNat, none)
  else (digits.take 1, digits.drop 1, some (point - 1))

/-- The value of digits with a point in them. -/
theorem value_layout (negative : Bool) {digits : Text} (some : digits ≠ []) (point : Int) :
    (Numeral.ofDigits negative (layout digits point).1 (layout digits point).2.1
      ((layout digits point).2.2.getD 0)).value =
    Numeral.value ⟨negative, Nat.ofDigitChars 10 digits 0, point - digits.length⟩ := by
  have length := List.length_pos_iff.2 some
  unfold layout
  split
  · split
    · -- zeros in front are worth nothing
      rename_i low
      have zeros := ofDigitChars_zeros_append ((-point).toNat + 1) digits
      have places : (0 : Int) - (Text.fill (-point).toNat '0' ++ digits).length =
          point - digits.length := by
        rw [List.length_append, Text.fill, List.length_replicate]
        omega
      show Numeral.value ⟨negative,
        Nat.ofDigitChars 10 (Text.fill ((-point).toNat + 1) '0' ++ digits) 0,
        (0 : Int) - (Text.fill (-point).toNat '0' ++ digits).length⟩ = _
      rw [zeros, places]
    · split
      · -- zeros behind the digits, and one behind the point
        rename_i positive long
        obtain ⟨k, hk⟩ : ∃ k : Nat, point = digits.length + k :=
          ⟨(point - digits.length).toNat, by omega⟩
        subst hk
        have zeros : digits ++ Text.fill k '0' ++ ['0'] = digits ++ Text.fill (k + 1) '0' := by
          rw [List.append_assoc, Text.fill, Text.fill, List.replicate_succ']
        have fill : ((digits.length : Int) + k).toNat - digits.length = k := by omega
        rw [fill]
        show Numeral.value ⟨negative, Nat.ofDigitChars 10 (digits ++ Text.fill k '0' ++ ['0']) 0,
          (0 : Int) - 1⟩ = _
        rw [zeros, ofDigitChars_append_zeros, Numeral.value_pow_mul]
        congr 2
        omega
      · -- the point stands among the digits
        rename_i positive short
        have places : (0 : Int) - (digits.drop point.toNat).length = point - digits.length := by
          rw [List.length_drop]
          omega
        show Numeral.value ⟨negative,
          Nat.ofDigitChars 10 (digits.take point.toNat ++ digits.drop point.toNat) 0,
          (0 : Int) - (digits.drop point.toNat).length⟩ = _
        rw [List.take_append_drop, places]
  · -- one digit before the point, and an exponent
    have places : point - 1 - (digits.drop 1).length = point - digits.length := by
      rw [List.length_drop]
      omega
    show Numeral.value ⟨negative, Nat.ofDigitChars 10 (digits.take 1 ++ digits.drop 1) 0,
      point - 1 - (digits.drop 1).length⟩ = _
    rw [List.take_append_drop, places]

/-- Zeros are dropped from the end of digits, and nothing else. -/
theorem exists_dropZeros (digits : Text) :
    ∃ k, digits = (dropZeros digits).1 ++ Text.fill k '0' := by
  refine ⟨(digits.reverse.takeWhile (· = '0')).length, ?_⟩
  have zeros : digits.reverse.takeWhile (· = '0') =
      Text.fill (digits.reverse.takeWhile (· = '0')).length '0' :=
    List.eq_replicate_of_mem fun c hc => by simpa using List.mem_takeWhile_imp hc
  have parts := congrArg List.reverse
    (List.takeWhile_append_dropWhile (p := (· = '0')) (l := digits.reverse))
  rw [List.reverse_append, List.reverse_reverse, zeros, Text.fill, List.reverse_replicate] at parts
  exact parts.symm

/-- The digits of a positive number without the zeros at its end: the first is no zero. -/
theorem exists_dropZeros_natText {n : Nat} (hn : 0 < n) :
    ∃ c rest k, (dropZeros (natText n)).1 = c :: rest ∧ c ≠ '0' ∧ (∀ d ∈ c :: rest, d.isDigit) ∧
      n = 10 ^ k * Nat.ofDigitChars 10 (c :: rest) 0 ∧
      (natText n).length = (c :: rest).length + k := by
  obtain ⟨k, parts⟩ := exists_dropZeros (natText n)
  cases kept : (dropZeros (natText n)).1 with
  | nil =>
    -- nothing but zeros, which no positive number is written with
    rw [kept, List.nil_append] at parts
    cases k with
    | zero => exact absurd parts (natText_ne_nil n)
    | succ k => exact absurd parts (natText_ne_zero_cons hn.ne' _)
  | cons c rest =>
    rw [kept] at parts
    refine ⟨c, rest, k, rfl, ?_, ?_, ?_, ?_⟩
    · rintro rfl
      exact natText_ne_zero_cons hn.ne' _ parts
    · intro d hd
      exact isDigit_of_mem_natText (n := n) (parts ▸ List.mem_append_left _ hd)
    · rw [← ofDigitChars_append_zeros, ← parts, ofDigitChars_natText]
    · rw [parts, List.length_append, Text.fill, List.length_replicate]

/-! ### Numbers -/

/-- The digits before the point, those behind it and the exponent of a mantissa and a power of two. -/
def parts (mantissa : Nat) (exponent : Int) : Text × Text × Option Int :=
  if mantissa = 0 then (['0'], ['0'], none)
  else
    let (coefficient, power) := (RoundingInterval.ofBinary mantissa exponent).shortest
    layout (dropZeros (natText coefficient)).1 ((natText coefficient).length + power)

/-- The value of the digits that are shown of a number, if it is finite. -/
def shown? : Binary64 → Option ℚ
  | .finite negative mantissa exponent =>
    let (coefficient, power) :=
      if mantissa = 0 then (0, 0) else (RoundingInterval.ofBinary mantissa exponent).shortest
    some (Numeral.value ⟨negative, coefficient, power⟩)
  | _ => none

theorem shown?_finite (negative : Bool) (mantissa : Nat) (exponent : Int) :
    shown? (.finite negative mantissa exponent) =
      some (Numeral.ofDigits negative (parts mantissa exponent).1 (parts mantissa exponent).2.1
        ((parts mantissa exponent).2.2.getD 0)).value := by
  by_cases hm : mantissa = 0
  · have zero : Nat.ofDigitChars 10 ['0', '0'] 0 = 0 := rfl
    simp [shown?, parts, hm, Numeral.ofDigits, Numeral.value, zero]
  · have positive := RoundingInterval.shortest_pos exponent hm
    simp only [shown?, parts, if_neg hm]
    generalize (RoundingInterval.ofBinary mantissa exponent).shortest = found at positive ⊢
    obtain ⟨c, rest, k, kept, -, -, value, length⟩ := exists_dropZeros_natText positive
    have some : c :: rest ≠ [] := List.cons_ne_nil _ _
    rw [kept, length, value_layout negative some, value, Numeral.value_pow_mul, Nat.cast_add]
    congr 3
    ring

end Binary64

end CurlSnippets
