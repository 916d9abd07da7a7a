import CurlSnippets.Number.Decimal
import Mathlib.Algebra.Order.Field.Power
import Mathlib.Algebra.Order.Ring.Rat
import Mathlib.Data.List.Basic
import Mathlib.Tactic.Positivity
import Mathlib.Tactic.Ring

/-!
# Digits of numbers

The digits of a natural number are read back as it (`ofDigitChars_natText`), begin with a zero for
zero alone (`natText_ne_zero_cons`), and are as many as its size says (`digitCount_le_iff`).

The value of a numeral is a rational number.  Where it is an integer, the integer is found in the
coefficient by its zeros (`whole?_of_size`).
-/

namespace CurlSnippets

/-! ### Digits -/

theorem natText_ne_nil (n : Nat) : natText n ≠ [] := Nat.toDigits_ne_nil

theorem isDigit_of_mem_natText {n : Nat} {c : Char} (h : c ∈ natText n) : c.isDigit :=
  Nat.isDigit_of_mem_toDigits (by decide) (by decide) h

/-- A number begins with a digit. -/
theorem exists_natText_eq_cons (n : Nat) : ∃ c t, natText n = c :: t ∧ c.isDigit := by
  obtain ⟨c, t, e⟩ := List.exists_cons_of_ne_nil (natText_ne_nil n)
  have first : c ∈ natText n := by
    rw [e]
    exact List.mem_cons_self
  exact ⟨c, t, e, isDigit_of_mem_natText first⟩

theorem ofDigitChars_natText (n : Nat) : Nat.ofDigitChars 10 (natText n) 0 = n :=
  Nat.ofDigitChars_toDigits (by decide) (by decide)

/-- The last digit stands behind the digits of a tenth. -/
theorem natText_of_ten_le {n : Nat} (h : 10 ≤ n) :
    natText n = natText (n / 10) ++ [(n % 10).digitChar] :=
  Nat.toDigits_of_base_le (by decide) h

theorem natText_of_lt_ten {n : Nat} (h : n < 10) : natText n = [n.digitChar] :=
  Nat.toDigits_of_lt_base h

/-- Only zero begins with a zero. -/
theorem natText_ne_zero_cons {n : Nat} (hn : n ≠ 0) (t : Text) : natText n ≠ '0' :: t := by
  induction n using Nat.strongRecOn generalizing t with
  | ind n ih =>
    -- by the number of digits: all but the last are those of a tenth, which begins alike
    by_cases h : n < 10
    · rw [natText_of_lt_ten h]
      have digit : ∀ m < 10, m ≠ 0 → m.digitChar ≠ '0' := by decide
      intro e
      exact digit n h hn (List.cons.inj e).1
    · rw [natText_of_ten_le (Nat.le_of_not_lt h)]
      intro e
      obtain ⟨c, u, front, -⟩ := exists_natText_eq_cons (n / 10)
      rw [front, List.cons_append] at e
      have smaller := ih (n / 10) (by omega) (by omega) u
      exact smaller (by rw [front, (List.cons.inj e).1])

theorem digitCount_le_iff {n k : Nat} (hk : 0 < k) : digitCount n ≤ k ↔ n < 10 ^ k :=
  Nat.length_toDigits_le_iff (by decide) hk

/-- A number has no digits in vain. -/
theorem pow_digitCount_le {n : Nat} (hn : 0 < n) : 10 ^ (digitCount n - 1) ≤ n := by
  by_contra below
  by_cases some : 0 < digitCount n - 1
  · have fewer := (digitCount_le_iff some).2 (Nat.lt_of_not_le below)
    omega
  · rw [Nat.eq_zero_of_not_pos some, Nat.pow_zero] at below
    omega

theorem lt_pow_digitCount (n : Nat) : n < 10 ^ digitCount n :=
  (digitCount_le_iff (List.length_pos_iff.2 (natText_ne_nil n))).1 (Nat.le_refl _)

theorem ofDigitChars_zeros_append (k : Nat) (digits : Text) :
    Nat.ofDigitChars 10 (Text.fill k '0' ++ digits) 0 = Nat.ofDigitChars 10 digits 0 := by
  rw [Nat.ofDigitChars_append, Text.fill, Nat.ofDigitChars_replicate_zero, Nat.mul_zero]

theorem ofDigitChars_append_zeros (digits : Text) (k : Nat) :
    Nat.ofDigitChars 10 (digits ++ Text.fill k '0') 0 = 10 ^ k * Nat.ofDigitChars 10 digits 0 := by
  rw [Nat.ofDigitChars_append, Text.fill, Nat.ofDigitChars_replicate_zero]

/-- A number is read from no fewer digits than it has. -/
theorem digitCount_ofDigitChars_le {digits : Text} (hne : digits ≠ [])
    (all : ∀ c ∈ digits, c.isDigit) :
    digitCount (Nat.ofDigitChars 10 digits 0) ≤ digits.length := by
  have bound : ∀ ds : Text, (∀ c ∈ ds, c.isDigit) → Nat.ofDigitChars 10 ds 0 < 10 ^ ds.length := by
    intro ds h
    induction ds with
    | nil => decide
    | cons c ds ih =>
      have tail := ih fun d hd => h d (List.mem_cons_of_mem _ hd)
      have digit : c.toNat - '0'.toNat ≤ 9 := by
        have := h c (by simp)
        simp only [Char.isDigit, Bool.and_eq_true, decide_eq_true_eq, UInt32.le_iff_toNat_le] at this
        have high : c.toNat ≤ 57 := this.2
        have zero : '0'.toNat = 48 := rfl
        omega
      rw [Nat.ofDigitChars_cons, Nat.ofDigitChars_eq_ofDigitChars_zero, List.length_cons,
        Nat.pow_succ]
      calc 10 ^ ds.length * (10 * 0 + (c.toNat - '0'.toNat)) + Nat.ofDigitChars 10 ds 0
          < 10 ^ ds.length * (10 * 0 + (c.toNat - '0'.toNat)) + 10 ^ ds.length :=
            Nat.add_lt_add_left tail _
        _ = 10 ^ ds.length * (c.toNat - '0'.toNat + 1) := by ring
        _ ≤ 10 ^ ds.length * 10 := Nat.mul_le_mul_left _ (by omega)
  rw [digitCount_le_iff (List.length_pos_iff.2 hne)]
  exact bound digits all

/-- Every factor ten puts a digit behind a number. -/
theorem digitCount_mul_pow {n : Nat} (hn : n ≠ 0) (k : Nat) :
    digitCount (n * 10 ^ k) = digitCount n + k := by
  induction k with
  | zero => rw [Nat.pow_zero, Nat.mul_one, Nat.add_zero]
  | succ k ih =>
    have positive : 0 < n * 10 ^ k := Nat.mul_pos (Nat.pos_of_ne_zero hn) (Nat.pow_pos (by decide))
    have tenfold : n * 10 ^ (k + 1) = n * 10 ^ k * 10 := by rw [Nat.pow_succ, Nat.mul_assoc]
    rw [digitCount, tenfold, natText_of_ten_le (by omega), Nat.mul_div_cancel _ (by decide),
      List.length_append, ← digitCount, ih]
    rfl

/-! ### Integers -/

/-- The sign of an integer and the digits of its size are read back as it. -/
theorem signed_natText (n : Int) : signed (decide (n < 0)) (natText n.natAbs) = n := by
  rw [signed, ofDigitChars_natText]
  by_cases h : n < 0
  · simp only [h, decide_true, if_true]
    omega
  · simp only [h, decide_false, Bool.false_eq_true, if_false]
    omega

theorem natAbs_signed (negative : Bool) (digits : Text) :
    (signed negative digits).natAbs = Nat.ofDigitChars 10 digits 0 := by
  cases negative with
  | true => rw [signed, if_pos rfl, Int.natAbs_neg, Int.natAbs_natCast]
  | false => rw [signed, if_neg (by decide), Int.natAbs_natCast]

/-! ### Values of numerals -/

/-- The value of a numeral. -/
def Numeral.value (x : Numeral) : ℚ :=
  (if x.negative then -(x.coefficient : ℚ) else x.coefficient) * 10 ^ x.exponent

/-- Zeros at the end of a coefficient count as much as the exponent. -/
theorem Numeral.value_pow_mul (negative : Bool) (k n : Nat) (e : Int) :
    Numeral.value ⟨negative, 10 ^ k * n, e⟩ = Numeral.value ⟨negative, n, k + e⟩ := by
  have ten : (10 : ℚ) ≠ 0 := by decide
  simp only [Numeral.value, Nat.cast_mul, Nat.cast_pow, Nat.cast_ofNat, zpow_add₀ ten, zpow_natCast]
  split <;> ring

/-- An integer that a numeral stands for has its sign, and the size that its digits say. -/
theorem Numeral.size_of_value {x : Numeral} {n : Int} (h : x.value = n) :
    (x.coefficient : ℚ) * 10 ^ x.exponent = n.natAbs ∧
      n = if x.negative then -(n.natAbs : Int) else n.natAbs := by
  have positive : (0 : ℚ) ≤ (x.coefficient : ℚ) * 10 ^ x.exponent := by positivity
  rw [value] at h
  -- a size is not negative, so the sign is that of the integer
  cases hs : x.negative with
  | true =>
    rw [hs, if_pos rfl, neg_mul] at h
    have size : (x.coefficient : ℚ) * 10 ^ x.exponent = ((-n : Int) : ℚ) := by
      rw [Int.cast_neg, ← h, neg_neg]
    rw [size] at positive
    have sign : 0 ≤ -n := by exact_mod_cast positive
    have abs : (n.natAbs : Int) = -n := by omega
    refine ⟨?_, ?_⟩
    · rw [size, ← abs, Int.cast_natCast]
    · rw [if_pos rfl]; omega
  | false =>
    rw [hs, if_neg (by decide)] at h
    rw [h] at positive
    have sign : 0 ≤ n := by exact_mod_cast positive
    have abs : (n.natAbs : Int) = n := by omega
    refine ⟨?_, ?_⟩
    · rw [h, ← Int.cast_natCast, abs]
    · rw [if_neg (by decide)]; omega

/-- A numeral of integer size is found to be whole, and no digit of it is lost. -/
theorem Decimal.whole?_of_size {x : Numeral} {m : Nat}
    (h : (x.coefficient : ℚ) * 10 ^ x.exponent = m) :
    ∃ coefficient zeros, Decimal.whole? x = some (coefficient, zeros) ∧
      coefficient * 10 ^ zeros = m ∧ digitCount coefficient + zeros = digitCount m := by
  by_cases hc : x.coefficient = 0
  · rw [hc, Nat.cast_zero, zero_mul] at h
    obtain rfl : m = 0 := (Nat.cast_eq_zero.1 h.symm)
    exact ⟨0, 0, by rw [whole?, if_pos hc], rfl, rfl⟩
  · by_cases he : x.exponent ≥ 0
    · -- zeros behind the coefficient
      have power : x.exponent = (x.exponent.toNat : Int) := (Int.toNat_of_nonneg he).symm
      have same : x.coefficient * 10 ^ x.exponent.toNat = m := by
        rw [power, zpow_natCast] at h
        exact_mod_cast h
      refine ⟨x.coefficient, x.exponent.toNat, by rw [whole?, if_neg hc, if_pos he], same, ?_⟩
      rw [← same, digitCount_mul_pow hc]
    · -- the places behind the point are all zeros
      have power : x.exponent = -((-x.exponent).toNat : Int) := by omega
      have same : x.coefficient = m * 10 ^ (-x.exponent).toNat := by
        rw [power, zpow_neg, zpow_natCast, ← div_eq_mul_inv, div_eq_iff (by positivity)] at h
        exact_mod_cast h
      have hm : m ≠ 0 := by
        rintro rfl
        exact hc (by rw [same, Nat.zero_mul])
      have long : ¬ digitCount x.coefficient < (-x.exponent).toNat := by
        rw [same, digitCount_mul_pow hm]
        omega
      have divides : x.coefficient % Nat.pow 10 (-x.exponent).toNat = 0 := by
        rw [same]
        exact Nat.mul_mod_left _ _
      have quotient : x.coefficient / Nat.pow 10 (-x.exponent).toNat = m := by
        rw [same]
        exact Nat.mul_div_cancel _ (Nat.pow_pos (by decide))
      refine ⟨m, 0, ?_, by rw [Nat.pow_zero, Nat.mul_one], rfl⟩
      rw [whole?, if_neg hc, if_neg he]
      simp only [long, divides, quotient, if_true, if_false]

end CurlSnippets
