import CurlSnippets.Proofs.Number.Overflow

/-!
# Numbers that are binary ones

A decimal number is read as the nearest binary one, so nothing is lost of a number of the format and of
no other (`value?_ofFraction_iff`).  An integer is of the format exactly if it is a mantissa of fifty-three
bits with a power of two that is not above the greatest (`toInt?_ofInteger_iff`).
-/

namespace CurlSnippets.Binary64

/-- Whether a number is of the format: a mantissa of fifty-three bits times a power of two between the
least and the greatest. -/
def Representable (x : ℚ) : Prop :=
  ∃ (mantissa : ℕ) (exponent : ℤ), mantissa < 2 ^ 53 ∧ leastExponent ≤ exponent ∧
    exponent ≤ greatestExponent ∧ x = mantissa * 2 ^ exponent

/-- The value of a finite number. -/
def value? : Binary64 → Option ℚ
  | .finite negative mantissa exponent =>
    some ((if negative then -(mantissa : ℚ) else mantissa) * 2 ^ exponent)
  | _ => none

theorem isFinite_of_value? {x : Binary64} {q : ℚ} (h : x.value? = some q) : x.IsFinite := by
  cases x with
  | finite => trivial
  | nan | infinity => exact absurd h (by simp [value?])

/-! ### Whole numbers -/

/-- A fraction that divides without rest is the quotient. -/
theorem quotient_eq_some_iff {a n : ℤ} {d : ℕ} (hd : 0 < d) :
    (if a % d = 0 then some (a / d) else none) = some n ↔ (a : ℚ) / d = n := by
  have denominator : (d : ℚ) ≠ 0 := by exact_mod_cast hd.ne'
  have whole : (d : ℤ) ≠ 0 := by exact_mod_cast hd.ne'
  rw [div_eq_iff denominator]
  constructor
  · intro h
    split at h
    · rename_i rest
      have exact : a = n * d := by
        rw [← Option.some.inj h, Int.ediv_mul_cancel (Int.dvd_of_emod_eq_zero rest)]
      exact_mod_cast exact
    · exact absurd h (by simp)
  · intro h
    have exact : a = n * d := by exact_mod_cast h
    rw [exact, Int.mul_emod_left, if_pos rfl, Int.mul_ediv_cancel _ whole]

/-- The value of a finite number as a fraction. -/
theorem exists_toFraction? (negative : Bool) (mantissa : ℕ) (exponent : ℤ) :
    ∃ (a : ℤ) (d : ℕ), 0 < d ∧ toFraction? (.finite negative mantissa exponent) = some (a, d) ∧
      value? (.finite negative mantissa exponent) = some ((a : ℚ) / d) := by
  have size : ((if negative then -(mantissa : ℤ) else mantissa : ℤ) : ℚ) =
      if negative then -(mantissa : ℚ) else mantissa := by
    split <;> push_cast <;> rfl
  by_cases positive : exponent ≥ 0
  · -- the power of two is a factor of the numerator
    obtain ⟨k, rfl⟩ := Int.eq_ofNat_of_zero_le positive
    refine ⟨_, 1, Nat.one_pos, congrArg some (if_pos positive), ?_⟩
    rw [value?, ← size, Int.toNat_natCast, zpow_natCast, Nat.pow_eq, Nat.cast_one, div_one]
    push_cast
    rfl
  · -- it is the denominator
    obtain ⟨k, rfl⟩ := Int.exists_eq_neg_ofNat (not_le.1 positive).le
    refine ⟨_, _, Nat.pow_pos (by decide), congrArg some (if_neg positive), ?_⟩
    rw [value?, ← size, neg_neg, Int.toNat_natCast, zpow_neg, zpow_natCast, div_eq_mul_inv]
    push_cast
    rfl

theorem toInt?_eq_some_iff {x : Binary64} {n : ℤ} : x.toInt? = some n ↔ x.value? = some (n : ℚ) := by
  cases x with
  | nan => exact iff_of_false (by simp [toInt?, toFraction?]) (by simp [value?])
  | infinity => exact iff_of_false (by simp [toInt?, toFraction?]) (by simp [value?])
  | finite negative mantissa exponent =>
    obtain ⟨a, d, hd, fraction, value⟩ := exists_toFraction? negative mantissa exponent
    rw [toInt?, fraction, value, Option.some_inj]
    exact quotient_eq_some_iff hd

/-! ### Exact rounding -/

/-- A multiple is divided without rounding. -/
theorem roundQuotient_mul (q : ℕ) {d : ℕ} (hd : 0 < d) : roundQuotient (q * d) d = q := by
  simp [roundQuotient, Nat.mul_div_cancel q hd, hd]

section Fraction

variable {n d : ℕ} (hd : 0 < d) (hn : 0 < n)

include hd hn

/-- A fraction that is a whole number of times the power of two it is rounded at. -/
theorem rounded_of_multiple {q : ℕ}
    (h : (n : ℚ) / d = q * 2 ^ max (naturalExponent n d) leastExponent) :
    rounded n d = (q, max (naturalExponent n d) leastExponent) := by
  obtain ⟨-, high⟩ := naturalExponent_spec hd hn
  have power : (2 : ℚ) ^ naturalExponent n d ≤ 2 ^ max (naturalExponent n d) leastExponent :=
    zpow_le_zpow_right₀ (by decide) (le_max_left _ _)
  rw [rounded]
  generalize max (naturalExponent n d) leastExponent = k at h power ⊢
  obtain ⟨positive, value⟩ := scale_spec hd n k
  have two : (0 : ℚ) < 2 ^ k := by positivity
  have denominator : ((scale n d k).2 : ℚ) ≠ 0 := by exact_mod_cast positive.ne'
  have exact : (scale n d k).1 = q * (scale n d k).2 := by
    rw [h, mul_div_cancel_right₀ _ two.ne', div_eq_iff denominator] at value
    exact_mod_cast value
  have below : q < 2 ^ 53 := by
    have size : (q : ℚ) * 2 ^ k < 2 ^ 53 * 2 ^ k :=
      h ▸ high.trans_le (mul_le_mul_of_nonneg_left power (by positivity))
    exact_mod_cast lt_of_mul_lt_mul_right size two.le
  simp only [exact, roundQuotient_mul q positive, Nat.pow_eq, if_neg below.ne]

omit hd hn in
theorem leastExponent_le_rounded : leastExponent ≤ (rounded n d).2 := by
  have least : leastExponent ≤ max (naturalExponent n d) leastExponent := le_max_right _ _
  rw [rounded]
  split
  · exact least.trans (Int.le_add_one le_rfl)
  · exact least

/-- A fraction of the format is rounded to itself. -/
theorem rounded_of_representable (h : Representable ((n : ℚ) / d)) :
    ((rounded n d).1 : ℚ) * 2 ^ (rounded n d).2 = n / d ∧ (rounded n d).2 ≤ greatestExponent := by
  obtain ⟨m, e, short, least, greatest, value⟩ := h
  -- the power of two that it is rounded at is no greater than its own
  have natural : naturalExponent n d ≤ e := by
    by_contra beyond
    obtain ⟨low, -⟩ := naturalExponent_spec hd hn
    have power : (2 : ℚ) ^ (e + 1) ≤ 2 ^ naturalExponent n d :=
      zpow_le_zpow_right₀ (by decide) (by omega)
    have small : (n : ℚ) / d < n / d := calc
      (n : ℚ) / d = m * 2 ^ e := value
      _ < 2 ^ 53 * 2 ^ e := mul_lt_mul_of_pos_right (by exact_mod_cast short) (by positivity)
      _ = 2 ^ 52 * 2 ^ (e + 1) := by rw [zpow_add_one₀ (by decide)]; ring
      _ ≤ 2 ^ 52 * 2 ^ naturalExponent n d := mul_le_mul_of_nonneg_left power (by positivity)
      _ ≤ n / d := low
    exact lt_irrefl _ small
  obtain ⟨j, hj⟩ : ∃ j : ℕ, e = max (naturalExponent n d) leastExponent + j :=
    ⟨(e - max (naturalExponent n d) leastExponent).toNat, by omega⟩
  have multiple : (n : ℚ) / d = (m * 2 ^ j : ℕ) * 2 ^ max (naturalExponent n d) leastExponent := by
    rw [value, hj, zpow_add₀ (by decide), zpow_natCast]
    push_cast
    ring
  rw [rounded_of_multiple hd hn multiple]
  exact ⟨multiple.symm, by omega⟩

/-- **Exact fractions.**  The binary number nearest to a positive fraction has the same value exactly if the
fraction is of the format. -/
theorem value?_ofFraction_iff (negative : Bool) :
    (ofFraction negative n d).value? = some (if negative then -((n : ℚ) / d) else n / d) ↔
      Representable ((n : ℚ) / d) := by
  have signs : (if negative then -((rounded n d).1 : ℚ) else (rounded n d).1) * 2 ^ (rounded n d).2 =
      (if negative then -((n : ℚ) / d) else n / d) ↔
        ((rounded n d).1 : ℚ) * 2 ^ (rounded n d).2 = n / d := by
    cases negative with
    | true => simp only [if_true, neg_mul, neg_inj]
    | false => simp only [Bool.false_eq_true, if_false]
  rw [ofFraction_eq negative hn.ne']
  split
  · rename_i beyond
    refine iff_of_false (by simp [value?]) fun h => ?_
    exact absurd (rounded_of_representable hd hn h).2 (not_le.2 beyond)
  · rename_i within
    rw [value?, Option.some_inj, signs]
    constructor
    · intro same
      exact ⟨_, _, rounded_lt hd hn, leastExponent_le_rounded, not_lt.1 within, same.symm⟩
    · exact fun h => (rounded_of_representable hd hn h).1

end Fraction

/-! ### Integers -/

/-- The binary number that the digits of an integer are read as. -/
def ofInteger (n : ℤ) : Binary64 := ofNumeral ⟨decide (n < 0), n.natAbs, 0⟩

/-- A whole number is of the format exactly if it is a mantissa with zeros behind it, in binary. -/
theorem representable_natCast_iff {c : ℕ} : Representable (c : ℚ) ↔
    ∃ mantissa exponent : ℕ, mantissa < 2 ^ 53 ∧ exponent ≤ 971 ∧ c = mantissa * 2 ^ exponent := by
  constructor
  · rintro ⟨m, e, short, -, greatest, value⟩
    by_cases positive : 0 ≤ e
    · obtain ⟨k, rfl⟩ := Int.eq_ofNat_of_zero_le positive
      rw [zpow_natCast] at value
      exact ⟨m, k, short, Int.ofNat_le.1 greatest, by exact_mod_cast value⟩
    · -- halved as often as the exponent says, a whole number is below its mantissa and needs no
      -- power
      obtain ⟨k, rfl⟩ := Int.exists_eq_neg_ofNat (not_le.1 positive).le
      have power : (2 : ℚ) ^ k ≠ 0 := by positivity
      rw [zpow_neg, zpow_natCast, ← div_eq_mul_inv, eq_div_iff power] at value
      have multiple : c * 2 ^ k = m := by exact_mod_cast value
      have below : c ≤ m := multiple ▸ Nat.le_mul_of_pos_right c (Nat.pow_pos (by decide))
      exact ⟨c, 0, below.trans_lt short, Nat.zero_le _, (Nat.mul_one c).symm⟩
  · rintro ⟨m, e, short, greatest, rfl⟩
    have least : leastExponent ≤ (e : ℤ) := le_trans (by decide) (Int.natCast_nonneg e)
    refine ⟨m, e, short, least, Int.ofNat_le.2 greatest, ?_⟩
    push_cast
    rw [zpow_natCast]

/-- A number of the format is below the overflow. -/
theorem Representable.lt_overflow {x : ℚ} (h : Representable x) : x < overflow := by
  obtain ⟨m, e, short, -, greatest, rfl⟩ := h
  have most : (m : ℚ) ≤ 2 ^ 53 - 1 := by
    have le : (m : ℚ) + 1 ≤ 2 ^ 53 := by exact_mod_cast short
    linarith
  have power : (2 : ℚ) ^ e ≤ 2 ^ greatestExponent := zpow_le_zpow_right₀ (by decide) greatest
  calc (m : ℚ) * 2 ^ e ≤ (2 ^ 53 - 1) * 2 ^ greatestExponent :=
        mul_le_mul most power (by positivity) (by norm_num)
    _ < overflow := mul_lt_mul_of_pos_right (by norm_num) (by positivity)

/-- An integer is read as the fraction that it is, unless it has too many digits for a finite number. -/
theorem ofInteger_eq {n : ℤ} (hn : n ≠ 0) :
    ofInteger n = ofFraction (decide (n < 0)) n.natAbs 1 ∨ ¬ (ofInteger n).IsFinite := by
  have some : n.natAbs ≠ 0 := Int.natAbs_ne_zero.2 hn
  rw [ofInteger, ofNumeral]
  simp only [some, decide_false, Bool.false_or, decide_eq_true_eq]
  split
  · omega
  · split
    · exact .inr not_false
    · left
      simp

/-- **Exact integers.**  An integer is read as itself exactly if it is a mantissa of fifty-three bits with
a power of two that is not above the greatest. -/
theorem toInt?_ofInteger_iff (n : ℤ) : (ofInteger n).toInt? = some n ↔
    ∃ mantissa exponent : ℕ, mantissa < 2 ^ 53 ∧ exponent ≤ 971 ∧
      n.natAbs = mantissa * 2 ^ exponent := by
  by_cases hn : n = 0
  · subst hn
    exact iff_of_true (by decide +kernel) ⟨0, 0, by decide, by decide, rfl⟩
  · have positive : 0 < n.natAbs := Int.natAbs_pos.2 hn
    have value : ((n.natAbs : ℕ) : ℚ) / (1 : ℕ) = n.natAbs := by rw [Nat.cast_one, div_one]
    rw [toInt?_eq_some_iff, ← representable_natCast_iff]
    rcases ofInteger_eq hn with fraction | infinite
    · have signed : (n : ℚ) = if decide (n < 0) then -((n.natAbs : ℚ) / (1 : ℕ)) else n.natAbs / (1 : ℕ) := by
        rw [value, Nat.cast_natAbs]
        by_cases negative : n < 0
        · simp [negative, abs_of_neg]
        · simp [negative, abs_of_nonneg (not_lt.1 negative)]
      rw [fraction, signed, value?_ofFraction_iff Nat.one_pos positive, value]
    · -- too many digits, and so beyond every number of the format
      refine iff_of_false (fun h => infinite (isFinite_of_value? h)) fun h => infinite ?_
      rw [ofInteger, isFinite_ofNumeral_iff, Numeral.abs_value, zpow_zero, mul_one]
      exact h.lt_overflow

end CurlSnippets.Binary64
