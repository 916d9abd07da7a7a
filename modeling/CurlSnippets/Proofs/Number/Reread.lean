import CurlSnippets.Proofs.Number.Overflow
import CurlSnippets.Proofs.Number.Shortest

/-!
# The digits of a binary number, read again

The digits that are shown of a number of the format are not above the interval in which decimal
numbers are rounded to it (`search_reaches`), and the end of it is not above the overflow, so that they
are below it (`shortest_lt_overflow`).  So a finite number is read again as a finite one
(`isFinite_reread_iff`).
-/

namespace CurlSnippets

namespace RoundingInterval

variable {i : RoundingInterval} {c : Nat} {e : Int}

/-- Whether a decimal number is not above the interval. -/
def Reaches (i : RoundingInterval) (c : Nat) (e : Int) : Prop :=
  (c : ℚ) * 10 ^ e * i.denominator ≤ i.high ∧
    (i.closed = false → (c : ℚ) * 10 ^ e * i.denominator < i.high)

/-- A decimal number and the interval are brought to one denominator. -/
theorem align_spec (i : RoundingInterval) (c : Nat) (e : Int) :
    0 < (i.align c e).2 ∧ ((i.align c e).1 : ℚ) = (c : ℚ) * 10 ^ e * i.denominator * (i.align c e).2 := by
  rw [align]
  split
  · rename_i positive
    obtain ⟨k, rfl⟩ := Int.eq_ofNat_of_zero_le positive
    refine ⟨Nat.one_pos, ?_⟩
    rw [Int.toNat_natCast, zpow_natCast, Nat.pow_eq]
    push_cast
    ring
  · rename_i negative
    obtain ⟨k, rfl⟩ := Int.exists_eq_neg_ofNat (not_le.1 negative).le
    have power : (10 : ℚ) ^ k ≠ 0 := by positivity
    refine ⟨Nat.pow_pos (by decide), ?_⟩
    rw [neg_neg, Int.toNat_natCast, zpow_neg, zpow_natCast, Nat.pow_eq]
    push_cast
    rw [mul_right_comm _ (i.denominator : ℚ), inv_mul_cancel_right₀ power]

theorem reaches_of_holds (h : i.holds c e) : i.Reaches c e := by
  obtain ⟨unit, point⟩ := i.align_spec c e
  have positive : (0 : ℚ) < (i.align c e).2 := by exact_mod_cast unit
  cases closed : i.closed with
  | true =>
    simp only [holds, closed, if_true, Bool.and_eq_true, decide_eq_true_eq] at h
    refine ⟨le_of_mul_le_mul_right ?_ positive, fun opened => Bool.noConfusion (closed.symm.trans opened)⟩
    rw [← point]
    exact_mod_cast h.2
  | false =>
    simp only [holds, closed, Bool.false_eq_true, if_false, Bool.and_eq_true, decide_eq_true_eq] at h
    have below : (c : ℚ) * 10 ^ e * i.denominator < i.high := by
      refine lt_of_mul_lt_mul_right ?_ positive.le
      rw [← point]
      exact_mod_cast h.2
    exact ⟨below.le, fun _ => below⟩

theorem holds_of_pick (h : i.pick e = some c) : i.holds c e := by
  rw [pick] at h
  split at h
  · -- both neighbours are inside, and the nearer one is picked
    rename_i low high
    obtain rfl := Option.some.inj h
    split_ifs <;> assumption
  · rename_i low high
    exact Option.some.inj h ▸ low
  · rename_i low high
    exact Option.some.inj h ▸ high
  · cases h

/-- A multiple of a power of ten that is not above the value. -/
theorem floorAt_le (i : RoundingInterval) (e : Int) :
    (i.floorAt e : ℚ) * 10 ^ e * i.denominator ≤ i.value := by
  rw [floorAt]
  split
  · rename_i positive
    obtain ⟨k, rfl⟩ := Int.eq_ofNat_of_zero_le positive
    have below : i.value / (i.denominator * 10 ^ k) * (i.denominator * 10 ^ k) ≤ i.value :=
      Nat.div_mul_le_self _ _
    rw [Int.toNat_natCast, zpow_natCast, mul_assoc, mul_comm ((10 : ℚ) ^ k)]
    exact_mod_cast below
  · rename_i negative
    obtain ⟨k, rfl⟩ := Int.exists_eq_neg_ofNat (not_le.1 negative).le
    have power : (0 : ℚ) < 10 ^ k := by positivity
    have below : i.value * 10 ^ k / i.denominator * i.denominator ≤ i.value * 10 ^ k :=
      Nat.div_mul_le_self _ _
    rw [neg_neg, Int.toNat_natCast, zpow_neg, zpow_natCast, mul_right_comm, ← div_eq_mul_inv,
      div_le_iff₀ power]
    exact_mod_cast below

/-- Wherever the search ends, it is not above the interval. -/
theorem search_reaches (below : i.value < i.high) (more digits : Nat) :
    i.Reaches (i.search digits more).1 (i.search digits more).2 := by
  induction more generalizing digits with
  | zero =>
    -- the search gives up with the digits of the value cut off, which is below the interval's end
    have high : (i.value : ℚ) < i.high := by exact_mod_cast below
    have floor := i.floorAt_le (i.magnitude - digits)
    exact ⟨floor.trans high.le, fun _ => floor.trans_lt high⟩
  | succ more ih =>
    rw [search]
    split
    · rename_i found
      exact reaches_of_holds (holds_of_pick found)
    · exact ih (digits + 1)

/-! ### Binary numbers -/

variable {mantissa : Nat} {exponent : Int}

theorem value_lt_high (mantissa : Nat) (exponent : Int) :
    (ofBinary mantissa exponent).value < (ofBinary mantissa exponent).high := by
  refine Nat.mul_lt_mul_of_pos_right (Nat.lt_add_of_pos_right (by decide)) ?_
  split
  · exact Nat.pow_pos (by decide)
  · exact Nat.one_pos

/-- The upper end of the interval is half-way to the next mantissa. -/
theorem high_ofBinary (mantissa : Nat) (exponent : Int) :
    ((ofBinary mantissa exponent).high : ℚ) =
      (mantissa + 1 / 2) * 2 ^ exponent * (ofBinary mantissa exponent).denominator := by
  have quarter : ((2 : ℚ) ^ exponent) = 4 * 2 ^ (exponent - 2) := by
    rw [zpow_sub₀ (by decide), show (2 : ℚ) ^ (2 : Int) = 4 by norm_num]
    ring
  rw [quarter]
  simp only [ofBinary]
  generalize exponent - 2 = q
  by_cases positive : q ≥ 0
  · obtain ⟨k, rfl⟩ := Int.eq_ofNat_of_zero_le positive
    rw [if_pos positive, if_pos positive, Int.toNat_natCast, zpow_natCast, Nat.pow_eq]
    push_cast
    ring
  · obtain ⟨k, rfl⟩ := Int.exists_eq_neg_ofNat (not_le.1 positive).le
    have power : (2 : ℚ) ^ k ≠ 0 := by positivity
    rw [if_neg positive, if_neg positive, neg_neg, Int.toNat_natCast, zpow_neg, zpow_natCast,
      Nat.pow_eq]
    push_cast
    rw [mul_assoc, mul_assoc, inv_mul_cancel₀ power]
    ring

/-- The digits that are shown of a number of the format are below the overflow. -/
theorem shortest_lt_overflow (short : mantissa < 2 ^ 53) (great : exponent ≤ Binary64.greatestExponent) :
    ((ofBinary mantissa exponent).shortest.1 : ℚ) * 10 ^ (ofBinary mantissa exponent).shortest.2 <
      Binary64.overflow := by
  have denominator : (0 : ℚ) < (ofBinary mantissa exponent).denominator := by
    exact_mod_cast denominator_ofBinary mantissa exponent
  obtain ⟨most, less⟩ := search_reaches (value_lt_high mantissa exponent) 17 1
  rw [high_ofBinary, mul_le_mul_iff_left₀ denominator] at most
  rw [high_ofBinary, mul_lt_mul_iff_left₀ denominator] at less
  rw [shortest]
  by_cases even : mantissa % 2 = 0
  · -- the greatest mantissa is odd, so an even one is two below the next power
    have whole : (mantissa : ℚ) + 2 ≤ 2 ^ 53 := by
      have gap : mantissa + 2 ≤ 2 ^ 53 := by omega
      exact_mod_cast gap
    calc _ ≤ ((mantissa : ℚ) + 1 / 2) * 2 ^ exponent := most
      _ < (2 ^ 53 - 1 / 2) * 2 ^ exponent :=
        mul_lt_mul_of_pos_right (by linarith) (by positivity)
      _ ≤ Binary64.overflow := Binary64.mul_le_overflow le_rfl great
  · -- an odd mantissa does not take in the end of its interval
    have opened : (ofBinary mantissa exponent).closed = false := decide_eq_false even
    have whole : (mantissa : ℚ) + 1 ≤ 2 ^ 53 := by exact_mod_cast short
    calc _ < ((mantissa : ℚ) + 1 / 2) * 2 ^ exponent := less opened
      _ ≤ Binary64.overflow := Binary64.mul_le_overflow (by linarith) great

end RoundingInterval

namespace Binary64

/-- What the digits that are shown of a number are read as. -/
def reread : Binary64 → Binary64
  | .finite negative mantissa exponent => .ofNumeral (Numeral.ofDigits negative
      (parts mantissa exponent).1 (parts mantissa exponent).2.1
      ((parts mantissa exponent).2.2.getD 0))
  | x => x

/-- **A number is read again as a finite one exactly if it is finite.** -/
theorem isFinite_reread_iff {x : Binary64} (h : x.InRange) : x.reread.IsFinite ↔ x.IsFinite := by
  cases x with
  | nan | infinity => exact Iff.rfl
  | finite negative mantissa exponent =>
    obtain ⟨short, great⟩ := h
    have shown := shown?_finite negative mantissa exponent
    rw [shown?, Option.some_inj] at shown
    rw [reread, isFinite_ofNumeral_iff, ← shown, Numeral.abs_value]
    refine iff_of_true ?_ trivial
    by_cases zero : mantissa = 0
    · rw [if_pos zero, Nat.cast_zero, zero_mul]
      exact zero_lt_one.trans_le one_le_overflow
    · rw [if_neg zero]
      exact RoundingInterval.shortest_lt_overflow short great

end Binary64

end CurlSnippets
