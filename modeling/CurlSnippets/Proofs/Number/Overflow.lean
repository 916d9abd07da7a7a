import CurlSnippets.Proofs.Number.Numeral
import Mathlib.Tactic.Linarith
import Mathlib.Tactic.NormNum

/-!
# Numbers beyond the binary ones

A decimal number is rounded to an infinity exactly if its size is at least half-way between the greatest
finite number and the next power of two (`isFinite_ofNumeral_iff`).  The power of two of the mantissa is
found from the numbers of binary digits of a fraction (`naturalExponent_spec`); only at the greatest power
does it depend on the rounding of the mantissa whether it is carried beyond (`roundQuotient_eq_iff`).
-/

namespace CurlSnippets

theorem Numeral.abs_value (x : Numeral) : |x.value| = (x.coefficient : ℚ) * 10 ^ x.exponent := by
  have size : |if x.negative then -(x.coefficient : ℚ) else x.coefficient| = x.coefficient := by
    split
    · rw [abs_neg, Nat.abs_cast]
    · rw [Nat.abs_cast]
  have power : (0 : ℚ) < 10 ^ x.exponent := by positivity
  rw [value, abs_mul, size, abs_of_pos power]

namespace Binary64

/-- Whether a number is finite. -/
def IsFinite : Binary64 → Prop
  | .finite _ _ _ => True
  | _ => False

instance : DecidablePred IsFinite
  | .finite _ _ _ => inferInstanceAs (Decidable True)
  | .infinity _ => inferInstanceAs (Decidable False)
  | .nan => inferInstanceAs (Decidable False)

/-- Whether a number is of the format: if finite, its mantissa has fifty-three bits at most, and its power
of two is not above the greatest. -/
def InRange : Binary64 → Prop
  | .finite _ mantissa exponent => mantissa < 2 ^ 53 ∧ exponent ≤ greatestExponent
  | _ => True

/-- The least size that is rounded to an infinity. -/
def overflow : ℚ := (2 ^ 53 - 1 / 2) * 2 ^ greatestExponent

/-- The overflow is above every mantissa but the last half of one. -/
theorem mul_le_overflow {m : ℚ} {e : Int} (hm : m ≤ 2 ^ 53 - 1 / 2) (he : e ≤ greatestExponent) :
    m * 2 ^ e ≤ overflow := by
  have power : (2 : ℚ) ^ e ≤ 2 ^ greatestExponent := zpow_le_zpow_right₀ (by decide) he
  calc m * 2 ^ e ≤ (2 ^ 53 - 1 / 2) * 2 ^ e := mul_le_mul_of_nonneg_right hm (by positivity)
    _ ≤ (2 ^ 53 - 1 / 2) * 2 ^ greatestExponent := mul_le_mul_of_nonneg_left power (by norm_num)

theorem one_le_overflow : 1 ≤ overflow := by
  simpa using mul_le_overflow (m := 1) (e := 0) (by norm_num) (by decide)

theorem overflow_le_pow : overflow ≤ 10 ^ (308 + 1 : Int) := by
  have root : (2 : ℚ) ^ 128 ≤ 341 * 10 ^ 36 := by norm_num
  have eighth : (341 : ℚ) ^ 8 ≤ 10 ^ 21 := by norm_num
  calc overflow ≤ 2 ^ (53 : Int) * 2 ^ greatestExponent := by rw [overflow]; gcongr; norm_num
    _ = ((2 : ℚ) ^ 128) ^ 8 := by
      rw [← zpow_add₀ (by decide), ← pow_mul]
      rfl
    _ ≤ (341 * 10 ^ 36) ^ 8 := by gcongr
    _ = 341 ^ 8 * 10 ^ 288 := by rw [mul_pow, ← pow_mul]
    _ ≤ 10 ^ 21 * 10 ^ 288 := by gcongr
    _ = 10 ^ (308 + 1 : Int) := by
      rw [← pow_add]
      rfl

/-! ### Rounding a quotient -/

section Round

variable {n d m : Nat} (hd : 0 < d) (h : n < (m + 1) * d)

include hd h

theorem roundQuotient_le : roundQuotient n d ≤ m + 1 := by
  have quotient : n / d < m + 1 := (Nat.div_lt_iff_lt_mul hd).2 h
  simp only [roundQuotient]
  split_ifs <;> omega

/-- A quotient below a whole number is rounded to it from half-way on, if the one before is odd. -/
theorem roundQuotient_eq_iff (odd : m % 2 = 1) :
    roundQuotient n d = m + 1 ↔ (2 * m + 1) * d ≤ 2 * n := by
  have quotient : n / d < m + 1 := (Nat.div_lt_iff_lt_mul hd).2 h
  have parts : d * (n / d) + n % d = n := Nat.div_add_mod n d
  have rest : n % d < d := Nat.mod_lt n hd
  rcases Nat.lt_or_eq_of_le (Nat.le_of_lt_succ quotient) with below | last
  · -- far below, the next whole number is no greater than the one before
    have far : d * (n / d + 1) ≤ d * m := Nat.mul_le_mul_left d below
    refine iff_of_false ?_ ?_
    · simp only [roundQuotient]
      split_ifs <;> omega
    · rw [Nat.mul_add, Nat.mul_one] at far
      rw [Nat.add_mul, Nat.one_mul, Nat.mul_assoc, Nat.mul_comm m d]
      omega
  · -- from the odd number just below, half-way is rounded up
    rw [last] at parts
    have double : (2 * m + 1) * d = 2 * (d * m) + d := by
      rw [Nat.add_mul, Nat.one_mul, Nat.mul_assoc, Nat.mul_comm m d]
    rw [double]
    simp only [roundQuotient, last]
    split_ifs <;> omega

end Round

/-! ### The power of two -/

section Fraction

variable {n d : Nat} (hd : 0 < d)

include hd

/-- A fraction is divided by a power of two. -/
theorem scale_spec (n : Nat) (e : Int) :
    0 < (scale n d e).2 ∧ ((scale n d e).1 : ℚ) / (scale n d e).2 = n / d / 2 ^ e := by
  rw [scale]
  split
  · rename_i positive
    obtain ⟨k, rfl⟩ := Int.eq_ofNat_of_zero_le positive
    refine ⟨Nat.mul_pos hd (Nat.pow_pos (by decide)), ?_⟩
    rw [Int.toNat_natCast, zpow_natCast, div_div, Nat.pow_eq]
    push_cast
    rfl
  · rename_i negative
    obtain ⟨k, rfl⟩ := Int.exists_eq_neg_ofNat (not_le.1 negative).le
    refine ⟨hd, ?_⟩
    rw [neg_neg, Int.toNat_natCast, zpow_neg, zpow_natCast, div_inv_eq_mul, div_mul_eq_mul_div,
      Nat.pow_eq]
    push_cast
    rfl

/-- A scaled fraction is below a whole number exactly if the fraction is below its multiple. -/
theorem scale_lt_iff (n : Nat) (e : Int) (m : Nat) :
    (scale n d e).1 < m * (scale n d e).2 ↔ (n : ℚ) / d < m * 2 ^ e := by
  obtain ⟨positive, value⟩ := scale_spec hd n e
  have denominator : (0 : ℚ) < (scale n d e).2 := by exact_mod_cast positive
  have power : (0 : ℚ) < 2 ^ e := by positivity
  rw [← div_lt_iff₀ power, ← value, div_lt_iff₀ denominator]
  exact_mod_cast Iff.rfl

/-- The numbers of binary digits tell the size of a fraction up to a factor of four. -/
theorem log2_bounds (hn : 0 < n) :
    2 ^ ((Nat.log2 n : Int) - Nat.log2 d - 1) < (n : ℚ) / d ∧
      (n : ℚ) / d < 2 ^ ((Nat.log2 n : Int) - Nat.log2 d + 1) := by
  have two : (2 : ℚ) ≠ 0 := by decide
  have denominator : (0 : ℚ) < d := by exact_mod_cast hd
  have lowN : (2 : ℚ) ^ (Nat.log2 n : Int) ≤ n := by
    rw [zpow_natCast]
    exact_mod_cast Nat.log2_self_le hn.ne'
  have highN : (n : ℚ) < 2 ^ ((Nat.log2 n : Int) + 1) := by
    rw [← Nat.cast_add_one, zpow_natCast]
    exact_mod_cast Nat.lt_log2_self
  have lowD : (2 : ℚ) ^ (Nat.log2 d : Int) ≤ d := by
    rw [zpow_natCast]
    exact_mod_cast Nat.log2_self_le hd.ne'
  have highD : (d : ℚ) < 2 ^ ((Nat.log2 d : Int) + 1) := by
    rw [← Nat.cast_add_one, zpow_natCast]
    exact_mod_cast Nat.lt_log2_self
  constructor
  · rw [lt_div_iff₀ denominator]
    calc (2 : ℚ) ^ ((Nat.log2 n : Int) - Nat.log2 d - 1) * d
        < 2 ^ ((Nat.log2 n : Int) - Nat.log2 d - 1) * 2 ^ ((Nat.log2 d : Int) + 1) := by gcongr
      _ = 2 ^ (Nat.log2 n : Int) := by
        rw [← zpow_add₀ two]
        congr 1
        ring
      _ ≤ n := lowN
  · rw [div_lt_iff₀ denominator]
    calc (n : ℚ) < 2 ^ ((Nat.log2 n : Int) + 1) := highN
      _ = 2 ^ ((Nat.log2 n : Int) - Nat.log2 d + 1) * 2 ^ (Nat.log2 d : Int) := by
        rw [← zpow_add₀ two]
        congr 1
        ring
      _ ≤ 2 ^ ((Nat.log2 n : Int) - Nat.log2 d + 1) * d := by gcongr

/-- The natural power of two brings a positive fraction between the mantissas of fifty-three bits. -/
theorem naturalExponent_spec (hn : 0 < n) :
    2 ^ 52 * 2 ^ naturalExponent n d ≤ (n : ℚ) / d ∧
      (n : ℚ) / d < 2 ^ 53 * 2 ^ naturalExponent n d := by
  have two : (2 : ℚ) ≠ 0 := by decide
  obtain ⟨low, high⟩ := log2_bounds hd hn
  rw [naturalExponent]
  generalize hg : (Nat.log2 n : Int) - Nat.log2 d - 53 = guess
  have lower : (Nat.log2 n : Int) - Nat.log2 d - 1 = 52 + guess := by omega
  have upper : (Nat.log2 n : Int) - Nat.log2 d + 1 = 53 + (guess + 1) := by omega
  rw [lower, zpow_add₀ two] at low
  rw [upper, zpow_add₀ two] at high
  have fits := scale_lt_iff hd n guess (2 ^ 53)
  rw [← Nat.div_lt_iff_lt_mul (scale_spec hd n guess).1] at fits
  push_cast at fits
  simp only [Nat.pow_eq]
  split
  · rename_i below
    exact ⟨low.le, fits.1 below⟩
  · -- the guess was too small by one
    rename_i above
    refine ⟨?_, high⟩
    have reached := not_lt.1 (mt fits.2 above)
    calc (2 : ℚ) ^ 52 * 2 ^ (guess + 1) = 2 ^ 53 * 2 ^ guess := by
          rw [zpow_add_one₀ two]
          ring
      _ ≤ (n : ℚ) / d := reached

/-! ### Fractions -/

/-- The mantissa and the power of two of a fraction, before the power is held against the greatest. -/
def rounded (n d : Nat) : Nat × Int :=
  let exponent := max (naturalExponent n d) leastExponent
  let mantissa := roundQuotient (scale n d exponent).1 (scale n d exponent).2
  if mantissa = Nat.pow 2 53 then (Nat.pow 2 52, exponent + 1) else (mantissa, exponent)

omit hd in
theorem ofFraction_eq (negative : Bool) (hn : n ≠ 0) : ofFraction negative n d =
    if (rounded n d).2 > greatestExponent then .infinity negative
    else .finite negative (rounded n d).1 (rounded n d).2 := by
  rw [ofFraction, if_neg hn]
  rfl

/-- The mantissa has fifty-three bits at most, also where it is carried. -/
theorem rounded_lt (hn : 0 < n) : (rounded n d).1 < 2 ^ 53 := by
  have two : (1 : ℚ) ≤ 2 := by decide
  have power : (2 : ℚ) ^ naturalExponent n d ≤ 2 ^ max (naturalExponent n d) leastExponent :=
    zpow_le_zpow_right₀ two (le_max_left _ _)
  have size : (n : ℚ) / d < (2 ^ 53 : Nat) * 2 ^ max (naturalExponent n d) leastExponent := by
    rw [Nat.cast_pow, Nat.cast_ofNat]
    exact (naturalExponent_spec hd hn).2.trans_le (by gcongr)
  have fits := (scale_lt_iff hd n _ (2 ^ 53)).2 size
  have most := @roundQuotient_le _ _ (2 ^ 53 - 1) (scale_spec hd n _).1 fits
  rw [rounded]
  split
  · exact Nat.pow_lt_pow_right (by decide) (by decide)
  · rename_i other
    exact lt_of_le_of_ne most other

/-- The power of two is beyond the greatest exactly from the overflow on. -/
theorem rounded_le_iff (hn : 0 < n) :
    (rounded n d).2 ≤ greatestExponent ↔ (n : ℚ) / d < overflow := by
  have two : (1 : ℚ) ≤ 2 := by decide
  obtain ⟨low, high⟩ := naturalExponent_spec hd hn
  rw [rounded]
  generalize naturalExponent n d = k at low high ⊢
  rcases lt_trichotomy k greatestExponent with below | last | beyond
  · -- one power further is not beyond the greatest
    refine iff_of_true ?_ ?_
    · have carried : max k leastExponent + 1 ≤ greatestExponent := by
        rw [leastExponent, greatestExponent] at *
        omega
      split
      · exact carried
      · exact (Int.le_add_one le_rfl).trans carried
    · calc (n : ℚ) / d < 2 ^ 53 * 2 ^ k := high
        _ = 2 ^ 52 * 2 ^ (k + 1) := by rw [zpow_add_one₀ (by decide)]; ring
        _ ≤ overflow := mul_le_overflow (by norm_num) below
  · -- the mantissa is carried beyond exactly from half-way on
    subst last
    obtain ⟨positive, value⟩ := scale_spec hd n greatestExponent
    have fits := (scale_lt_iff hd n greatestExponent (2 ^ 53)).2 (by exact_mod_cast high)
    rw [max_eq_left (show leastExponent ≤ greatestExponent by decide)]
    generalize scale n d greatestExponent = scaled at *
    have carried : roundQuotient scaled.1 scaled.2 = Nat.pow 2 53 ↔
        (2 ^ 54 - 1) * scaled.2 ≤ 2 * scaled.1 :=
      roundQuotient_eq_iff (m := 2 ^ 53 - 1) positive fits (by decide)
    have denominator : (0 : ℚ) < scaled.2 := by exact_mod_cast positive
    have power : (0 : ℚ) < 2 ^ greatestExponent := by positivity
    rw [overflow, ← div_lt_iff₀ power, ← value, div_lt_iff₀ denominator]
    have cast : (2 ^ 54 - 1) * scaled.2 ≤ 2 * scaled.1 ↔
        ¬ (scaled.1 : ℚ) < (2 ^ 53 - 1 / 2) * scaled.2 := by
      rw [not_lt, ← @Nat.cast_le ℚ]
      push_cast
      constructor <;> intro h <;> linarith
    rw [cast] at carried
    by_cases hc : roundQuotient scaled.1 scaled.2 = Nat.pow 2 53
    · rw [if_pos hc]
      exact iff_of_false (by decide) (carried.1 hc)
    · rw [if_neg hc]
      exact iff_of_true le_rfl (not_not.1 (mt carried.2 hc))
  · -- already the least mantissa is too great
    refine iff_of_false ?_ ?_
    · have great : ¬ max k leastExponent ≤ greatestExponent := by
        rw [greatestExponent] at *
        omega
      split
      · exact fun h => great ((Int.le_add_one le_rfl).trans h)
      · exact great
    · have power : (2 : ℚ) ^ (greatestExponent + 1) ≤ 2 ^ k := zpow_le_zpow_right₀ two beyond
      refine not_lt.2 ?_
      calc overflow ≤ 2 ^ 53 * 2 ^ greatestExponent := by rw [overflow]; gcongr; norm_num
        _ = 2 ^ 52 * 2 ^ (greatestExponent + 1) := by rw [zpow_add_one₀ (by decide)]; ring
        _ ≤ 2 ^ 52 * 2 ^ k := by gcongr
        _ ≤ (n : ℚ) / d := low

theorem isFinite_ofFraction_iff (negative : Bool) (n : Nat) :
    (ofFraction negative n d).IsFinite ↔ (n : ℚ) / d < overflow := by
  by_cases hn : n = 0
  · rw [ofFraction, if_pos hn, hn, Nat.cast_zero, zero_div]
    exact iff_of_true trivial (zero_lt_one.trans_le one_le_overflow)
  · rw [← rounded_le_iff hd (Nat.pos_of_ne_zero hn), ofFraction_eq negative hn]
    split
    · rename_i beyond
      exact iff_of_false not_false (not_le.2 beyond)
    · rename_i within
      exact iff_of_true trivial (not_lt.1 within)

theorem inRange_ofFraction (negative : Bool) (n : Nat) : (ofFraction negative n d).InRange := by
  by_cases hn : n = 0
  · rw [ofFraction, if_pos hn]
    exact ⟨by decide, by decide⟩
  · rw [ofFraction_eq negative hn]
    split
    · exact trivial
    · rename_i within
      exact ⟨rounded_lt hd (Nat.pos_of_ne_zero hn), not_lt.1 within⟩

end Fraction

/-! ### Numerals -/

/-- A decimal number is below the power of ten that its digits reach, and not below a tenth of it. -/
theorem size_bounds {c : Nat} (e : Int) (hc : 0 < c) :
    10 ^ ((digitCount c : Int) + e - 1) ≤ (c : ℚ) * 10 ^ e ∧
      (c : ℚ) * 10 ^ e < 10 ^ ((digitCount c : Int) + e) := by
  have ten : (10 : ℚ) ≠ 0 := by decide
  have some : 0 < digitCount c := List.length_pos_iff.2 (natText_ne_nil c)
  constructor
  · have low : (10 : ℚ) ^ ((digitCount c : Int) - 1) ≤ c := by
      rw [show (digitCount c : Int) - 1 = ((digitCount c - 1 : Nat) : Int) by omega, zpow_natCast]
      exact_mod_cast pow_digitCount_le hc
    rw [show (digitCount c : Int) + e - 1 = (digitCount c - 1) + e by ring, zpow_add₀ ten]
    gcongr
  · have high : (c : ℚ) < 10 ^ (digitCount c : Int) := by
      rw [zpow_natCast]
      exact_mod_cast lt_pow_digitCount c
    rw [zpow_add₀ ten]
    gcongr

/-- What a decimal number is rounded to is of the format. -/
theorem inRange_ofNumeral (x : Numeral) : (ofNumeral x).InRange := by
  rw [ofNumeral]
  split
  · exact ⟨by decide, by decide⟩
  · split
    · exact trivial
    · split
      · exact inRange_ofFraction Nat.one_pos _ _
      · exact inRange_ofFraction (Nat.pow_pos (by decide)) _ _

/-- **Overflow.**  The binary number nearest to a decimal one is finite exactly if the decimal one is
below the overflow in size. -/
theorem isFinite_ofNumeral_iff (x : Numeral) :
    (ofNumeral x).IsFinite ↔ |x.value| < overflow := by
  have ten : (1 : ℚ) ≤ 10 := by decide
  rw [x.abs_value, ofNumeral]
  generalize x.coefficient = c
  generalize x.exponent = e
  split
  · -- zero, or too small for its digits to matter
    rename_i small
    refine iff_of_true trivial (lt_of_lt_of_le ?_ one_le_overflow)
    by_cases hc : c = 0
    · rw [hc, Nat.cast_zero, zero_mul]
      exact zero_lt_one
    · have least : (digitCount c : Int) + e < -323 := by simpa [hc] using small
      calc (c : ℚ) * 10 ^ e < 10 ^ ((digitCount c : Int) + e) :=
            (size_bounds e (Nat.pos_of_ne_zero hc)).2
        _ ≤ 1 := zpow_le_one_of_nonpos₀ ten (by omega)
  · rename_i small
    have hc : 0 < c := Nat.pos_of_ne_zero fun zero => small (by simp [zero])
    split
    · -- too great for its digits to matter
      rename_i great
      refine iff_of_false not_false (not_lt.2 ?_)
      calc overflow ≤ 10 ^ (308 + 1 : Int) := overflow_le_pow
        _ ≤ 10 ^ ((digitCount c : Int) + e - 1) := zpow_le_zpow_right₀ ten (by omega)
        _ ≤ (c : ℚ) * 10 ^ e := (size_bounds e hc).1
    · split
      · rename_i positive
        obtain ⟨k, rfl⟩ := Int.eq_ofNat_of_zero_le positive
        rw [isFinite_ofFraction_iff Nat.one_pos, Nat.cast_one, div_one, Int.toNat_natCast, Nat.pow_eq,
          Nat.cast_mul, Nat.cast_pow, Nat.cast_ofNat, zpow_natCast]
      · rename_i negative
        obtain ⟨k, rfl⟩ := Int.exists_eq_neg_ofNat (not_le.1 negative).le
        rw [neg_neg, Int.toNat_natCast, Nat.pow_eq, isFinite_ofFraction_iff (Nat.pow_pos (by decide)),
          Nat.cast_pow, Nat.cast_ofNat, zpow_neg, zpow_natCast, div_eq_mul_inv]

end Binary64

end CurlSnippets
