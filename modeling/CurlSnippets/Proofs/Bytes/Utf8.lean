import CurlSnippets.Bytes.Utf8
import Mathlib.Data.List.Basic

/-!
# UTF-8 read back

A first octet tells how many octets a character has, and these are read as its code point
(`decode_one` to `decode_four`).  No character is a surrogate, so the bounds on the second octet let
every character pass: a text is read back from its octets (`decode_encode`).
-/

namespace CurlSnippets.Utf8

theorem toNat_octet {n : Nat} (h : n < 256) : (UInt8.ofNat n).toNat = n := by
  rw [UInt8.toNat_ofNat']
  exact Nat.mod_eq_of_lt h

/-! ### Octets of one character -/

section Octets

variable {a b c d : UInt8} (rest : Bytes)

theorem decode_one (ha : a.toNat < 0x80) : decode (a :: rest) = Char.ofNat a.toNat :: decode rest := by
  rw [decode.eq_def]
  exact if_pos ha

theorem decode_two (ha : 0xC2 ≤ a.toNat) (ha' : a.toNat ≤ 0xDF) (hb : isTail b.toNat) :
    decode (a :: b :: rest) =
      Char.ofNat ((a.toNat - 0xC0) * 64 + (b.toNat - 0x80)) :: decode rest := by
  have first : ¬ a.toNat < 0x80 := by omega
  rw [decode]
  simp only [first, ha, ha', hb, if_true, if_false, decide_true, Bool.and_true]

theorem decode_three (ha : 0xE0 ≤ a.toNat) (ha' : a.toNat ≤ 0xEF) (hb : isSecond a.toNat b.toNat)
    (hc : isTail c.toNat) : decode (a :: b :: c :: rest) =
      Char.ofNat ((a.toNat - 0xE0) * 4096 + (b.toNat - 0x80) * 64 + (c.toNat - 0x80))
        :: decode rest := by
  have first : ¬ a.toNat < 0x80 := by omega
  have notTwo : ¬ a.toNat ≤ 0xDF := by omega
  rw [decode]
  simp only [first, notTwo, ha, ha', hb, hc, if_true, if_false, decide_true, decide_false,
    Bool.and_true, Bool.and_false, Bool.false_eq_true]

theorem decode_four (ha : 0xF0 ≤ a.toNat) (ha' : a.toNat ≤ 0xF4) (hb : isSecond a.toNat b.toNat)
    (hc : isTail c.toNat) (hd : isTail d.toNat) : decode (a :: b :: c :: d :: rest) =
      Char.ofNat ((a.toNat - 0xF0) * 262144 + (b.toNat - 0x80) * 4096 + (c.toNat - 0x80) * 64
        + (d.toNat - 0x80)) :: decode rest := by
  have first : ¬ a.toNat < 0x80 := by omega
  have notTwo : ¬ a.toNat ≤ 0xDF := by omega
  have notThree : ¬ a.toNat ≤ 0xEF := by omega
  rw [decode]
  simp only [first, notTwo, notThree, ha, ha', hb, hc, hd, if_true, if_false, decide_true,
    decide_false, Bool.and_true, Bool.and_false, Bool.false_eq_true]

end Octets

/-! ### Octets that are written -/

theorem isTail_octet {n : Nat} (h : n < 64) : isTail (0x80 + n) := by
  rw [isTail, Bool.and_eq_true, decide_eq_true_eq, decide_eq_true_eq]
  omega

theorem isSecond_of_three {n : Nat} (low : 0x800 ≤ n) (high : n < 0x10000)
    (surrogate : n < 0xD800 ∨ 0xDFFF < n) : isSecond (0xE0 + n / 4096) (0x80 + n / 64 % 64) := by
  rw [isSecond, secondBounds, Bool.and_eq_true, decide_eq_true_eq, decide_eq_true_eq]
  split_ifs <;> dsimp only <;> omega

theorem isSecond_of_four {n : Nat} (low : 0x10000 ≤ n) (high : n < 0x110000) :
    isSecond (0xF0 + n / 262144) (0x80 + n / 4096 % 64) := by
  rw [isSecond, secondBounds, Bool.and_eq_true, decide_eq_true_eq, decide_eq_true_eq]
  split_ifs <;> dsimp only <;> omega

/-- A character is read back in front of any octets. -/
theorem decode_encodeChar (c : Char) (rest : Bytes) :
    decode (encodeChar c ++ rest) = c :: decode rest := by
  have valid : c.toNat < 0xD800 ∨ 0xDFFF < c.toNat ∧ c.toNat < 0x110000 := c.valid
  have same : ∀ n, n = c.toNat → Char.ofNat n :: decode rest = c :: decode rest := by
    rintro _ rfl
    rw [Char.ofNat_toNat]
  unfold encodeChar
  dsimp only
  split_ifs with one two three
  · -- one octet
    have ea := toNat_octet (n := c.toNat) (by omega)
    refine (decode_one rest ?_).trans (same _ ?_) <;> rw [ea]
    exact one
  · -- two octets
    have ea := toNat_octet (n := 0xC0 + c.toNat / 64) (by omega)
    have eb := toNat_octet (n := 0x80 + c.toNat % 64) (by omega)
    refine (decode_two rest ?_ ?_ ?_).trans (same _ ?_)
    · omega
    · omega
    · rw [eb]; exact isTail_octet (by omega)
    · omega
  · -- three octets: `valid` keeps the second one below the surrogates or above them
    have ea := toNat_octet (n := 0xE0 + c.toNat / 4096) (by omega)
    have eb := toNat_octet (n := 0x80 + c.toNat / 64 % 64) (by omega)
    have ec := toNat_octet (n := 0x80 + c.toNat % 64) (by omega)
    refine (decode_three rest ?_ ?_ ?_ ?_).trans (same _ ?_)
    · omega
    · omega
    · rw [ea, eb]; exact isSecond_of_three (by omega) three (by omega)
    · rw [ec]; exact isTail_octet (by omega)
    · omega
  · -- four octets
    have ea := toNat_octet (n := 0xF0 + c.toNat / 262144) (by omega)
    have eb := toNat_octet (n := 0x80 + c.toNat / 4096 % 64) (by omega)
    have ec := toNat_octet (n := 0x80 + c.toNat / 64 % 64) (by omega)
    have ed := toNat_octet (n := 0x80 + c.toNat % 64) (by omega)
    refine (decode_four rest ?_ ?_ ?_ ?_ ?_).trans (same _ ?_)
    · omega
    · omega
    · rw [ea, eb]; exact isSecond_of_four (by omega) (by omega)
    · rw [ec]; exact isTail_octet (by omega)
    · rw [ed]; exact isTail_octet (by omega)
    · omega

/-- **A text is read back** from its octets. -/
theorem decode_encode (t : Text) : decode (encode t) = t := by
  induction t with
  | nil => rw [encode, List.flatMap_nil, decode]
  | cons c t ih => rw [encode, List.flatMap_cons, decode_encodeChar, ← encode, ih]

end CurlSnippets.Utf8
