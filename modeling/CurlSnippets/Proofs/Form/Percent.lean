import CurlSnippets.Form.Percent
import CurlSnippets.Proofs.Bytes.Utf8
import CurlSnippets.Text.Word

/-!
# Percent escapes read back

A written form has only the characters that stand for themselves, the plus sign and the percent sign
(`isWritten_of_mem_encode`).  Reading it collects the octets of the text, whatever octets were read
before (`unescapeFrom_encode`), so it comes back as it was (`decode_encode`).
-/

namespace CurlSnippets.Percent

/-! ### Characters of a written form -/

/-- Whether a character can stand in a written form. -/
def isWritten (c : Char) : Bool := isUnreserved c || c = '+' || c = '%'

theorem ascii_of_isUnreserved {c : Char} (h : isUnreserved c) : c.toNat < 128 := by
  simp only [isUnreserved, Bool.or_eq_true, decide_eq_true_eq] at h
  rcases h with (((h | rfl) | rfl) | rfl) | rfl
  · exact Text.ascii_of_isAlphanum h
  all_goals decide

theorem ne_of_isUnreserved {c d : Char} (h : isUnreserved c) (hd : isUnreserved d = false) : c ≠ d :=
  fun e => Bool.false_ne_true (hd.symm.trans (e ▸ h))

theorem isUnreserved_upperHex {n : Nat} (h : n < 16) : isUnreserved (upperHex n) := by
  have all : ∀ n < 16, isUnreserved (upperHex n) := by decide
  exact all n h

theorem of_mem_escape {b : UInt8} {c : Char} (h : c ∈ escape b) : c = '%' ∨ isUnreserved c := by
  have octet := b.toNat_lt
  simp only [escape, List.mem_cons, List.not_mem_nil, or_false] at h
  rcases h with rfl | rfl | rfl
  · exact Or.inl rfl
  · exact Or.inr (isUnreserved_upperHex (by omega))
  · exact Or.inr (isUnreserved_upperHex (by omega))

theorem isWritten_of_mem_encode {t : Text} {c : Char} (h : c ∈ encode t) : isWritten c := by
  obtain ⟨d, -, hc⟩ := List.mem_flatMap.1 h
  rw [encodeChar] at hc
  -- itself, a plus sign for a space, or escapes
  split_ifs at hc with unreserved space
  · rw [List.mem_singleton.1 hc]
    simp [isWritten, unreserved]
  · rw [List.mem_singleton.1 hc]
    rfl
  · obtain ⟨b, -, hb⟩ := List.mem_flatMap.1 hc
    rcases of_mem_escape hb with rfl | unreserved'
    · rfl
    · simp [isWritten, unreserved']

theorem notMem_encode {c : Char} (h : isWritten c = false) (t : Text) : c ∉ encode t :=
  fun hc => Bool.false_ne_true (h.symm.trans (isWritten_of_mem_encode hc))

/-! ### Octets of a written form -/

theorem hexValue?_upperHex {n : Nat} (h : n < 16) : Text.hexValue? (upperHex n) = some n := by
  have all : ∀ n < 16, Text.hexValue? (upperHex n) = some n := by decide
  exact all n h

theorem escaped?_upperHex (b : UInt8) :
    escaped? (upperHex (b.toNat / 16)) (upperHex (b.toNat % 16)) = some b := by
  have octet := b.toNat_lt
  have number : b.toNat / 16 * 16 + b.toNat % 16 = b.toNat := by omega
  rw [escaped?, hexValue?_upperHex (by omega), hexValue?_upperHex (by omega)]
  simp only [number, UInt8.ofNat_toNat]

theorem unescapeFrom_escape (pending : Bytes) (b : UInt8) (rest : Text) :
    unescapeFrom pending (escape b ++ rest) = unescapeFrom (b :: pending) rest := by
  show unescapeFrom pending ('%' :: upperHex (b.toNat / 16) :: upperHex (b.toNat % 16) :: rest) = _
  rw [unescapeFrom, escaped?_upperHex]

theorem unescapeFrom_escapes (pending bytes : Bytes) (rest : Text) :
    unescapeFrom pending (bytes.flatMap escape ++ rest) =
      unescapeFrom (bytes.reverse ++ pending) rest := by
  induction bytes generalizing pending with
  | nil => rfl
  | cons b bytes ih =>
    rw [List.flatMap_cons, List.append_assoc, unescapeFrom_escape, ih, List.reverse_cons,
      List.append_assoc, List.singleton_append]

theorem unescapeFrom_ascii (pending : Bytes) {c : Char} (hc : c ≠ '%') (ascii : c.toNat < 128)
    (rest : Text) :
    unescapeFrom pending (c :: rest) = unescapeFrom ((Utf8.encodeChar c).reverse ++ pending) rest := by
  have one : Utf8.encodeChar c = [UInt8.ofNat c.toNat] := if_pos ascii
  rw [unescapeFrom, if_pos ascii, one]
  · rfl
  · rintro high low tail rfl
    exact absurd rfl hc

/-- A plus sign stands for a space. -/
def unplus (c : Char) : Char := if c = '+' then ' ' else c

theorem unplus_of_ne {c : Char} (h : c ≠ '+') : unplus c = c := if_neg h

theorem map_unplus_escapes (bytes : Bytes) :
    (bytes.flatMap escape).map unplus = bytes.flatMap escape := by
  have same : ∀ c ∈ bytes.flatMap escape, unplus c = id c := by
    intro c hc
    obtain ⟨b, -, hb⟩ := List.mem_flatMap.1 hc
    rcases of_mem_escape hb with rfl | unreserved
    · rfl
    · exact unplus_of_ne (ne_of_isUnreserved unreserved (by decide))
  rw [List.map_congr_left same, List.map_id]

/-- The octets of a character are read from its written form. -/
theorem unescapeFrom_encodeChar (pending : Bytes) (c : Char) (rest : Text) :
    unescapeFrom pending ((encodeChar c).map unplus ++ rest) =
      unescapeFrom ((Utf8.encodeChar c).reverse ++ pending) rest := by
  rw [encodeChar]
  split_ifs with unreserved space
  · -- it stands for itself
    have plus := ne_of_isUnreserved unreserved (d := '+') (by decide)
    have percent := ne_of_isUnreserved unreserved (d := '%') (by decide)
    rw [List.map_singleton, unplus_of_ne plus, List.singleton_append]
    exact unescapeFrom_ascii pending percent (ascii_of_isUnreserved unreserved) rest
  · -- the plus sign has become a space before
    rw [space]
    exact unescapeFrom_ascii pending (by decide) (by decide) rest
  · rw [map_unplus_escapes, unescapeFrom_escapes]

theorem unescapeFrom_encode (pending : Bytes) (t rest : Text) :
    unescapeFrom pending ((encode t).map unplus ++ rest) =
      unescapeFrom ((Utf8.encode t).reverse ++ pending) rest := by
  induction t generalizing pending with
  | nil => rfl
  | cons c t ih =>
    rw [encode, List.flatMap_cons, List.map_append, List.append_assoc, unescapeFrom_encodeChar, ← encode,
      ih, Utf8.encode, Utf8.encode, List.flatMap_cons, List.reverse_append, List.append_assoc]

/-- **A key or a value is read back** from its written form. -/
theorem decode_encode (t : Text) : decode (encode t) = t := by
  have octets := unescapeFrom_encode [] t []
  rw [List.append_nil, List.append_nil, unescapeFrom, List.reverse_reverse, Utf8.decode_encode] at octets
  exact octets

end CurlSnippets.Percent
