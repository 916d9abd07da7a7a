import CurlSnippets.Http.Response
import CurlSnippets.Proofs.Bytes.Utf8
import Mathlib.Data.List.Basic

/-!
# Base64 read back

Octets are written as the letters of their sextets with padding behind.  The letters are told from
the padding (`digits_encode`), and the sextets are the octets again (`decode?_encode`).  So a text whose
octets are sent in letters is the text of the response (`text_encode`).
-/

namespace CurlSnippets.Base64

theorem digit?_letter {n : Nat} (h : n < 64) : digit? (letter n) = some n := by
  have all : ∀ n < 64, digit? (letter n) = some n := by decide
  exact all n h

/-- A letter is one of the Latin alphabet, a digit, or one of two signs. -/
theorem letter_spec {n : Nat} (h : n < 64) :
    (letter n).isAlphanum ∨ letter n = '+' ∨ letter n = '/' := by
  have all : ∀ n < 64, (letter n).isAlphanum ∨ letter n = '+' ∨ letter n = '/' := by decide
  exact all n h

/-- The numbers of the letters that octets are written in. -/
def sextets : Bytes → List Nat
  | [] => []
  | [a] => [a.toNat / 4, a.toNat % 4 * 16]
  | [a, b] => [a.toNat / 4, a.toNat % 4 * 16 + b.toNat / 16, b.toNat % 16 * 4]
  | a :: b :: c :: rest =>
    a.toNat / 4 :: (a.toNat % 4 * 16 + b.toNat / 16) :: (b.toNat % 16 * 4 + c.toNat / 64)
      :: c.toNat % 64 :: sextets rest

/-- What is put behind the letters. -/
def padding : Bytes → Text
  | [] => []
  | [_] => ['=', '=']
  | [_, _] => ['=']
  | _ :: _ :: _ :: rest => padding rest

theorem encode_eq (bytes : Bytes) : encode bytes = (sextets bytes).map letter ++ padding bytes := by
  fun_induction encode bytes with
  | case1 => rfl
  | case2 a => rfl
  | case3 a b => rfl
  | case4 a b c rest ih => rw [ih]; rfl

theorem lt_of_mem_sextets {bytes : Bytes} : ∀ n ∈ sextets bytes, n < 64 := by
  have octet : ∀ a : UInt8, a.toNat < 256 := fun a => a.toNat_lt
  fun_induction sextets bytes with
  | case1 => simp
  | case2 a =>
    -- six bits of two octets at most
    have := octet a
    intro n hn
    simp only [List.mem_cons, List.not_mem_nil, or_false] at hn
    omega
  | case3 a b =>
    have := octet a
    have := octet b
    intro n hn
    simp only [List.mem_cons, List.not_mem_nil, or_false] at hn
    omega
  | case4 a b c rest ih =>
    have := octet a
    have := octet b
    have := octet c
    intro n hn
    simp only [List.mem_cons] at hn
    rcases hn with hn | hn | hn | hn | hn
    · omega
    · omega
    · omega
    · omega
    · exact ih n hn

theorem padding_mem (bytes : Bytes) : padding bytes ∈ [[], ['='], ['=', '=']] := by
  fun_induction padding bytes with
  | case1 => decide
  | case2 => decide
  | case3 => decide
  | case4 _ _ _ rest ih => exact ih

/-- Octets are written in letters, with two pads at most behind them. -/
theorem exists_encode_eq (bytes : Bytes) : ∃ letters pads, encode bytes = letters ++ pads ∧
    (∀ c ∈ letters, c.isAlphanum ∨ c = '+' ∨ c = '/') ∧ pads ∈ [[], ['='], ['=', '=']] := by
  refine ⟨_, _, encode_eq bytes, fun c hc => ?_, padding_mem bytes⟩
  obtain ⟨n, hn, rfl⟩ := List.mem_map.1 hc
  exact letter_spec (lt_of_mem_sextets n hn)

/-- No padding is taken for a letter. -/
theorem digits_padding (bytes : Bytes) : digits (padding bytes) = ([], padding bytes) := by
  fun_induction padding bytes with
  | case1 => rfl
  | case2 => rfl
  | case3 => rfl
  | case4 _ _ _ rest ih => exact ih

theorem digits_letters {ns : List Nat} (h : ∀ n ∈ ns, n < 64) (t : Text) :
    digits (ns.map letter ++ t) = (ns ++ (digits t).1, (digits t).2) := by
  induction ns with
  | nil => rfl
  | cons n ns ih =>
    have tail := ih fun m hm => h m (List.mem_cons_of_mem _ hm)
    have here := digit?_letter (h n (by simp))
    rw [List.map_cons, List.cons_append, digits, here]
    simp only [tail, List.cons_append]

theorem digits_encode (bytes : Bytes) : digits (encode bytes) = (sextets bytes, padding bytes) := by
  rw [encode_eq, digits_letters lt_of_mem_sextets, digits_padding, List.append_nil]

/-- The sextets are the octets again, and as many letters are left over as the padding says. -/
theorem octets_sextets (bytes : Bytes) : ∃ left, octets (sextets bytes) = (bytes, left) ∧
    ∀ letters, padded letters left (padding bytes) := by
  have octet : ∀ (a : UInt8) (n : Nat), n = a.toNat → UInt8.ofNat n = a := by
    rintro a _ rfl
    exact UInt8.ofNat_toNat
  fun_induction sextets bytes with
  | case1 => exact ⟨0, rfl, fun _ => rfl⟩
  | case2 a =>
    -- one octet has two letters, and what is left of the second is nothing
    refine ⟨2, ?_, fun _ => rfl⟩
    rw [octets, octet a _ (by omega)]
  | case3 a b =>
    have := b.toNat_lt
    refine ⟨3, ?_, fun _ => rfl⟩
    rw [octets, octet a _ (by omega), octet b _ (by omega)]
  | case4 a b c rest ih =>
    obtain ⟨left, same, pads⟩ := ih
    have := b.toNat_lt
    have := c.toNat_lt
    refine ⟨left, ?_, pads⟩
    rw [octets, same, octet a _ (by omega), octet b _ (by omega), octet c _ (by omega)]

/-- **Octets written in letters** are read back as they were. -/
theorem decode?_encode (bytes : Bytes) : decode? (encode bytes) = some bytes := by
  obtain ⟨left, same, pads⟩ := octets_sextets bytes
  rw [decode?, digits_encode]
  simp only [same, pads, if_true]

end CurlSnippets.Base64

namespace CurlSnippets.Response

/-- The text of a response that sends the octets of a text. -/
theorem text_encode (t : Text) : text (Base64.encode (Utf8.encode t)) = t := by
  rw [text, Base64.decode?_encode]
  exact Utf8.decode_encode t

end CurlSnippets.Response
