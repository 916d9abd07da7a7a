import CurlSnippets.Form.Encoded
import CurlSnippets.Proofs.Form.Percent
import CurlSnippets.Proofs.Text.Laws

/-!
# Form fields read back

The separators of a form are no characters of its keys and values, so the fields of its text are the
fields that it sends (`decodePairs_encode`).
-/

namespace CurlSnippets.Form

theorem decodePair?_encodePair (p : Text × Text) : decodePair? (encodePair p) = some p := by
  have key : '=' ∉ Percent.encode p.1 := Percent.notMem_encode rfl p.1
  have apart : Text.cut '=' (encodePair p) = (Percent.encode p.1, some (Percent.encode p.2)) := by
    rw [encodePair, List.append_assoc, List.singleton_append, Text.cut_append key]
  have some_field : (encodePair p).isEmpty = false := by simp [encodePair]
  rw [decodePair?, some_field, apart]
  simp only [Bool.false_eq_true, if_false, Option.getD_some, Percent.decode_encode]

/-- Whether a character can stand in the text of a form. -/
def isWritten (c : Char) : Bool := Percent.isWritten c || c = '=' || c = '&'

theorem isWritten_of_mem_encodePair {p : Text × Text} {c : Char} (h : c ∈ encodePair p) :
    isWritten c := by
  simp only [encodePair, List.mem_append, List.mem_singleton] at h
  rcases h with (h | rfl) | h
  · simp [isWritten, Percent.isWritten_of_mem_encode h]
  · rfl
  · simp [isWritten, Percent.isWritten_of_mem_encode h]

theorem ampersand_notMem_encodePair (p : Text × Text) : '&' ∉ encodePair p := by
  have part : ∀ t, '&' ∉ Percent.encode t := Percent.notMem_encode rfl
  simp [encodePair, part]

theorem isWritten_of_mem_encode {f : Fields} {c : Char} (h : c ∈ encode f) : isWritten c := by
  have pieces : ∀ p ∈ (sent f).entries.map encodePair, ∀ c ∈ p, isWritten c := by
    intro p hp c hc
    obtain ⟨q, -, rfl⟩ := List.mem_map.1 hp
    exact isWritten_of_mem_encodePair hc
  rw [encode] at h
  cases written : (sent f).entries.map encodePair with
  | nil => rw [written] at h; exact absurd h List.not_mem_nil
  | cons p ps =>
    rw [written] at h pieces
    rw [Text.join_cons, List.mem_append, List.mem_flatMap] at h
    -- in the first pair, or in a separator or the pair behind it
    rcases h with h | ⟨q, hq, h⟩
    · exact pieces p List.mem_cons_self c h
    · rcases List.mem_append.1 h with h | h
      · rw [List.mem_singleton.1 h]
        rfl
      · exact pieces q (List.mem_cons_of_mem _ hq) c h

theorem notMem_encode {c : Char} (h : isWritten c = false) (f : Fields) : c ∉ encode f :=
  fun hc => Bool.false_ne_true (h.symm.trans (isWritten_of_mem_encode hc))

/-- The fields of a form's text are the fields that the form sends. -/
theorem decodePairs_encode (f : Fields) : decodePairs (encode f) = (sent f).entries := by
  have each : ((sent f).entries.map encodePair).filterMap decodePair? = (sent f).entries := by
    have back : decodePair? ∘ encodePair = some := funext decodePair?_encodePair
    rw [List.filterMap_map, back, List.filterMap_some]
  have pieces : ∀ p ∈ (sent f).entries.map encodePair, '&' ∉ p := by
    intro p hp
    obtain ⟨q, -, rfl⟩ := List.mem_map.1 hp
    exact ampersand_notMem_encodePair q
  rw [decodePairs, encode]
  by_cases empty : (sent f).entries.map encodePair = []
  · -- the empty text splits into one empty piece, which is no field
    rw [empty] at each ⊢
    exact each
  · rw [Text.split_join empty pieces, each]

end CurlSnippets.Form
