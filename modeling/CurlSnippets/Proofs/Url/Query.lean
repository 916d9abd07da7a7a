import CurlSnippets.Proofs.Fields
import CurlSnippets.Proofs.Form.Encoded
import CurlSnippets.Url.Query

/-!
# Query parameters of a form

A form's text behind a question mark is the query of the url, whatever stands in front that has no
delimiter of its own, and is read back as the fields of the form (`queryParams_encode`).
-/

namespace CurlSnippets.Url

/-- Whether a character is of ASCII and neither ends what stands in front of a query nor is a bracket. -/
def isAhead (c : Char) : Bool := c.toNat < 128 && c ∉ ['?', '#', '[', ']']

section Ahead

variable {base query : Text}

theorem notMem_of_ahead (h : ∀ c ∈ base, isAhead c) {c : Char} (hc : isAhead c = false) : c ∉ base :=
  fun mem => Bool.false_ne_true (hc.symm.trans (h c mem))

/-- A question mark ends the characters that are dropped in front of a url. -/
theorem cleaned_append (h : ∀ c ∈ query, c ≠ '\t' ∧ c ≠ '\n' ∧ c ≠ '\r') (base : Text) :
    cleaned (base ++ '?' :: query) = cleaned base ++ '?' :: query := by
  have kept : ('?' :: query).filter (fun c => c ≠ '\t' && c ≠ '\n' && c ≠ '\r') = '?' :: query := by
    refine List.filter_eq_self.2 (List.forall_mem_cons.2 ⟨by decide, fun c hc => ?_⟩)
    obtain ⟨tab, feed, carriage⟩ := h c hc
    simp [tab, feed, carriage]
  have stop : isSpaceOrControl '?' = false := by decide
  rw [cleaned, Text.dropWhile_append_cons stop, List.filter_append, kept, ← cleaned]

theorem cleaned_subset (base : Text) : cleaned base ⊆ base :=
  (List.filter_sublist.trans (List.dropWhile_sublist _)).subset

theorem cutScheme_of_notMem {url : Text} (h : ':' ∉ url) : cutScheme url = ([], url) := by
  rw [cutScheme, Text.cut_of_notMem h]
  cases url <;> rfl

/-- A colon that ends a scheme stands in front of the query. -/
theorem exists_cutScheme (h : ':' ∉ query) (base : Text) :
    ∃ scheme rest, rest ⊆ base ∧ cutScheme (base ++ query) = (scheme, rest ++ query) := by
  by_cases hc : ':' ∈ base
  · obtain ⟨before, behind, rfl, colonless⟩ := List.eq_append_cons_of_mem hc
    have whole : before ++ ':' :: behind ++ query = before ++ ':' :: (behind ++ query) := by simp
    rw [cutScheme, whole, Text.cut_append colonless, ← whole]
    cases before with
    -- nothing stands in front of the colon, so it ends no scheme
    | nil => exact ⟨[], _, List.Subset.refl _, rfl⟩
    | cons c scheme =>
      dsimp only
      split_ifs
      · exact ⟨_, behind, fun d hd => by simp [hd], rfl⟩
      · exact ⟨[], _, List.Subset.refl _, rfl⟩
  · have colonless : ':' ∉ base ++ query := by simp [hc, h]
    exact ⟨[], base, List.Subset.refl _, cutScheme_of_notMem colonless⟩

theorem after?_slashes (base query : Text) : Text.after? "//" (base ++ '?' :: query) =
    (Text.after? "//" base).map (· ++ '?' :: query) :=
  Text.after?_append_of_notMem (by decide) base query

/-- A question mark ends the authority. -/
theorem authorityOf_append (base query : Text) :
    authorityOf (base ++ '?' :: query) = authorityOf base := by
  rw [authorityOf, after?_slashes, authorityOf]
  cases Text.after? "//" base with
  | none => rfl
  | some rest => exact Text.takeWhile_append_cons (by decide) rest query

theorem pathOf_append (base query : Text) :
    pathOf (base ++ '?' :: query) = pathOf base ++ '?' :: query := by
  rw [pathOf, after?_slashes, pathOf]
  cases Text.after? "//" base with
  | none => rfl
  | some rest => exact Text.dropWhile_append_cons (by decide) rest query

theorem authorityOf_subset (base : Text) : authorityOf base ⊆ base := by
  rw [authorityOf]
  cases behind : Text.after? "//" base with
  | none => exact List.nil_subset _
  | some rest =>
    rw [Text.eq_append_of_after? behind]
    exact List.subset_append_of_subset_right _ (List.takeWhile_sublist _).subset

theorem pathOf_subset (base : Text) : pathOf base ⊆ base := by
  rw [pathOf]
  cases behind : Text.after? "//" base with
  | none => exact List.Subset.refl _
  | some rest =>
    rw [Text.eq_append_of_after? behind]
    exact List.subset_append_of_subset_right _ (List.dropWhile_sublist _).subset

/-- What hides a delimiter is beyond ASCII. -/
theorem hidesDelimiter_of_ascii {c : Char} (h : c.toNat < 128) : hidesDelimiter c = false := by
  have all : ∀ n < 128, hidesDelimiter (Char.ofNat n) = false := by decide
  have here := all c.toNat h
  rwa [Char.ofNat_toNat] at here

theorem checkAuthority_of_ahead {authority : Text} (h : ∀ c ∈ authority, isAhead c) :
    checkAuthority authority = .ok () := by
  have opening : authority.contains '[' = false := by simpa using notMem_of_ahead h rfl
  have closing : authority.contains ']' = false := by simpa using notMem_of_ahead h rfl
  have hidden : authority.any hidesDelimiter = false := by
    refine List.any_eq_false.2 fun c hc => ?_
    have ascii : c.toNat < 128 := by
      have here := h c hc
      rw [isAhead, Bool.and_eq_true, decide_eq_true_eq] at here
      exact here.1
    simp [hidesDelimiter_of_ascii ascii]
  rw [checkAuthority, opening, closing, hidden]
  rfl

theorem queryOf_append {path : Text} (hash : '#' ∉ path ++ query) (mark : '?' ∉ path) :
    queryOf (path ++ '?' :: query) = query := by
  have noFragment : '#' ∉ path ++ '?' :: query := by simpa using hash
  rw [queryOf, Text.cut_of_notMem noFragment, Text.cut_append mark, Option.getD_some]

/-- The characters that are dropped from a query, and those that a url is cut at. -/
def offQuery : List Char := ['\t', '\n', '\r', ':', '#']

/-- A query is found behind whatever stands in front. -/
theorem exists_parts (ahead : ∀ c ∈ base, isAhead c) (h : ∀ c ∈ offQuery, c ∉ query) :
    ∃ scheme authority, parts (base ++ '?' :: query) = .ok ⟨scheme, authority, query⟩ := by
  -- a query has neither what is dropped nor what a url is cut at
  have kept : ∀ c ∈ query, c ≠ '\t' ∧ c ≠ '\n' ∧ c ≠ '\r' := by
    intro c hc
    refine ⟨?_, ?_, ?_⟩ <;> rintro rfl <;> exact h _ (by decide) hc
  have colonless : ':' ∉ '?' :: query := by simp [h ':' (by decide)]
  obtain ⟨scheme, rest, inside, cut⟩ := exists_cutScheme colonless (cleaned base)
  -- and what stands ahead of it has no delimiter
  have ahead_rest : ∀ c ∈ rest, isAhead c := fun c hc => ahead c (cleaned_subset base (inside hc))
  have ahead_path : ∀ c ∈ pathOf rest, isAhead c := fun c hc => ahead_rest c (pathOf_subset rest hc)
  have mark : '?' ∉ pathOf rest := notMem_of_ahead ahead_path (by decide)
  have number : '#' ∉ pathOf rest := notMem_of_ahead ahead_path (by decide)
  have fragment : '#' ∉ pathOf rest ++ query := by simp [number, h '#' (by decide)]
  have authority := checkAuthority_of_ahead fun c hc => ahead_rest c (authorityOf_subset rest hc)
  refine ⟨scheme, authorityOf rest, ?_⟩
  rw [parts, cleaned_append kept, cut]
  simp only [authorityOf_append, authority, pathOf_append, queryOf_append fragment mark]

end Ahead

/-- **A form's fields are read back** from the query that they are written into. -/
theorem queryParams_encode {base : Text} (h : ∀ c ∈ base, isAhead c) (f : Fields) :
    queryParams (base ++ '?' :: Form.encode f) = Form.sent f := by
  have off : ∀ c ∈ offQuery, Form.isWritten c = false := by decide
  obtain ⟨scheme, authority, found⟩ := exists_parts h fun c hc => Form.notMem_encode (off c hc) f
  rw [queryParams, found]
  show Fields.ofList (Form.decodePairs (Form.encode f)) = Form.sent f
  rw [Form.decodePairs_encode, Fields.ofList_entries]

/-- Delimiters inside names and values, an empty name, a character beyond ASCII, and an empty value,
which a form does not send, behind a url that begins with a space and holds a line break. -/
theorem queryParams_encode_delimiters :
    (∀ c ∈ (" https://u:p@h:80/a\n&b=%20+" : Text), isAhead c) ∧
      queryParams (" https://u:p@h:80/a\n&b=%20+" ++ '?' ::
        Form.encode ⟨[([], "&=+% #?"), ("a:b", []), ("é", "%41\t\"")], by decide⟩) =
      ⟨[([], "&=+% #?"), ("é", "%41\t\"")], by decide⟩ :=
  ⟨by decide,
    queryParams_encode (by decide)
      ⟨[([], "&=+% #?"), ("a:b", []), ("é", "%41\t\"")], by decide⟩⟩

end CurlSnippets.Url
