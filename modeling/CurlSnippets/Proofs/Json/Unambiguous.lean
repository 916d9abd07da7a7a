import CurlSnippets.Proofs.Json.Grammar

/-!
# A text says one thing

No text says two things as JSON (`Says.unique`).  The first character of a value tells how the value goes
on; behind an item or a member, a comma or a closing bracket tells whether another one follows.
-/

namespace CurlSnippets.Json

variable {tree tree' : Document Number} {items : List (Document Number)}
  {members : List (CodeUnits × Document Number)} {c : Char} {t u v r r' : Text}

/-! ### Words and numbers -/

/-- The word that a text begins with, and what is left. -/
def literal? (t : Text) : Option (Document Number × Text) :=
  literals.findSome? fun w => (Text.after? w.1 t).map fun r => (w.2, r)

theorem literal?_append {w : Text} (h : (w, tree) ∈ literals) (r : Text) :
    literal? (w ++ r) = some (tree, r) := by
  simp only [literals, List.mem_cons, Prod.mk.injEq, List.not_mem_nil, or_false] at h
  rcases h with ⟨rfl, rfl⟩ | ⟨rfl, rfl⟩ | ⟨rfl, rfl⟩ | ⟨rfl, rfl⟩ | ⟨rfl, rfl⟩ | ⟨rfl, rfl⟩
  all_goals rfl

/-- No word begins with a digit behind its sign. -/
theorem literal?_minus (h : c.isDigit) (negative : Bool) (t : Text) :
    literal? (minus negative ++ c :: t) = none := by
  have other : ∀ d : Char, d.isDigit = false → d ≠ c := fun _ hd => (Text.ne_of_holds h hd).symm
  cases negative with
  | true => simp [literal?, literals, minus, Text.after?, other 'I' rfl]
  | false =>
    simp [literal?, literals, minus, Text.after?, other 'n' rfl, other 't' rfl, other 'f' rfl,
      other 'N' rfl, other 'I' rfl, other '-' rfl]

/-- A sign is told from the digits behind it. -/
theorem minus_append_inj {negative negative' : Bool} {whole whole' : Text} (h : IsWhole whole)
    (h' : IsWhole whole') (e : minus negative ++ (whole ++ t) = minus negative' ++ (whole' ++ u)) :
    negative = negative' ∧ whole ++ t = whole' ++ u := by
  obtain ⟨c, rest, rfl, digit⟩ := exists_whole_eq_cons h
  obtain ⟨d, rest', rfl, digit'⟩ := exists_whole_eq_cons h'
  cases negative with
  | true =>
    cases negative' with
    | true => exact ⟨rfl, (List.cons.inj e).2⟩
    | false =>
      -- a minus sign is no digit
      rw [← (List.cons.inj e).1] at digit'
      exact absurd digit' (by decide)
  | false =>
    cases negative' with
    | true =>
      rw [(List.cons.inj e).1] at digit
      exact absurd digit (by decide)
    | false => exact ⟨rfl, e⟩

theorem ScalarAt.unique (h : ScalarAt tree t r) (h' : ScalarAt tree' t r') (ends : EndsNumber r)
    (ends' : EndsNumber r') : tree = tree' ∧ r = r' := by
  generalize same : t = t' at h'
  cases h with
  | word r mem =>
    have found := literal?_append mem r
    rw [same] at found
    cases h' with
    | word r' mem' =>
      rw [literal?_append mem' r'] at found
      exact (Prod.mk.inj (Option.some.inj found)).imp Eq.symm Eq.symm
    | number negative whole =>
      -- a word where the other reading has a digit
      obtain ⟨c, rest, rfl, digit⟩ := exists_whole_eq_cons whole
      rw [List.cons_append, literal?_minus digit] at found
      cases found
  | number negative whole places power =>
    cases h' with
    | word r' mem' =>
      have found := literal?_append mem' r'
      obtain ⟨c, rest, rfl, digit⟩ := exists_whole_eq_cons whole
      rw [← same, List.cons_append, literal?_minus digit] at found
      cases found
    | number negative' whole' places' power' =>
      -- both are numbers: sign, digits, places and power are told one after the other
      obtain ⟨rfl, unsigned⟩ := minus_append_inj whole whole' same
      have front := whole?_append whole (places.stops power ends)
      rw [unsigned, whole?_append whole' (places'.stops power' ends')] at front
      obtain ⟨rfl, rfl⟩ := Prod.mk.inj (Option.some.inj front)
      have middle := fraction_of_fractionAt places power ends
      rw [fraction_of_fractionAt places' power' ends'] at middle
      obtain ⟨rfl, rfl⟩ := Prod.mk.inj middle
      have last := exponent_of_powerAt power ends
      rw [exponent_of_powerAt power' ends'] at last
      obtain ⟨rfl, rfl⟩ := Prod.mk.inj last
      exact ⟨rfl, rfl⟩

/-! ### How a value goes on -/

theorem CharsAt.unique {s s' : CodeUnits} (h : CharsAt s t r) (h' : CharsAt s' t r') :
    s = s' ∧ r = r' := by
  have read := stringFrom_of_charsAt h
  rw [stringFrom_of_charsAt h'] at read
  exact (Prod.mk.inj (Except.ok.inj read)).imp Eq.symm Eq.symm

theorem ScalarAt.starts (h : ScalarAt tree (c :: t) r) : startsScalar c := by
  obtain ⟨d, u, e, start⟩ := h.exists_eq_cons
  rwa [(List.cons.inj e).1]

theorem ValueAt.scalar_inv (h : ValueAt tree (c :: t) r) (start : startsScalar c) :
    ScalarAt tree (c :: t) r := by
  cases h with
  | scalar h => exact h
  | string => exact absurd start (by decide)
  | empty => exact absurd start (by decide)
  | array => exact absurd start (by decide)
  | emptyObject => exact absurd start (by decide)
  | object => exact absurd start (by decide)

theorem ValueAt.string_inv (h : ValueAt tree (c :: t) r) (hc : c = '"') :
    ∃ s, tree = .string s ∧ CharsAt s t r := by
  cases h with
  | scalar h => exact absurd (hc ▸ h.starts) (by decide)
  | string chars => exact ⟨_, rfl, chars⟩
  | empty => exact absurd hc (by decide)
  | array => exact absurd hc (by decide)
  | emptyObject => exact absurd hc (by decide)
  | object => exact absurd hc (by decide)

theorem ValueAt.array_inv (h : ValueAt tree (c :: t) r) (hc : c = '[') :
    (tree = .array [] ∧ skip t = ']' :: r) ∨ ∃ items, tree = .array items ∧ ItemsAt items t r := by
  cases h with
  | scalar h => exact absurd (hc ▸ h.starts) (by decide)
  | string => exact absurd hc (by decide)
  | empty gap => exact .inl ⟨rfl, skip_of_gap gap (by decide)⟩
  | array items => exact .inr ⟨_, rfl, items⟩
  | emptyObject => exact absurd hc (by decide)
  | object => exact absurd hc (by decide)

theorem ValueAt.object_inv (h : ValueAt tree (c :: t) r) (hc : c = '\x7b') :
    (tree = .object [] ∧ skip t = '\x7d' :: r) ∨
      ∃ members, tree = .object members ∧ MembersAt members t r := by
  cases h with
  | scalar h => exact absurd (hc ▸ h.starts) (by decide)
  | string => exact absurd hc (by decide)
  | empty => exact absurd hc (by decide)
  | array => exact absurd hc (by decide)
  | emptyObject gap => exact .inl ⟨rfl, skip_of_gap gap (by decide)⟩
  | object members => exact .inr ⟨_, rfl, members⟩

/-- Items are the first one and what stands behind it: the end, or the others. -/
theorem ItemsAt.inv (h : ItemsAt items t r) :
    ∃ item v, ValueAt item (skip t) v ∧ EndsNumber v ∧
      ((items = [item] ∧ skip v = ']' :: r) ∨
        ∃ rest w, items = item :: rest ∧ skip v = ',' :: w ∧ ItemsAt rest w r) := by
  cases h with
  | last gap item close =>
    refine ⟨_, _, ?_, endsNumber_of_gap_cons close (by decide),
      .inl ⟨rfl, skip_of_gap close (by decide)⟩⟩
    rwa [item.skip_eq gap]
  | next gap item comma items =>
    refine ⟨_, _, ?_, endsNumber_of_gap_cons comma (by decide),
      .inr ⟨_, _, rfl, skip_of_gap comma (by decide), items⟩⟩
    rwa [item.skip_eq gap]

/-- Members are the first one and what stands behind it: the end, or the others. -/
theorem MembersAt.inv (h : MembersAt members t r) :
    ∃ name item u v w x, skip t = '"' :: u ∧ CharsAt name u v ∧ skip v = ':' :: w ∧
      ValueAt item (skip w) x ∧ EndsNumber x ∧
      ((members = [(name, item)] ∧ skip x = '\x7d' :: r) ∨
        ∃ rest y, members = (name, item) :: rest ∧ skip x = ',' :: y ∧ MembersAt rest y r) := by
  cases h with
  | last quote chars colon gap item close =>
    refine ⟨_, _, _, _, _, _, skip_of_gap quote (by decide), chars, skip_of_gap colon (by decide), ?_,
      endsNumber_of_gap_cons close (by decide), .inl ⟨rfl, skip_of_gap close (by decide)⟩⟩
    rwa [item.skip_eq gap]
  | next quote chars colon gap item comma members =>
    refine ⟨_, _, _, _, _, _, skip_of_gap quote (by decide), chars, skip_of_gap colon (by decide), ?_,
      endsNumber_of_gap_cons comma (by decide),
      .inr ⟨_, _, rfl, skip_of_gap comma (by decide), members⟩⟩
    rwa [item.skip_eq gap]

/-- The name of a member is told from its value. -/
theorem name_unique {name name' : CodeUnits} {u' v' w w' : Text} (quote : Gap t ('"' :: u))
    (chars : CharsAt name u v) (colon : Gap v (':' :: w)) (quote' : skip t = '"' :: u')
    (chars' : CharsAt name' u' v') (colon' : skip v' = ':' :: w') : name = name' ∧ w = w' := by
  rw [skip_of_gap quote (by decide)] at quote'
  obtain rfl := (List.cons.inj quote').2
  obtain ⟨rfl, rfl⟩ := chars.unique chars'
  rw [skip_of_gap colon (by decide)] at colon'
  exact ⟨rfl, (List.cons.inj colon').2⟩

/-! ### Values -/

-- By induction on one of the readings; the inversions say what the other one is.
mutual

/-- A text begins with one value. -/
theorem ValueAt.unique : ∀ {tree tree' : Document Number} {t r r' : Text}, ValueAt tree t r →
    ValueAt tree' t r' → EndsNumber r → EndsNumber r' → tree = tree' ∧ r = r' := by
  intro tree tree' t r r' h h' ends ends'
  match h with
  | .scalar scalar =>
    obtain ⟨c, u, rfl, start⟩ := scalar.exists_eq_cons
    exact scalar.unique (h'.scalar_inv start) ends ends'
  | .string chars =>
    obtain ⟨s, rfl, chars'⟩ := h'.string_inv rfl
    obtain ⟨rfl, rfl⟩ := chars.unique chars'
    exact ⟨rfl, rfl⟩
  | .empty gap =>
    -- an array that closes at once has no items in any reading
    have close := skip_of_gap gap (by decide)
    obtain ⟨rfl, close'⟩ | ⟨items, rfl, inner'⟩ := h'.array_inv rfl
    · exact ⟨rfl, (List.cons.inj (close.symm.trans close')).2⟩
    · exact absurd close (inner'.skip_ne _)
  | .array inner =>
    obtain ⟨rfl, close⟩ | ⟨items, rfl, inner'⟩ := h'.array_inv rfl
    · exact absurd close (inner.skip_ne _)
    · obtain ⟨rfl, rfl⟩ := inner.unique inner'
      exact ⟨rfl, rfl⟩
  | .emptyObject gap =>
    have close := skip_of_gap gap (by decide)
    obtain ⟨rfl, close'⟩ | ⟨members, rfl, inner'⟩ := h'.object_inv rfl
    · exact ⟨rfl, (List.cons.inj (close.symm.trans close')).2⟩
    · exact absurd close (inner'.skip_ne _)
  | .object inner =>
    obtain ⟨rfl, close⟩ | ⟨members, rfl, inner'⟩ := h'.object_inv rfl
    · exact absurd close (inner.skip_ne _)
    · obtain ⟨rfl, rfl⟩ := inner.unique inner'
      exact ⟨rfl, rfl⟩

theorem ItemsAt.unique : ∀ {items items' : List (Document Number)} {t r r' : Text},
    ItemsAt items t r → ItemsAt items' t r' → items = items' ∧ r = r' := by
  intro items items' t r r' h h'
  obtain ⟨item', v', first', ends', rest'⟩ := h'.inv
  match h with
  | .last gap item close =>
    rw [item.skip_eq gap] at first'
    obtain ⟨rfl, rfl⟩ := item.unique first' (endsNumber_of_gap_cons close (by decide)) ends'
    rw [skip_of_gap close (by decide)] at rest'
    obtain ⟨rfl, same⟩ | ⟨rest', w, -, comma, -⟩ := rest'
    · exact ⟨rfl, (List.cons.inj same).2⟩
    · -- a bracket where the other reading has a comma
      exact absurd (List.cons.inj comma).1 (by decide)
  | .next gap item comma rest =>
    rw [item.skip_eq gap] at first'
    obtain ⟨rfl, rfl⟩ := item.unique first' (endsNumber_of_gap_cons comma (by decide)) ends'
    rw [skip_of_gap comma (by decide)] at rest'
    obtain ⟨-, close⟩ | ⟨items', w, rfl, same, rest'⟩ := rest'
    · exact absurd (List.cons.inj close).1 (by decide)
    · obtain rfl := (List.cons.inj same).2
      obtain ⟨rfl, rfl⟩ := rest.unique rest'
      exact ⟨rfl, rfl⟩

theorem MembersAt.unique : ∀ {members members' : List (CodeUnits × Document Number)} {t r r' : Text},
    MembersAt members t r → MembersAt members' t r' → members = members' ∧ r = r' := by
  intro members members' t r r' h h'
  obtain ⟨name', item', u', v', w', x', quote', chars', colon', first', ends', rest'⟩ := h'.inv
  match h with
  | .last quote chars colon gap item close =>
    obtain ⟨rfl, rfl⟩ := name_unique quote chars colon quote' chars' colon'
    rw [item.skip_eq gap] at first'
    obtain ⟨rfl, rfl⟩ := item.unique first' (endsNumber_of_gap_cons close (by decide)) ends'
    rw [skip_of_gap close (by decide)] at rest'
    obtain ⟨rfl, same⟩ | ⟨rest', w, -, comma, -⟩ := rest'
    · exact ⟨rfl, (List.cons.inj same).2⟩
    · exact absurd (List.cons.inj comma).1 (by decide)
  | .next quote chars colon gap item comma rest =>
    obtain ⟨rfl, rfl⟩ := name_unique quote chars colon quote' chars' colon'
    rw [item.skip_eq gap] at first'
    obtain ⟨rfl, rfl⟩ := item.unique first' (endsNumber_of_gap_cons comma (by decide)) ends'
    rw [skip_of_gap comma (by decide)] at rest'
    obtain ⟨-, close⟩ | ⟨members', w, rfl, same, rest'⟩ := rest'
    · exact absurd (List.cons.inj close).1 (by decide)
    · obtain rfl := (List.cons.inj same).2
      obtain ⟨rfl, rfl⟩ := rest.unique rest'
      exact ⟨rfl, rfl⟩

end

/-- **A text says one thing at most.** -/
theorem Says.unique (h : Says t tree) (h' : Says t tree') : tree = tree' := by
  obtain ⟨u, v, before, item, behind⟩ := h
  obtain ⟨u', v', before', item', behind'⟩ := h'
  obtain rfl := (item.skip_eq before).symm.trans (item'.skip_eq before')
  exact (item.unique item' (endsNumber_of_gap behind endsNumber_nil)
    (endsNumber_of_gap behind' endsNumber_nil)).1

end CurlSnippets.Json
