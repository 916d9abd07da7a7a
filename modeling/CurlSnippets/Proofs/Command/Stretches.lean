import CurlSnippets.Proofs.Command.QuotedText

/-!
# The stretches of a command

The second pass of the normal layout sees a text as quoted stretches, runs of blanks, and single other
characters (`stretches`).  It keeps the quoted stretches and the other characters, and writes a space
for each run (`squeeze_eq`).  Quotes need not be balanced: an apostrophe begins a stretch only if
another one closes it, and an escaped apostrophe belongs to a stretch only if the stretch is closed
behind it.

Main statements: quotes pair up in what the pass writes as they did before (`stretches_squeeze`), and a
text in normal layout stays as it is (`normalize_normalize`).
-/

namespace CurlSnippets.Command

variable {t rest : Text} {n : Nat}

/-! ### Quoted stretches -/

theorem exists_escaped_of_singleSpan? (h : singleSpan? t = some n) :
    ∃ v rest, t = escaped v ++ '\'' :: rest ∧ n = (escaped v).length + 1 ∧ ¬ Resumes rest := by
  fun_induction singleSpan? t generalizing n with
  | case1 => exact absurd h (by simp)
  | case2 rest m closed ih =>
    -- an escaped apostrophe in a stretch that is closed behind it
    obtain rfl := Option.some.inj h
    obtain ⟨v, behind, rfl, rfl, ends⟩ := ih closed
    exact ⟨'\'' :: v, behind, rfl, rfl, ends⟩
  | case3 rest unclosed _ =>
    -- an escape with no apostrophe behind it: the stretch ends in front of the escape
    obtain rfl := Option.some.inj h
    refine ⟨[], _, rfl, rfl, ?_⟩
    rintro ⟨u, same, inside⟩
    obtain rfl : rest = u := by simpa using same
    exact singleSpan?_eq_none_iff.1 unclosed inside
  | case4 rest escapeless =>
    -- any other apostrophe closes the stretch
    obtain rfl := Option.some.inj h
    refine ⟨[], _, rfl, rfl, ?_⟩
    rintro ⟨u, rfl, -⟩
    exact escapeless u rfl
  | case5 c rest _ other ih =>
    obtain ⟨m, hm, rfl⟩ := Option.map_eq_some_iff.1 h
    obtain ⟨v, behind, rfl, rfl, ends⟩ := ih hm
    refine ⟨c :: v, behind, ?_, ?_, ends⟩
    · rw [escaped_cons_of_ne other, List.cons_append]
    · rw [escaped_cons_of_ne other, List.length_cons]

theorem doubleSpan?_eq_none_iff : doubleSpan? t = none ↔ '"' ∉ t := by
  induction t with
  | nil => simp [doubleSpan?]
  | cons c t ih =>
    by_cases hc : c = '"'
    · simp [doubleSpan?, hc]
    · simp [doubleSpan?, hc, ih, Ne.symm hc]

theorem exists_append_of_doubleSpan? (h : doubleSpan? t = some n) :
    ∃ v rest, t = v ++ '"' :: rest ∧ n = v.length + 1 ∧ '"' ∉ v := by
  induction t generalizing n with
  | nil => exact absurd h (by simp [doubleSpan?])
  | cons c t ih =>
    rw [doubleSpan?] at h
    split at h
    · rename_i hc
      obtain rfl := Option.some.inj h
      exact ⟨[], t, by rw [hc]; rfl, rfl, by simp⟩
    · rename_i hc
      obtain ⟨m, hm, rfl⟩ := Option.map_eq_some_iff.1 h
      obtain ⟨v, behind, rfl, rfl, hv⟩ := ih hm
      exact ⟨c :: v, behind, rfl, rfl, by simp [hv, Ne.symm hc]⟩

/-- Whether a quoted token ends where the text behind it begins. -/
def Token.Ends (rest : Text) : Token → Prop
  | .bare _ => False
  | .single _ => ¬ Resumes rest
  | .double v => '"' ∉ v

/-- The quoted stretch that a text begins with is a quoted token that ends there. -/
theorem spanLength?_eq_some_iff : spanLength? t = some n ↔
    ∃ (token : Token) (rest : Text), t = token.text ++ rest ∧ n + 1 = token.text.length ∧
      token.Ends rest := by
  constructor
  · intro h
    rw [spanLength?.eq_def] at h
    split at h
    · obtain ⟨v, rest, rfl, rfl, ends⟩ := exists_escaped_of_singleSpan? h
      exact ⟨.single v, rest, by simp [Token.text, shell_eq], by simp [Token.text, shell_eq], ends⟩
    · obtain ⟨v, rest, rfl, rfl, hv⟩ := exists_append_of_doubleSpan? h
      exact ⟨.double v, rest, by simp [Token.text, doubleQuoted],
        by simp [Token.text, doubleQuoted], hv⟩
    · exact absurd h (by simp)
  · rintro ⟨token, rest, rfl, length, ends⟩
    cases token with
    | bare => exact ends.elim
    | single v =>
      have span := singleSpan?_escaped v ends
      simp only [Token.text, shell_eq, List.length_cons, List.length_append, List.length_nil] at length
      simp only [Token.text, shell_eq, List.cons_append, List.append_assoc, List.nil_append,
        spanLength?, span]
      simpa using length.symm
    | double v =>
      have span := doubleSpan?_append ends rest
      simp only [Token.text, doubleQuoted, List.length_cons, List.length_append,
        List.length_nil] at length
      simp only [Token.text, doubleQuoted, List.cons_append, List.append_assoc, List.nil_append,
        spanLength?, span]
      simpa using length.symm

theorem Token.Ends.exists_span {token : Token} (h : token.Ends rest) :
    ∃ c u, token.text = c :: u ∧ spanLength? (c :: (u ++ rest)) = some u.length := by
  obtain ⟨c, u, hu⟩ : ∃ c u, token.text = c :: u := by
    cases token with
    | bare => exact h.elim
    | single v => exact ⟨'\'', _, shell_eq v⟩
    | double v => exact ⟨'"', _, rfl⟩
  exact ⟨c, u, hu, spanLength?_eq_some_iff.2 ⟨token, rest, by rw [hu]; rfl, by rw [hu]; rfl, h⟩⟩

/-- A quote begins no stretch where no other one of its kind follows. -/
theorem spanLength?_cons_eq_none_iff {c : Char} : spanLength? (c :: t) = none ↔
    (c = '\'' → '\'' ∉ t) ∧ (c = '"' → '"' ∉ t) := by
  by_cases hs : c = '\''
  · subst hs
    simp [spanLength?, singleSpan?_eq_none_iff]
  · by_cases hd : c = '"'
    · subst hd
      simp [spanLength?, doubleSpan?_eq_none_iff]
    · simp [spanLength?_eq_none hs hd, hs, hd]

/-! ### Stretches -/

/-- A stretch of a text: a quoted one, a run of blanks, or any other character. -/
inductive Stretch where
  | quoted (t : Text)
  | blanks (t : Text)
  | other (c : Char)

namespace Stretch

/-- The stretch as it is written. -/
def text : Stretch → Text
  | .quoted t => t
  | .blanks t => t
  | .other c => [c]

/-- The stretch with a space for a run of blanks. -/
def tight : Stretch → Stretch
  | .quoted t => .quoted t
  | .blanks _ => .blanks [' ']
  | .other c => .other c

end Stretch

/-- The stretches of a text from left to right: where a quote begins a stretch it is taken up to its
last quote, and a run of blanks is taken as a whole. -/
def stretches : Text → List Stretch
  | [] => []
  | c :: rest =>
    match spanLength? (c :: rest) with
    | some n => .quoted (c :: rest.take n) :: stretches (rest.drop n)
    | none =>
      if Text.isBlank c then
        .blanks (c :: rest.takeWhile Text.isBlank) :: stretches (rest.dropWhile Text.isBlank)
      else .other c :: stretches rest
termination_by t => t.length
decreasing_by
  · simp only [List.length_drop, List.length_cons]
    omega
  · exact Nat.lt_succ_of_le (List.length_dropWhile_le Text.isBlank rest)
  · exact Nat.lt_succ_self _

theorem stretches_nil : stretches [] = [] := by rw [stretches]

theorem stretches_quoted {token : Token} (h : token.Ends rest) :
    stretches (token.text ++ rest) = .quoted token.text :: stretches rest := by
  obtain ⟨c, u, hu, span⟩ := h.exists_span
  rw [hu, List.cons_append, stretches, span]
  simp

theorem stretches_blanks {blanks : Text} (h : ∀ c ∈ blanks, Text.isBlank c) (hne : blanks ≠ [])
    (hr : beginsBlank rest = false) :
    stretches (blanks ++ rest) = .blanks blanks :: stretches rest := by
  obtain ⟨c, u, rfl⟩ := List.exists_cons_of_ne_nil hne
  obtain ⟨hc, hu⟩ := List.forall_mem_cons.1 h
  have unquoted : spanLength? (c :: (u ++ rest)) = none := by
    refine spanLength?_eq_none ?_ ?_ _
    · rintro rfl; exact absurd hc (by decide)
    · rintro rfl; exact absurd hc (by decide)
  have stop : rest.takeWhile Text.isBlank = [] ∧ rest.dropWhile Text.isBlank = rest := by
    cases rest with
    | nil => exact ⟨rfl, rfl⟩
    | cons d rest => simp [show Text.isBlank d = false from hr]
  rw [List.cons_append, stretches, unquoted]
  simp only [hc, if_true]
  rw [List.takeWhile_append_of_pos hu, List.dropWhile_append_of_pos hu, stop.1, stop.2,
    List.append_nil]

theorem stretches_other {c : Char} (h : spanLength? (c :: rest) = none)
    (hb : Text.isBlank c = false) : stretches (c :: rest) = .other c :: stretches rest := by
  rw [stretches, h]
  simp [hb]

/-- A property of texts that the stretches in front of a text keep holds of every text. -/
theorem stretches_induction {P : Text → Prop} (nil : P [])
    (quoted : ∀ token rest, token.Ends rest → P rest → P (Token.text token ++ rest))
    (blanks : ∀ blanks rest, (∀ c ∈ blanks, Text.isBlank c) → blanks ≠ [] →
      beginsBlank rest = false → P rest → P (blanks ++ rest))
    (other : ∀ c rest, spanLength? (c :: rest) = none → Text.isBlank c = false → P rest →
      P (c :: rest)) (t : Text) : P t := by
  fun_induction stretches t with
  | case1 => exact nil
  | case2 c rest n span ih =>
    obtain ⟨token, behind, split, length, ends⟩ := spanLength?_eq_some_iff.1 span
    obtain ⟨d, u, hu, -⟩ := ends.exists_span
    rw [hu, List.length_cons, Nat.add_right_cancel_iff] at length
    -- the token is the quote and the `n` characters behind it
    have behindDropped : rest.drop n = behind := by
      rw [hu, List.cons_append] at split
      rw [(List.cons.inj split).2, length, List.drop_left]
    rw [split]
    exact quoted token behind ends (behindDropped ▸ ih)
  | case3 c rest _ hc ih =>
    have run : c :: rest = (c :: rest.takeWhile Text.isBlank) ++ rest.dropWhile Text.isBlank := by
      rw [List.cons_append, List.takeWhile_append_dropWhile]
    rw [run]
    refine blanks _ _ (List.forall_mem_cons.2 ⟨hc, fun d => List.mem_takeWhile_imp⟩) (by simp) ?_ ih
    -- the run has all the blanks, so none comes next
    cases hd : rest.dropWhile Text.isBlank with
    | nil => rfl
    | cons d behind =>
      have first : (rest.dropWhile Text.isBlank).head? = some d := by rw [hd]; rfl
      rw [← List.find?_not_eq_head?_dropWhile] at first
      simpa [beginsBlank] using List.find?_some first
  | case4 c rest unquoted hc ih => exact other c rest unquoted (by simpa using hc) ih

/-- Put together again, the stretches are the text. -/
theorem text_stretches (t : Text) : (stretches t).flatMap Stretch.text = t := by
  induction t using stretches_induction with
  | nil => rw [stretches_nil, List.flatMap_nil]
  | quoted token rest ends ih => rw [stretches_quoted ends, List.flatMap_cons, ih]; rfl
  | blanks blanks rest h hne hr ih => rw [stretches_blanks h hne hr, List.flatMap_cons, ih]; rfl
  | other c rest unquoted hc ih => rw [stretches_other unquoted hc, List.flatMap_cons, ih]; rfl

/-! ### What squeezing keeps -/

theorem exists_squeeze_blank {c : Char} (h : Text.isBlank c) (t : Text) :
    ∃ u, squeeze 0 (c :: t) = ' ' :: u := by
  induction t generalizing c with
  | nil => exact ⟨[], by rw [squeeze_blank_cons h]; rfl⟩
  | cons d t ih =>
    -- of a run of blanks the last one becomes the space
    rw [squeeze_blank_cons h]
    split
    · rename_i hd
      exact ih hd
    · exact ⟨_, rfl⟩

/-- A character that squeezing leaves and that is no space was there before. -/
theorem squeeze_eq_cons {k : Nat} {c : Char} {u : Text} (hc : c ≠ ' ')
    (h : squeeze k t = c :: u) : ∃ j v, t = c :: v ∧ squeeze j v = u := by
  rcases t with _ | ⟨d, t⟩
  · exact absurd h (by simp [squeeze])
  rcases k with _ | k
  · -- a blank outside a stretch leaves a space, and `c` is none
    by_cases hd : Text.isBlank d
    · obtain ⟨w, hw⟩ := exists_squeeze_blank hd t
      rw [hw] at h
      exact absurd (List.cons.inj h).1.symm hc
    · rw [squeeze] at h
      split at h
      · obtain ⟨rfl, rfl⟩ := List.cons.inj h
        exact ⟨_, t, rfl, rfl⟩
      · rw [if_neg hd] at h
        obtain ⟨rfl, rfl⟩ := List.cons.inj h
        exact ⟨0, t, rfl, rfl⟩
  · -- within a stretch every character stays
    rw [squeeze] at h
    obtain ⟨rfl, rfl⟩ := List.cons.inj h
    exact ⟨k, t, rfl, rfl⟩

theorem mem_squeeze {k : Nat} {c : Char} (hc : Text.isBlank c = false) :
    c ∈ squeeze k t ↔ c ∈ t := by
  fun_induction squeeze k t with
  | case1 => rfl
  | case2 k d rest ih => rw [List.mem_cons, List.mem_cons, ih]
  | case3 d rest n span ih => rw [List.mem_cons, List.mem_cons, ih]
  | case4 d rest _ hd _ ih =>
    -- a blank in front of another one leaves nothing
    have other : c ≠ d := by rintro rfl; exact absurd hd (by simp [hc])
    rw [List.mem_cons, ih, or_iff_right other]
  | case5 d rest _ hd _ ih =>
    -- the last blank of a run leaves a space
    have other : c ≠ d := by rintro rfl; exact absurd hd (by simp [hc])
    have space : c ≠ ' ' := by rintro rfl; exact absurd hc (by decide)
    rw [List.mem_cons, List.mem_cons, ih, or_iff_right other, or_iff_right space]
  | case6 d rest _ _ ih => rw [List.mem_cons, List.mem_cons, ih]

/-- Quotes that do not go on behind a text do not go on behind it squeezed. -/
theorem Resumes.of_squeeze {k : Nat} (h : Resumes (squeeze k t)) : Resumes t := by
  obtain ⟨u, written, inside⟩ := h
  obtain ⟨_, v, rfl, escape⟩ := squeeze_eq_cons (by decide) written
  obtain ⟨_, w, rfl, quotes⟩ := squeeze_eq_cons (by decide) escape
  obtain ⟨_, behind, rfl, rfl⟩ := squeeze_eq_cons (by decide) quotes
  exact ⟨behind, rfl, (mem_squeeze (by decide)).1 inside⟩

theorem Token.Ends.squeeze {token : Token} (h : token.Ends rest) (k : Nat) :
    token.Ends (Command.squeeze k rest) := by
  cases token with
  | bare => exact h
  -- only here does the end depend on what follows
  | single v => exact mt Resumes.of_squeeze h
  | double v => exact h

/-- What begins no stretch begins none when the text behind it is squeezed. -/
theorem spanLength?_cons_squeeze {k : Nat} {c : Char} :
    spanLength? (c :: squeeze k t) = none ↔ spanLength? (c :: t) = none := by
  rw [spanLength?_cons_eq_none_iff, spanLength?_cons_eq_none_iff, mem_squeeze (by decide),
    mem_squeeze (by decide)]

theorem beginsBreak_of_squeeze {k : Nat} (h : beginsBreak (squeeze k t)) : beginsBreak t := by
  rw [beginsBreak_iff] at h ⊢
  obtain ⟨u, short⟩ | ⟨u, long⟩ := h
  · obtain ⟨_, v, rfl, -⟩ := squeeze_eq_cons (by decide) short
    exact .inl ⟨v, rfl⟩
  · obtain ⟨_, v, rfl, tail⟩ := squeeze_eq_cons (by decide) long
    obtain ⟨_, w, rfl, -⟩ := squeeze_eq_cons (by decide) tail
    exact .inr ⟨w, rfl⟩

theorem continuesLine_cons_squeeze {c : Char} {k : Nat} (h : continuesLine (c :: t) = false)
    (tail : continuesLine (squeeze k t) = false) : continuesLine (c :: squeeze k t) = false := by
  rw [continuesLine_cons, continuation_cons, Bool.or_eq_false_iff, Bool.and_eq_false_iff] at h
  -- squeezing makes no line break behind `c`
  have head : (decide (c = '\\') && beginsBreak (squeeze k t)) = false :=
    Bool.and_eq_false_iff.2 <| h.1.imp_right fun unbroken => Bool.eq_false_iff.2 fun broken =>
      Bool.eq_false_iff.1 unbroken (beginsBreak_of_squeeze broken)
  rw [continuesLine_cons, continuation_cons, head, tail, Bool.or_false]

/-- Squeezing brings no line continuation about. -/
theorem continuesLine_squeeze {k : Nat} (h : continuesLine t = false) :
    continuesLine (squeeze k t) = false := by
  have behind : ∀ {c : Char} {u : Text}, continuesLine (c :: u) = false →
      continuesLine u = false := by
    intro c u hu
    rw [continuesLine_cons, Bool.or_eq_false_iff] at hu
    exact hu.2
  fun_induction squeeze k t with
  | case1 => rfl
  | case2 k c rest ih => exact continuesLine_cons_squeeze h (ih (behind h))
  | case3 c rest n _ ih => exact continuesLine_cons_squeeze h (ih (behind h))
  | case4 c rest _ _ _ ih => exact ih (behind h)
  | case5 c rest _ _ _ ih =>
    rw [continuesLine_cons, continuation_eq_false (by decide), ih (behind h), Bool.or_false]
  | case6 c rest _ _ ih => exact continuesLine_cons_squeeze h (ih (behind h))

/-! ### The stretches of a squeezed text -/

theorem squeeze_quoted {token : Token} (h : token.Ends rest) :
    squeeze 0 (token.text ++ rest) = token.text ++ squeeze 0 rest := by
  obtain ⟨c, u, hu, span⟩ := h.exists_span
  rw [hu, List.cons_append, squeeze_span span, List.cons_append]

theorem squeeze_other {c : Char} (h : spanLength? (c :: rest) = none)
    (hb : Text.isBlank c = false) : squeeze 0 (c :: rest) = c :: squeeze 0 rest := by
  simp [squeeze, h, hb]

theorem beginsBlank_squeeze (h : beginsBlank t = false) : beginsBlank (squeeze 0 t) = false := by
  cases t with
  | nil => rfl
  | cons c t =>
    have hc : Text.isBlank c = false := h
    rw [squeeze]
    split
    · exact hc
    · rw [hc, if_neg Bool.false_ne_true]
      exact hc

/-- **Squeezing changes no quotes.**  The stretches of a squeezed text are those of the text, with a
space for each run of blanks. -/
theorem stretches_squeeze (t : Text) :
    stretches (squeeze 0 t) = (stretches t).map Stretch.tight := by
  induction t using stretches_induction with
  | nil => rw [squeeze, stretches_nil, List.map_nil]
  | quoted token rest ends ih =>
    rw [squeeze_quoted ends, stretches_quoted (ends.squeeze 0), ih, stretches_quoted ends]
    rfl
  | blanks blanks rest h hne hr ih =>
    -- no second run begins behind the space
    have space : stretches ([' '] ++ squeeze 0 rest) = .blanks [' '] :: stretches (squeeze 0 rest) :=
      stretches_blanks (List.forall_mem_singleton.2 (by decide)) (by simp) (beginsBlank_squeeze hr)
    rw [squeeze_blanks h hne hr, ← List.singleton_append, space, ih, stretches_blanks h hne hr]
    rfl
  | other c rest unquoted hc ih =>
    rw [squeeze_other unquoted hc, stretches_other (spanLength?_cons_squeeze.2 unquoted) hc, ih,
      stretches_other unquoted hc]
    rfl

/-- The second pass keeps quoted stretches and writes a space for each run of blanks. -/
theorem squeeze_eq (t : Text) : squeeze 0 t = (stretches t).flatMap fun s => s.tight.text := by
  rw [← text_stretches (squeeze 0 t), stretches_squeeze, List.flatMap_map]

/-- A text is left as it is if each run of blanks outside quotes in it is one space. -/
theorem squeeze_eq_self (h : ∀ b, .blanks b ∈ stretches t → b = [' ']) : squeeze 0 t = t := by
  have kept : (stretches t).flatMap (fun s => s.tight.text) = (stretches t).flatMap Stretch.text := by
    refine List.flatMap_congr fun s hs => ?_
    cases s with
    | quoted u => rfl
    | other c => rfl
    | blanks b => rw [h b hs]; rfl
  rw [squeeze_eq, kept, text_stretches]

/-- Each run of blanks outside quotes is squeezed to one space. -/
theorem eq_space_of_mem_stretches_squeeze {b : Text} (h : .blanks b ∈ stretches (squeeze 0 t)) :
    b = [' '] := by
  rw [stretches_squeeze] at h
  obtain ⟨s, -, hs⟩ := List.mem_map.1 h
  cases s with
  | quoted | other => exact absurd hs (by simp [Stretch.tight])
  | blanks u => exact (Stretch.blanks.inj hs).symm

/-! ### Blanks at either end -/

theorem Resumes.of_append {y : Text} (hy : '\'' ∉ y) (h : Resumes (t ++ y)) : Resumes t := by
  obtain ⟨u, written, inside⟩ := h
  have split : t ++ y = ['\\', '\'', '\''] ++ u := written
  rcases List.append_eq_append_iff.1 split with ⟨v, -, rfl⟩ | ⟨v, rfl, rfl⟩
  · -- an apostrophe would stand in `y`
    exact absurd (List.mem_append_right v inside) hy
  · exact ⟨v, rfl, (List.mem_append.1 inside).resolve_right hy⟩

section Blanks

variable {blanks : Text} (h : ∀ c ∈ blanks, Text.isBlank c)

include h

theorem notMem_of_blanks {c : Char} (hc : Text.isBlank c = false) : c ∉ blanks :=
  fun hb => Bool.eq_false_iff.1 hc (h c hb)

theorem Token.Ends.append_blanks {token : Token} (ends : token.Ends rest) :
    token.Ends (rest ++ blanks) := by
  cases token with
  | bare => exact ends
  | single v => exact mt (Resumes.of_append (notMem_of_blanks h (by decide))) ends
  | double v => exact ends

/-- Blanks behind a text that ends in none make no stretch of it another one. -/
theorem mem_stretches_append_blanks {s : Stretch} (last : ∀ c ∈ t.getLast?, Text.isBlank c = false)
    (hs : s ∈ stretches t) : s ∈ stretches (t ++ blanks) := by
  have behind : ∀ {u v : Text}, (∀ c ∈ (u ++ v).getLast?, Text.isBlank c = false) →
      ∀ c ∈ v.getLast?, Text.isBlank c = false := by
    intro u v huv c hc
    exact huv c (by rw [List.getLast?_append, Option.mem_def.1 hc]; rfl)
  induction t using stretches_induction with
  | nil => exact absurd hs (by simp [stretches_nil])
  | quoted token rest ends ih =>
    rw [stretches_quoted ends, List.mem_cons] at hs
    rw [List.append_assoc, stretches_quoted (ends.append_blanks h), List.mem_cons]
    exact hs.imp_right (ih (behind last))
  | blanks run rest hrun hne hr ih =>
    rw [stretches_blanks hrun hne hr, List.mem_cons] at hs
    obtain ⟨d, v, rfl⟩ : ∃ d v, rest = d :: v := by
      -- the run cannot be what the text ends in
      refine List.exists_cons_of_ne_nil fun empty => ?_
      rw [empty, List.append_nil, List.getLast?_eq_some_getLast hne] at last
      exact Bool.eq_false_iff.1 (last _ rfl) (hrun _ (List.getLast_mem hne))
    have start : beginsBlank (d :: v ++ blanks) = false := hr
    rw [List.append_assoc, stretches_blanks hrun hne start, List.mem_cons]
    exact hs.imp_right (ih (behind last))
  | other c rest unquoted hc ih =>
    rw [stretches_other unquoted hc, List.mem_cons] at hs
    have still : spanLength? (c :: (rest ++ blanks)) = none := by
      rw [spanLength?_cons_eq_none_iff] at unquoted ⊢
      simpa [List.mem_append, notMem_of_blanks h (show Text.isBlank '\'' = false by decide),
        notMem_of_blanks h (show Text.isBlank '"' = false by decide)] using unquoted
    rw [List.cons_append, stretches_other still hc, List.mem_cons]
    exact hs.imp_right (ih (behind (u := [c]) last))

theorem mem_stretches_blanks_append {s : Stretch} (first : beginsBlank t = false)
    (hs : s ∈ stretches t) : s ∈ stretches (blanks ++ t) := by
  by_cases hne : blanks = []
  · rwa [hne, List.nil_append]
  · rw [stretches_blanks h hne first]
    exact List.mem_cons_of_mem _ hs

end Blanks

theorem mem_stretches_of_trim {s : Stretch} (hs : s ∈ stretches (Text.trim t)) :
    s ∈ stretches t := by
  obtain ⟨x, y, hx, hy, split⟩ := Text.exists_trim t
  -- what is left begins with no blank, or nothing is left
  have first : beginsBlank (Text.trim t ++ y) = false ∨ Text.trim t = [] := by
    cases htrim : Text.trim t with
    | nil => exact .inr rfl
    | cons c u => exact .inl (Text.isBlank_head?_trim t c (by rw [htrim]; rfl))
  rcases first with first | none
  · rw [split]
    exact mem_stretches_blanks_append hx first
      (mem_stretches_append_blanks hy (Text.isBlank_getLast?_trim t) hs)
  · rw [none, stretches_nil] at hs
    exact absurd hs (by simp)

/-! ### The normal layout again -/

/-- **A command in normal layout stays as it is**, whatever its quotes look like.  No blank stands at
either end of it, and each run of blanks outside its quotes is one space. -/
theorem normalize_normalize (command : Text) :
    normalize (normalize command) = normalize command ∧
      (∀ c ∈ (normalize command).head?, Text.isBlank c = false) ∧
      (∀ c ∈ (normalize command).getLast?, Text.isBlank c = false) ∧
      ∀ run, .blanks run ∈ stretches (normalize command) → run = [' '] := by
  have first : ∀ c ∈ (normalize command).head?, Text.isBlank c = false :=
    Text.isBlank_head?_trim _
  have last : ∀ c ∈ (normalize command).getLast?, Text.isBlank c = false :=
    Text.isBlank_getLast?_trim _
  have spaces : ∀ run, .blanks run ∈ stretches (normalize command) → run = [' '] := fun run hrun =>
    eq_space_of_mem_stretches_squeeze (mem_stretches_of_trim hrun)
  -- squeezing and trimming bring no continuation about, so there is none left to join
  have unbroken : continuesLine (normalize command) = false :=
    continuesLine_of_infix (Text.trim_infix _) (continuesLine_squeeze (continuesLine_joinLines _))
  refine ⟨?_, first, last, spaces⟩
  -- each of the three passes finds its work done
  calc normalize (normalize command)
      = Text.trim (squeeze 0 (joinLines (normalize command))) := rfl
    _ = Text.trim (squeeze 0 (normalize command)) := by rw [joinLines_of_continuesLine unbroken]
    _ = Text.trim (normalize command) := by rw [squeeze_eq_self spaces]
    _ = normalize command := Text.trim_eq_self first last

end CurlSnippets.Command
