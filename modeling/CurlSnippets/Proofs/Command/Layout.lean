import CurlSnippets.Command.Layout
import CurlSnippets.Proofs.Command.Places

/-!
# What the normal layout keeps

A command laid out in pieces: bare words, words in apostrophes, or several of these with a space
between them.  A piece is `Kept` if neither pass of the normal layout changes it where a blank or the
end follows.  Bare words and words in apostrophes are kept (`Kept.bare`, `Kept.shell`), and so are
two kept pieces with a space between them (`Kept.spaced`).

Main statement: a command of kept pieces comes out as the pieces with one space between them, whatever
gaps of blanks and line continuations stand between them and at either end (`normalize_arranged`).
-/

namespace CurlSnippets.Command

/-! ### Line continuations -/

theorem joinLines_cons {c : Char} {t : Text} (h : continuation none (c :: t) = false) :
    joinLines (c :: t) = c :: joinLines t := by
  rw [joinLines]
  · rintro u rfl rfl
    simp [continuation, Text.beginsWith, Text.after?] at h
  · rintro u rfl rfl
    simp [continuation, Text.beginsWith, Text.after?] at h

/-- A text is left as it is in front of anything that does not make a continuation of its end. -/
theorem joinLines_append {t rest : Text} (before : Option Char)
    (h : continuation.occurs rest before t = false) :
    joinLines (t ++ rest) = t ++ joinLines rest := by
  induction t generalizing before with
  | nil => rfl
  | cons c t ih =>
    rw [Place.occurs_cons, Bool.or_eq_false_iff] at h
    have head : joinLines (c :: (t ++ rest)) = c :: joinLines (t ++ rest) := joinLines_cons h.1
    rw [List.cons_append, head, ih _ h.2, List.cons_append]

/-- No continuation begins in a text without line feeds that ends in neither a backslash nor a
carriage return. -/
theorem occurs_continuation_of_bare {t : Text} (h : ∀ c ∈ t, c ≠ '\n')
    (last : ∀ c ∈ t.getLast?, c ≠ '\\' ∧ c ≠ '\r') (rest : Text) (before : Option Char) :
    continuation.occurs rest before t = false := by
  induction t generalizing before with
  | nil => rfl
  | cons c t ih =>
    have tail : continuation.occurs rest (some c) t = false := by
      refine ih (fun d hd => h d (List.mem_cons_of_mem _ hd)) (fun d hd => last d ?_) _
      simp [List.getLast?_cons, Option.mem_def.1 hd]
    rw [Place.occurs_cons, tail, Bool.or_false]
    -- a continuation is at most three characters long, so two more decide
    match t with
    | [] =>
      have hc := (last c (by simp)).1
      simp [continuation, Text.beginsWith, Text.after?, Ne.symm hc]
    | [d] =>
      have hd := (last d (by simp)).2
      have hn := h d (by simp)
      simp [continuation, Text.beginsWith, Text.after?, Ne.symm hd, Ne.symm hn]
    | d :: e :: t =>
      have hd := h d (by simp)
      have he := h e (by simp)
      simp [continuation, Text.beginsWith, Text.after?, Ne.symm hd, Ne.symm he]

/-! ### Gaps -/

/-- Blanks and line continuations. -/
inductive Gap : Text → Prop where
  | nil : Gap []
  | blank {c : Char} {t : Text} : Text.isBlank c → Gap t → Gap (c :: t)
  | lineFeed {t : Text} : Gap t → Gap ('\\' :: '\n' :: t)
  | carriageReturn {t : Text} : Gap t → Gap ('\\' :: '\r' :: '\n' :: t)

theorem joinLines_blank_cons {c : Char} (h : Text.isBlank c) (t : Text) :
    joinLines (c :: t) = c :: joinLines t := by
  have hc : c ≠ '\\' := by rintro rfl; exact absurd h (by decide)
  exact joinLines_cons (by simp [continuation, Text.beginsWith, Text.after?, Ne.symm hc])

theorem Gap.joinLines_append {gap : Text} (h : Gap gap) (rest : Text) :
    joinLines (gap ++ rest) = joinLines gap ++ joinLines rest := by
  induction h with
  | nil => rfl
  | blank hc _ ih => simp only [List.cons_append, joinLines_blank_cons hc, ih]
  | lineFeed _ ih => simp [joinLines, ih]
  | carriageReturn _ ih => simp [joinLines, ih]

theorem Gap.isBlank_joinLines {gap : Text} (h : Gap gap) :
    ∀ c ∈ joinLines gap, Text.isBlank c := by
  have space : Text.isBlank ' ' = true := by decide
  induction h with
  | nil => simp [joinLines]
  | blank hc _ ih => simpa [joinLines_blank_cons hc, hc] using ih
  | lineFeed _ ih => simpa [joinLines, space] using ih
  | carriageReturn _ ih => simpa [joinLines, space] using ih

theorem Gap.joinLines_ne_nil {gap : Text} (h : Gap gap) (hne : gap ≠ []) :
    joinLines gap ≠ [] := by
  cases h with
  | nil => exact absurd rfl hne
  | blank hc _ => simp [joinLines_blank_cons hc]
  | lineFeed _ => simp [joinLines]
  | carriageReturn _ => simp [joinLines]

/-! ### Squeezing -/

/-- Whether a text is at its end, or goes on with a blank. -/
def Parted (t : Text) : Prop := ∀ c ∈ t.head?, Text.isBlank c

theorem parted_nil : Parted [] := by simp [Parted]

theorem parted_cons {c : Char} (h : Text.isBlank c) (t : Text) : Parted (c :: t) := by
  simp [Parted, h]

theorem squeeze_taken (x rest : Text) : squeeze x.length (x ++ rest) = x ++ squeeze 0 rest := by
  induction x with
  | nil => rfl
  | cons c x ih => simp [squeeze, ih]

/-- A quoted stretch is left as it is. -/
theorem squeeze_span {c : Char} {x rest : Text}
    (h : spanLength? (c :: (x ++ rest)) = some x.length) :
    squeeze 0 (c :: (x ++ rest)) = c :: (x ++ squeeze 0 rest) := by
  simp only [squeeze, h, squeeze_taken]

theorem spanLength?_eq_none {c : Char} (hs : c ≠ '\'') (hd : c ≠ '"') (t : Text) :
    spanLength? (c :: t) = none := by
  rw [spanLength?]
  · intro u e; exact absurd (List.cons_eq_cons.1 e).1 hs
  · intro u e; exact absurd (List.cons_eq_cons.1 e).1 hd

theorem squeeze_bare_cons {c : Char} (hb : Text.isBlank c = false) (hs : c ≠ '\'') (hd : c ≠ '"')
    (t : Text) : squeeze 0 (c :: t) = c :: squeeze 0 t := by
  simp [squeeze, spanLength?_eq_none hs hd, hb]

theorem squeeze_blank_cons {c : Char} (h : Text.isBlank c) (t : Text) :
    squeeze 0 (c :: t) = if beginsBlank t then squeeze 0 t else ' ' :: squeeze 0 t := by
  have hs : c ≠ '\'' := by rintro rfl; exact absurd h (by decide)
  have hd : c ≠ '"' := by rintro rfl; exact absurd h (by decide)
  simp [squeeze, spanLength?_eq_none hs hd, h]

/-- Of a run of blanks one space is left. -/
theorem squeeze_blanks {blanks rest : Text} (h : ∀ c ∈ blanks, Text.isBlank c) (hne : blanks ≠ [])
    (hr : beginsBlank rest = false) : squeeze 0 (blanks ++ rest) = ' ' :: squeeze 0 rest := by
  induction blanks with
  | nil => exact absurd rfl hne
  | cons c blanks ih =>
    rw [List.cons_append, squeeze_blank_cons (h c (by simp))]
    -- the last blank of the run is the one that becomes the space
    cases blanks with
    | nil => simp [hr]
    | cons d blanks =>
      have hd : beginsBlank (d :: blanks ++ rest) = true := h d (by simp)
      rw [if_pos hd]
      exact ih (fun e he => h e (List.mem_cons_of_mem _ he)) (by simp)

/-- Blanks alone leave a space at most. -/
theorem isBlank_squeeze {blanks : Text} (h : ∀ c ∈ blanks, Text.isBlank c) :
    ∀ c ∈ squeeze 0 blanks, Text.isBlank c := by
  rcases List.eq_nil_or_concat blanks with rfl | ⟨u, d, rfl⟩
  · simp [squeeze]
  · -- not empty, so it leaves the one space of `squeeze_blanks`
    have space : squeeze 0 (u.concat d ++ []) = ' ' :: squeeze 0 [] :=
      squeeze_blanks h (by simp) rfl
    rw [List.append_nil] at space
    rw [space]
    simp [squeeze, show Text.isBlank ' ' = true by decide]

/-! ### Quoted stretches -/

theorem singleSpan?_eq_none_iff {t : Text} : singleSpan? t = none ↔ '\'' ∉ t := by
  fun_induction singleSpan? t with
  | case1 => simp
  | case2 | case3 | case4 => simp
  | case5 c rest _ other ih =>
    have hc : c ≠ '\'' := other
    simp [ih, Ne.symm hc]

/-- Whether quotes that a text stands behind go on in it: an escaped apostrophe follows, and another
one closes the quotes behind it. -/
def Resumes (t : Text) : Prop := ∃ u, t = '\\' :: '\'' :: '\'' :: u ∧ '\'' ∈ u

theorem Parted.not_resumes {t : Text} (h : Parted t) : ¬ Resumes t := by
  rintro ⟨u, rfl, -⟩
  exact absurd (h '\\' (by simp)) (by decide)

/-- The stretch of a quoted word ends with the word, if the quotes do not go on behind it. -/
theorem singleSpan?_escaped (t : Text) {rest : Text} (hr : ¬ Resumes rest) :
    singleSpan? (escaped t ++ '\'' :: rest) = some ((escaped t).length + 1) := by
  induction t with
  | nil =>
    rw [escaped_nil, List.nil_append]
    -- an escape that follows goes on with the quotes only if they are closed behind it
    by_cases h : ∃ u, rest = '\\' :: '\'' :: '\'' :: u
    · obtain ⟨u, rfl⟩ := h
      have unclosed : singleSpan? u = none :=
        singleSpan?_eq_none_iff.2 fun hu => hr ⟨u, rfl, hu⟩
      simp [singleSpan?, unclosed]
    · rw [singleSpan?]
      · rfl
      · rintro u rfl
        exact h ⟨u, rfl⟩
  | cons c t ih =>
    -- an apostrophe is written as four characters, which the stretch takes in one step
    by_cases hc : c = '\''
    · subst hc
      simp only [escaped_quote_cons, List.cons_append, singleSpan?, ih, List.length_cons]
    · rw [escaped_cons_of_ne hc, List.cons_append, singleSpan?]
      · simp [ih]
      · rintro u rfl; exact absurd rfl hc
      · rintro rfl; exact absurd rfl hc

/-! ### Kept pieces -/

/-- A piece of a command that the normal layout leaves as it is where a blank or the end follows. -/
structure Kept (t : Text) : Prop where
  joinLines : ∀ rest, joinLines (t ++ rest) = t ++ joinLines rest
  squeeze : ∀ rest, Parted rest → squeeze 0 (t ++ rest) = t ++ squeeze 0 rest
  first : ∃ c u, t = c :: u ∧ Text.isBlank c = false
  last : ∃ u c, t = u ++ [c] ∧ Text.isBlank c = false

theorem isBare_iff {c : Char} :
    isBare c ↔ Text.isBlank c = false ∧ c ≠ '\'' ∧ c ≠ '"' := by
  simp [isBare, and_assoc]

theorem Kept.of_isBare {t : Text} (hne : t ≠ []) (h : ∀ c ∈ t, isBare c)
    (last : t.getLast? ≠ some '\\') : Kept t where
  joinLines rest := by
    refine joinLines_append none (occurs_continuation_of_bare ?_ ?_ rest none)
    · -- a line feed is a blank, so none is in the word
      rintro c hc rfl
      exact absurd (h _ hc) (by decide)
    · intro c hc
      refine ⟨by rintro rfl; exact last hc, ?_⟩
      rintro rfl
      exact absurd (h _ (List.mem_of_getLast? hc)) (by decide)
  squeeze rest _ := by
    clear hne last
    induction t with
    | nil => rfl
    | cons c t ih =>
      obtain ⟨hb, hs, hd⟩ := isBare_iff.1 (h c (by simp))
      rw [List.cons_append, squeeze_bare_cons hb hs hd,
        ih fun d hd => h d (List.mem_cons_of_mem _ hd), List.cons_append]
  first := by
    obtain ⟨c, u, rfl⟩ := List.exists_cons_of_ne_nil hne
    exact ⟨c, u, rfl, (isBare_iff.1 (h c (by simp))).1⟩
  last := ⟨t.dropLast, t.getLast hne, (List.dropLast_append_getLast hne).symm,
    (isBare_iff.1 (h _ (List.getLast_mem hne))).1⟩

/-- A bare word: neither blanks nor quotes, and no backslash at its end. -/
theorem Kept.bare {t : Text} (hne : t ≠ []) (h : t.all isBare) (last : t.getLast? ≠ some '\\') :
    Kept t :=
  Kept.of_isBare hne (List.all_eq_true.1 h) last

/-- A word in apostrophes. -/
theorem Kept.shell {t : Text} (h : continuesLine t = false) : Kept (Literal.shell t) where
  joinLines rest := by
    refine joinLines_append none ?_
    rw [Place.occurs_shell stopsAtQuote_continuation, occurs_continuation, h]
  squeeze rest hr := by
    have span : spanLength? ('\'' :: (escaped t ++ ['\''] ++ rest)) =
        some (escaped t ++ ['\'']).length := by
      simpa [spanLength?] using singleSpan?_escaped t hr.not_resumes
    rw [shell_eq, List.cons_append, squeeze_span span, List.cons_append]
  first := ⟨'\'', _, shell_eq t, by decide⟩
  last := ⟨'\'' :: escaped t, '\'', by rw [shell_eq]; rfl, by decide⟩

/-- Two kept pieces with a space between them. -/
theorem Kept.spaced {t u : Text} (ht : Kept t) (hu : Kept u) : Kept (t ++ ' ' :: u) where
  joinLines rest := by
    rw [List.append_assoc, ht.joinLines, List.cons_append, joinLines_blank_cons (by decide),
      hu.joinLines, List.append_assoc, List.cons_append]
  squeeze rest hr := by
    -- the second piece begins with no blank, so that the space before it stays
    obtain ⟨c, v, rfl, hc⟩ := hu.first
    rw [List.append_assoc, List.cons_append, ht.squeeze _ (parted_cons (by decide) _),
      squeeze_blank_cons (by decide), if_neg (by simpa [beginsBlank] using hc), hu.squeeze _ hr,
      List.append_assoc]
    rfl
  first := by
    obtain ⟨c, v, rfl, hc⟩ := ht.first
    exact ⟨c, _, rfl, hc⟩
  last := by
    obtain ⟨v, c, rfl, hc⟩ := hu.last
    exact ⟨t ++ ' ' :: v, c, by simp, hc⟩

/-! ### Commands in pieces -/

/-- Pieces with one space before each. -/
def spread (pieces : List Text) : Text := pieces.flatMap (' ' :: ·)

@[simp] theorem spread_nil : spread [] = [] := rfl

@[simp] theorem spread_cons (piece : Text) (pieces : List Text) :
    spread (piece :: pieces) = ' ' :: (piece ++ spread pieces) := rfl

/-- Pieces with a gap of its own before each. -/
def laidOut (pieces : List (Text × Text)) : Text := pieces.flatMap fun p => p.1 ++ p.2

/-- A text of pieces with a gap before each, and room behind the last. -/
inductive Following : List Text → Text → Prop where
  | nil {gap : Text} : Gap gap → Following [] gap
  | cons {gap piece t : Text} {pieces : List Text} :
      gap ≠ [] → Gap gap → Following pieces t → Following (piece :: pieces) (gap ++ (piece ++ t))

/-- A text of pieces in any layout: with a gap between two of them, and room at either end. -/
inductive Arranged : List Text → Text → Prop where
  | nil {gap : Text} : Gap gap → Arranged [] gap
  | cons {gap piece t : Text} {pieces : List Text} :
      Gap gap → Following pieces t → Arranged (piece :: pieces) (gap ++ (piece ++ t))

theorem following_laidOut {pieces : List (Text × Text)} (h : ∀ p ∈ pieces, p.1 ≠ [] ∧ Gap p.1) :
    Following (pieces.map Prod.snd) (laidOut pieces) := by
  induction pieces with
  | nil => exact .nil .nil
  | cons p pieces ih =>
    obtain ⟨hne, hg⟩ := h p List.mem_cons_self
    have tail := ih fun q hq => h q (List.mem_cons_of_mem p hq)
    have text : laidOut (p :: pieces) = p.1 ++ (p.2 ++ laidOut pieces) := by
      rw [laidOut, List.flatMap_cons, List.append_assoc, ← laidOut]
    rw [text, List.map_cons]
    exact .cons hne hg tail

theorem following_spread (pieces : List Text) : Following pieces (spread pieces) := by
  induction pieces with
  | nil => exact .nil .nil
  | cons piece pieces ih => exact .cons (by simp) (.blank (by decide) .nil) ih

section Following

variable {pieces : List Text} {t : Text}

theorem Following.parted_joinLines (h : Following pieces t) : Parted (joinLines t) := by
  cases h with
  -- nothing but the gap at the end
  | nil hg => exact fun c hc => hg.isBlank_joinLines c (List.mem_of_head? hc)
  | cons hne hg _ =>
    -- a gap that is not empty still begins with a blank when its lines are joined
    obtain ⟨c, blanks, hb⟩ := List.exists_cons_of_ne_nil (hg.joinLines_ne_nil hne)
    have blank := hg.isBlank_joinLines
    rw [hg.joinLines_append, hb] at *
    exact parted_cons (blank c List.mem_cons_self) _

/-- What the two passes leave of pieces behind gaps: a space before each, and blanks at the end. -/
theorem Following.squeezed (h : Following pieces t) (kept : ∀ p ∈ pieces, Kept p) :
    ∃ room, (∀ c ∈ room, Text.isBlank c) ∧
      squeeze 0 (joinLines t) = spread pieces ++ room := by
  -- on the pieces: the gap before one comes down to the space that `spread` puts there
  induction h with
  | nil hg => exact ⟨_, isBlank_squeeze hg.isBlank_joinLines, rfl⟩
  | @cons gap piece t pieces hne hg tail ih =>
    obtain ⟨room, blank, squeezed⟩ := ih fun p hp => kept p (List.mem_cons_of_mem _ hp)
    have hp := kept piece List.mem_cons_self
    have start : beginsBlank (piece ++ joinLines t) = false := by
      obtain ⟨c, u, rfl, hc⟩ := hp.first
      exact hc
    refine ⟨room, blank, ?_⟩
    rw [hg.joinLines_append, hp.joinLines,
      squeeze_blanks hg.isBlank_joinLines (hg.joinLines_ne_nil hne) start,
      hp.squeeze _ tail.parted_joinLines, squeezed, spread_cons, List.cons_append,
      List.append_assoc]

end Following

theorem Kept.spread {t : Text} (ht : Kept t) {pieces : List Text} (h : ∀ p ∈ pieces, Kept p) :
    Kept (t ++ Command.spread pieces) := by
  induction pieces generalizing t with
  | nil => simpa using ht
  | cons p pieces ih =>
    -- the first piece joins the text in front of it, and the rest follow that
    have := ih (ht.spaced (h p (by simp))) fun q hq => h q (List.mem_cons_of_mem _ hq)
    simpa using this

/-- A kept piece has no blanks at its ends to drop. -/
theorem Kept.trim {t : Text} (h : Kept t) : Text.trim t = t := by
  obtain ⟨c, u, hu, hc⟩ := h.first
  obtain ⟨v, d, hv, hd⟩ := h.last
  refine Text.trim_eq_self (fun e he => ?_) fun e he => ?_
  · rw [hu, List.head?_cons, Option.mem_some_iff] at he
    exact he ▸ hc
  · rw [hv, List.getLast?_concat, Option.mem_some_iff] at he
    exact he ▸ hd

/-- Blanks in front of a text are not seen any more once it is trimmed. -/
theorem trim_squeeze_blanks {blanks : Text} (h : ∀ c ∈ blanks, Text.isBlank c) (t : Text) :
    Text.trim (squeeze 0 (blanks ++ t)) = Text.trim (squeeze 0 t) := by
  induction blanks with
  | nil => rfl
  | cons c blanks ih =>
    have tail := ih fun d hd => h d (List.mem_cons_of_mem c hd)
    rw [List.cons_append, squeeze_blank_cons (h c List.mem_cons_self)]
    split
    · -- another blank follows, so this one leaves nothing
      exact tail
    · -- it leaves a space, which is trimmed
      rw [Text.trim_space_cons, tail]

/-- **The normal layout of a command in pieces** is the pieces with one space between them, however
they are laid out. -/
theorem normalize_arranged {pieces : List Text} {t : Text} (h : Arranged pieces t)
    (kept : ∀ p ∈ pieces, Kept p) : normalize t = Text.join " " pieces := by
  cases h with
  | nil hg =>
    -- no piece: the gap comes down to a space, and that is trimmed
    have blanks := trim_squeeze_blanks hg.isBlank_joinLines []
    rw [List.append_nil] at blanks
    rw [normalize, blanks]
    rfl
  | @cons gap piece t pieces hg tail =>
    -- the gap in front is trimmed, the pieces are spread, and the room behind them is trimmed
    have hp := kept piece List.mem_cons_self
    have others : ∀ p ∈ pieces, Kept p := fun p hp => kept p (List.mem_cons_of_mem _ hp)
    obtain ⟨room, blank, squeezed⟩ := tail.squeezed others
    rw [normalize, hg.joinLines_append, trim_squeeze_blanks hg.isBlank_joinLines, hp.joinLines,
      hp.squeeze _ tail.parted_joinLines, squeezed, ← List.append_assoc,
      Text.trim_append_blanks blank, (hp.spread others).trim, Text.join_cons]
    rfl

/-- A command of kept pieces with a gap before each but the first. -/
theorem normalize_pieces {first : Text} {pieces : List (Text × Text)} (hfirst : Kept first)
    (hgap : ∀ p ∈ pieces, p.1 ≠ [] ∧ Gap p.1) (hkept : ∀ p ∈ pieces, Kept p.2) :
    normalize (first ++ laidOut pieces) = first ++ spread (pieces.map Prod.snd) := by
  have arranged : Arranged (first :: pieces.map Prod.snd) ([] ++ (first ++ laidOut pieces)) :=
    .cons .nil (following_laidOut hgap)
  have kept : ∀ p ∈ first :: pieces.map Prod.snd, Kept p :=
    List.forall_mem_cons.2 ⟨hfirst, List.forall_mem_map.2 hkept⟩
  rw [← List.nil_append (first ++ laidOut pieces), normalize_arranged arranged kept,
    Text.join_cons]
  rfl

/-- A command of kept pieces with one space between them is in normal layout already. -/
theorem normalize_spread {first : Text} {pieces : List Text} (hfirst : Kept first)
    (hkept : ∀ p ∈ pieces, Kept p) :
    normalize (first ++ spread pieces) = first ++ spread pieces := by
  have arranged : Arranged (first :: pieces) ([] ++ (first ++ spread pieces)) :=
    .cons .nil (following_spread pieces)
  have kept : ∀ p ∈ first :: pieces, Kept p := List.forall_mem_cons.2 ⟨hfirst, hkept⟩
  rw [← List.nil_append (first ++ spread pieces), normalize_arranged arranged kept,
    Text.join_cons]
  rfl

/-- A kept piece alone is in normal layout already. -/
theorem Kept.normalize_eq {t : Text} (h : Kept t) : normalize t = t := by
  have alone := normalize_spread h (List.forall_mem_nil Kept)
  rwa [spread_nil, List.append_nil] at alone

end CurlSnippets.Command
