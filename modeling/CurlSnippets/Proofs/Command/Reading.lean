import CurlSnippets.Proofs.Command.Directive

/-!
# What the rules read in directives

A directive that is given a plain text is a piece that the normal layout keeps (`Contained.kept`) and
that has the start of an option at its beginning at most (`Contained.headed`).  There each pattern
matches it exactly if the directive is of the pattern's kind, and captures what the option is given: a
body whatever it is, any other quoted text up to its first apostrophe.  So a search in a command of
directives is a search among the directives.
-/

namespace CurlSnippets.Command

open Pattern

variable {α : Type}

/-! ### Values -/

theorem closed?_append {quote : Char} {t : Text} (h : quote ∉ t) (rest : Text) :
    closed? quote (t ++ quote :: rest) = some (t, rest) := by
  have all : ∀ c ∈ t, decide (c ≠ quote) = true := by
    intro c hc
    simpa using fun e : c = quote => h (e ▸ hc)
  obtain ⟨taken, left⟩ := Text.run_append (c := quote) (by simp) all rest
  rw [closed?, taken, left]

theorem value?_shell {t : Text} (h : '\'' ∉ t) (rest : Text) :
    value? (Literal.shell t ++ rest) = some (t, rest) := by
  rw [shell_eq, escaped_of_notMem h]
  simp [value?, closed?_append h]

/-- The part of a text in front of its first apostrophe. -/
def untilQuote (t : Text) : Text := t.takeWhile (· ≠ '\'')

theorem notMem_untilQuote (t : Text) : '\'' ∉ untilQuote t := by
  intro h
  rw [untilQuote] at h
  exact absurd (List.mem_takeWhile_imp h) (by simp)

theorem untilQuote_of_notMem {t : Text} (h : '\'' ∉ t) : untilQuote t = t := by
  refine List.takeWhile_eq_self_iff.2 fun c hc => ?_
  exact decide_eq_true fun e : c = '\'' => h (e ▸ hc)

theorem takeWhile_escaped (t rest : Text) :
    (escaped t ++ '\'' :: rest).takeWhile (· ≠ '\'') = untilQuote t := by
  induction t with
  | nil => simp [untilQuote]
  | cons c t ih =>
    by_cases hc : c = '\''
    · -- the written form has its apostrophe at the same place as `t`
      subst hc
      simp [escaped_quote_cons, untilQuote]
    · rw [untilQuote] at ih ⊢
      rw [escaped_cons_of_ne hc, List.cons_append, List.takeWhile_cons, List.takeWhile_cons, ih]

/-- Of a quoted word a value is its part in front of the first apostrophe. -/
theorem captured_value?_shell (t rest : Text) :
    (value? (Literal.shell t ++ rest)).map Prod.fst = some (untilQuote t) := by
  have opened : value? (Literal.shell t ++ rest) = closed? '\'' (escaped t ++ '\'' :: rest) := by
    simp [shell_eq, value?]
  have taken := takeWhile_escaped t rest
  rw [opened, closed?]
  split
  · -- the closing apostrophe is always there
    rename_i none
    rw [List.dropWhile_eq_nil_iff] at none
    exact absurd (none '\'' (by simp)) (by decide)
  · rw [Option.map_some, taken]

theorem escapedSingle?_shell (t : Text) {rest : Text} (hr : Parted rest) :
    escapedSingle? (Literal.shell t ++ rest) = some (escaped t, rest) := by
  rw [shell_eq]
  simp [escapedSingle?, singleSpan?_escaped t hr.not_resumes]

theorem quotedBy?_shell (t rest : Text) : quotedBy? '"' (Literal.shell t ++ rest) = none := by
  rw [shell_eq]
  rfl

theorem bare?_shell (t rest : Text) : bare? (Literal.shell t ++ rest) = none := by
  rw [shell_eq]
  rfl

theorem word?_append {w rest : Text} (hne : w ≠ []) (h : ∀ c ∈ w, Text.isWord c)
    (hr : Parted rest) : word? (w ++ rest) = some (w, rest) := by
  -- what follows a piece is no part of the word: a blank or the end
  have stop : rest.takeWhile Text.isWord = [] ∧ rest.dropWhile Text.isWord = rest := by
    cases rest with
    | nil => exact ⟨rfl, rfl⟩
    | cons c rest =>
      have hc : Text.isWord c = false := by
        by_contra hw
        have hb := hr c (by simp)
        rw [Text.isBlank_of_isWord (by simpa using hw)] at hb
        exact Bool.noConfusion hb
      simp [hc]
  obtain ⟨c, u, rfl⟩ := List.exists_cons_of_ne_nil hne
  -- a word begins with no quote, so it is read bare
  have hs : c ≠ '\'' := by rintro rfl; exact absurd (h '\'' (by simp)) (by decide)
  have hd : c ≠ '"' := by rintro rfl; exact absurd (h '"' (by simp)) (by decide)
  rw [List.cons_append, word?]
  · simp only [← List.cons_append]
    rw [List.takeWhile_append_of_pos h, List.dropWhile_append_of_pos h, stop.1, stop.2,
      List.append_nil]
  · intro v e
    exact hs (List.cons_eq_cons.1 e).1
  · intro v e
    exact hd (List.cons_eq_cons.1 e).1

theorem unfoldQuotes_escaped (t : Text) : unfoldQuotes (escaped t) = t := by
  induction t with
  | nil => rfl
  | cons c t ih =>
    by_cases hc : c = '\''
    · -- four characters are folded into the one they stand for
      subst hc
      rw [escaped_quote_cons, unfoldQuotes, ih]
    · -- any other character is left, since no escape begins at it
      rw [escaped_cons_of_ne hc, unfoldQuotes, ih]
      rintro u rfl
      exact absurd rfl hc

/-! ### Names -/

/-- A text that can name an option: it looks like one, and nothing in it is blank. -/
def IsName (n : Text) : Prop := looksLikeOption n = true ∧ ∀ c ∈ n, Text.isBlank c = false

instance : DecidablePred IsName := fun n =>
  decidable_of_iff (looksLikeOption n = true ∧ (n.all fun c => !Text.isBlank c) = true)
    (by simp [IsName])

theorem looksLikeOption_append {n : Text} (h : looksLikeOption n) (rest : Text) :
    looksLikeOption (n ++ rest) := by
  match n with
  | [] => simp [looksLikeOption] at h
  | [c] => by_cases hc : c = '-' <;> simp [looksLikeOption, hc] at h
  | c :: d :: n => by_cases hc : c = '-' <;> simp_all [looksLikeOption]

/-- Behind any other name in front of a blank or the end, no blank and no end follows. -/
theorem after?_of_ne {n name rest : Text} (hn : ∀ c ∈ n, Text.isBlank c = false)
    (hname : ∀ c ∈ name, Text.isBlank c = false) (hr : Parted rest) (hne : n ≠ name) :
    Text.after? n (name ++ rest) = none ∨
      ∃ c behind, Text.after? n (name ++ rest) = some (c :: behind) ∧ Text.isBlank c = false := by
  induction n generalizing name with
  | nil =>
    -- `n` is shorter, and the next character is one of the name
    obtain ⟨c, name, rfl⟩ := List.exists_cons_of_ne_nil (Ne.symm hne)
    exact .inr ⟨c, name ++ rest, rfl, hname c (by simp)⟩
  | cons s n ih =>
    cases name with
    | nil =>
      -- `n` is longer, and no blank is in it
      cases rest with
      | nil => exact .inl rfl
      | cons c rest =>
        have hs : s ≠ c := by
          rintro rfl
          have := hr s (by simp)
          rw [hn s (by simp)] at this
          exact Bool.noConfusion this
        exact .inl (by simp [Text.after?_cons, hs])
    | cons c name =>
      by_cases hs : s = c
      · -- so far the names agree
        subst hs
        rw [List.cons_append, Text.after?_cons, if_pos rfl]
        exact ih (fun d hd => hn d (List.mem_cons_of_mem _ hd))
          (fun d hd => hname d (List.mem_cons_of_mem _ hd)) (by simpa using hne)
      · exact .inl (by simp [Text.after?_cons, hs])

theorem captured_of_eq {found : Option (α × Text)} {r : Option α} {rest : Text}
    (h : found = r.map fun a => (a, rest)) : found.map Prod.fst = r := by
  rw [h, Option.map_map]
  exact Option.map_id'

theorem findSome?_of_only {β : Type} {f : β → Option α} {l : List β} {b : β} (hb : b ∈ l)
    (h : ∀ c ∈ l, c ≠ b → f c = none) : l.findSome? f = f b := by
  obtain ⟨x, y, rfl, hx⟩ := List.eq_append_cons_of_mem hb
  -- nothing in front of the first `b` is found
  have before : x.findSome? f = none :=
    List.findSome?_eq_none_iff.2 fun c hc => h c (by simp [hc]) (by rintro rfl; exact hx hc)
  rw [List.findSome?_append, before, Option.none_or, List.findSome?_cons]
  cases hf : f b with
  | some a => rfl
  | none =>
    -- and if `b` gives nothing, neither do the rest
    refine List.findSome?_eq_none_iff.2 fun c hc => ?_
    by_cases e : c = b
    · exact e ▸ hf
    · exact h c (by simp [hc]) e

theorem findSome?_flatMap {β γ : Type} (f : γ → Option α) (g : β → List γ) (l : List β) :
    (l.flatMap g).findSome? f = l.findSome? fun b => (g b).findSome? f := by
  induction l with
  | nil => rfl
  | cons b l ih =>
    rw [List.flatMap_cons, List.findSome?_append, ih, List.findSome?_cons]
    cases (g b).findSome? f <;> rfl

/-- A body is looked for by the name of its option first, and then by the form of its payload. -/
theorem findBody_eq (command : Text) : findBody command =
    (BodyName.all.findSome? fun name =>
      [option [name.text] escapedSingle?, option [name.text] (quotedBy? '"'),
        option [name.text] bare?].findSome? fun p => p.first? command).map unfoldQuotes := by
  have ranked : bodyOptions = BodyName.all.flatMap fun name =>
      [option [name.text] escapedSingle?, option [name.text] (quotedBy? '"'),
        option [name.text] bare?] := rfl
  rw [findBody, ranked, findSome?_flatMap]

section Names

variable {names : List Text} {name rest : Text} {value : Text → Option (α × Text)}

theorem after?_eq_none_of_not_looksLikeOption {n t : Text} (hn : IsName n)
    (ht : looksLikeOption t = false) : Text.after? n t = none := by
  cases h : Text.after? n t with
  | none => rfl
  | some rest =>
    rw [Text.eq_append_of_after? h, looksLikeOption_append hn.1] at ht
    exact Bool.noConfusion ht

theorem named?_of_notMem (hn : ∀ n ∈ names, IsName n) (hname : IsName name) (hr : Parted rest)
    (h : name ∉ names) : named? value names (name ++ rest) = none := by
  refine List.findSome?_eq_none_iff.2 fun n hn' => ?_
  rcases after?_of_ne (hn n hn').2 hname.2 hr (by rintro rfl; exact h hn') with e | ⟨c, u, e, hc⟩
  · rw [e]
  · simp [e, hc]

theorem named?_of_mem (hn : ∀ n ∈ names, IsName n) (hname : IsName name) (h : name ∈ names)
    (t : Text) : named? value names (name ++ ' ' :: t) = value (Text.dropBlanks t) := by
  have hr : Parted (' ' :: t) := parted_cons (by decide) t
  -- of all names only the one that is written can have a blank behind it
  refine (findSome?_of_only h fun n hn' hne => ?_).trans ?_
  · rcases after?_of_ne (hn n hn').2 hname.2 hr hne with e | ⟨c, u, e, hc⟩
    · rw [e]
    · simp [e, hc]
  · simp [show Text.isBlank ' ' = true by decide]

theorem onlyAt_option (hn : ∀ n ∈ names, IsName n) : (option names value).OnlyAt optionStart := by
  intro before t ht
  rw [optionStart, Bool.and_eq_false_iff] at ht
  rw [option]
  split
  · -- behind a blank: then the text does not look like an option, and no name begins it
    rename_i hb
    have look := ht.resolve_left (by simp [hb])
    refine List.findSome?_eq_none_iff.2 fun n hn' => ?_
    rw [after?_eq_none_of_not_looksLikeOption (hn n hn') look]
  · rfl

theorem onlyAt_switch (hn : ∀ n ∈ names, IsName n) : (switch names).OnlyAt optionStart := by
  intro before t ht
  rw [optionStart, Bool.and_eq_false_iff] at ht
  rw [switch]
  split
  · rename_i hb
    have look := ht.resolve_left (by simp [hb])
    refine List.findSome?_eq_none_iff.2 fun n hn' => ?_
    rw [after?_eq_none_of_not_looksLikeOption (hn n hn') look]
  · rfl

theorem switch_of_notMem (hn : ∀ n ∈ names, IsName n) (hname : IsName name) (hr : Parted rest)
    (h : name ∉ names) : switch names (some ' ') (name ++ rest) = none := by
  rw [switch, if_pos (by decide)]
  refine List.findSome?_eq_none_iff.2 fun n hn' => ?_
  rcases after?_of_ne (hn n hn').2 hname.2 hr (by rintro rfl; exact h hn') with e | ⟨c, u, e, hc⟩
  · rw [e]
  · simp [e, hc]

theorem switch_of_mem (hn : ∀ n ∈ names, IsName n) (hname : IsName name) (hr : Parted rest)
    (h : name ∈ names) : switch names (some ' ') (name ++ rest) = some ((), rest) := by
  rw [switch, if_pos (by decide)]
  refine (findSome?_of_only h fun n hn' hne => ?_).trans ?_
  · rcases after?_of_ne (hn n hn').2 hname.2 hr hne with e | ⟨c, u, e, hc⟩
    · rw [e]
    · simp [e, hc]
  · rw [Text.after?_append]
    cases rest with
    | nil => rfl
    | cons c rest => simp [hr c (by simp)]

end Names

namespace Directive

/-! ### Directives as pieces -/

theorem isName_of_mem {k : OptionKind} : ∀ n ∈ k.names, IsName n :=
  (show ∀ k ∈ OptionKind.all, ∀ n ∈ k.names, IsName n by decide) k k.mem_all

theorem kept_of_mem {k : OptionKind} {n : Text} (h : n ∈ k.names) : Kept n := by
  -- each name of each kind is a bare word
  have bare : ∀ k ∈ OptionKind.all, ∀ n ∈ k.names,
      n ≠ [] ∧ n.all isBare ∧ n.getLast? ≠ some '\\' := by decide
  obtain ⟨hne, hb, hl⟩ := bare k k.mem_all n h
  exact Kept.bare hne hb hl

theorem isName (d : Directive) : IsName d.name := isName_of_mem _ d.name_mem

/-- The written form begins with a hyphen. -/
theorem exists_hyphen (d : Directive) (rest : Text) : ∃ u, d.text ++ rest = '-' :: u := by
  obtain ⟨n, hn⟩ : ∃ n, d.name = '-' :: n := by
    have look := d.isName.1
    cases h : d.name with
    | nil => rw [h] at look; exact absurd look (by decide)
    | cons c n =>
      rw [h] at look
      by_cases hc : c = '-'
      · exact ⟨n, by rw [hc]⟩
      · exact absurd look (by simp [looksLikeOption, hc])
  rw [text]
  split
  · exact ⟨_, by rw [hn]; rfl⟩
  · exact ⟨_, by rw [hn]; rfl⟩

theorem kept_name (d : Directive) : Kept d.name := kept_of_mem d.name_mem

variable {d : Directive} {value : Text → Option (α × Text)} {rest : Text}

theorem Plain.kept {t : Text} (h : Plain t) : Kept (Literal.shell t) := Kept.shell h.unbroken

/-- A word is kept bare. -/
theorem kept_word {w : Text} (hne : w ≠ []) (h : ∀ c ∈ w, Text.isWord c) : Kept w := by
  refine Kept.of_isBare hne
    (fun c hc => isBare_iff.2 ⟨Text.isBlank_of_isWord (h c hc), ?_, ?_⟩) fun hl => ?_
  · rintro rfl; exact absurd (h _ hc) (by decide)
  · rintro rfl; exact absurd (h _ hc) (by decide)
  · exact absurd (h _ (List.mem_of_getLast? hl)) (by decide)

theorem Contained.kept_argument (h : d.Contained) {a : Text} (ha : d.argument = some a) :
    Kept a := by
  cases d with
  | method _ word => exact Option.some.inj ha ▸ kept_word h.1 (List.all_eq_true.1 h.2)
  | url t | header _ t | user _ t | cookie _ t | body _ t =>
    exact Option.some.inj ha ▸ Plain.kept h
  | insecure | location => exact absurd ha (by simp [argument])

theorem Contained.kept (h : d.Contained) : Kept d.text := by
  rw [text]
  split
  · -- a name and its argument, with a space between them
    rename_i a ha
    exact d.kept_name.spaced (h.kept_argument ha)
  · exact d.kept_name

/-- No option starts within a stretch without blanks. -/
theorem occurs_optionStart_of_bare {x : Text} (h : ∀ c ∈ x, Text.isBlank c = false) (rest : Text)
    {before : Char} (hb : Text.isBlank before = false) :
    optionStart.occurs rest (some before) x = false := by
  induction x generalizing before with
  | nil => rfl
  | cons c x ih =>
    rw [Place.occurs_cons, ih (fun d hd => h d (List.mem_cons_of_mem _ hd)) (h c (by simp))]
    simp [optionStart, beginsToken, hb]

theorem Contained.occurs_argument (h : d.Contained) {a : Text} (ha : d.argument = some a)
    (rest : Text) : optionStart.occurs rest (some ' ') a = false := by
  have quoted : ∀ t : Text, Plain t →
      optionStart.occurs rest (some ' ') (Literal.shell t) = false := by
    intro t ht
    have quote : Text.isBlank '\'' = false := by decide
    rw [Place.occurs_shell stopsAtQuote_optionStart, occurs_optionStart, mentionsOption,
      ht.optionless, quote]
    rfl
  -- a word begins with no hyphen, and in apostrophes the text is `Plain`
  cases d with
  | method _ word =>
    obtain ⟨hne, all⟩ := h
    have hw := List.all_eq_true.1 all
    obtain ⟨c, u, rfl⟩ := List.exists_cons_of_ne_nil hne
    have hc : c ≠ '-' := by rintro rfl; exact absurd (hw '-' (by simp)) (by decide)
    have blankless : ∀ e ∈ c :: u, Text.isBlank e = false :=
      fun e he => Text.isBlank_of_isWord (hw e he)
    rw [← Option.some.inj ha, Place.occurs_cons,
      occurs_optionStart_of_bare (fun e he => blankless e (List.mem_cons_of_mem _ he)) rest
        (blankless c (by simp))]
    simp [optionStart, looksLikeOption, hc]
  | url t | header _ t | user _ t | cookie _ t | body _ t =>
    exact Option.some.inj ha ▸ quoted t h
  | insecure | location => exact absurd ha (by simp [argument])

/-- A name and an argument in which no option starts. -/
theorem headed_named {n a : Text} (hn : IsName n)
    (ha : ∀ rest, optionStart.occurs rest (some ' ') a = false) :
    Headed optionStart (n ++ ' ' :: a) := by
  obtain ⟨looks, blankless⟩ := hn
  have some : n ≠ [] := by
    rintro rfl
    exact absurd looks (by decide)
  obtain ⟨c, n, rfl⟩ := List.exists_cons_of_ne_nil some
  have hc := blankless c List.mem_cons_self
  have tail : ∀ e ∈ n, Text.isBlank e = false :=
    fun e he => blankless e (List.mem_cons_of_mem c he)
  refine ⟨c, n ++ ' ' :: a, rfl, fun rest _ => ?_⟩
  -- the name ends in no blank, so the only place is behind the space
  have last : ∃ e, n.getLast?.or (Option.some c) = Option.some e ∧ Text.isBlank e = false := by
    cases hl : n.getLast? with
    | none => exact ⟨c, rfl, hc⟩
    | some e => exact ⟨e, rfl, tail e (List.mem_of_getLast? hl)⟩
  obtain ⟨e, he, hb⟩ := last
  rw [Place.occurs_append, he, occurs_optionStart_of_bare tail _ hc, Place.occurs_cons, ha]
  simp [optionStart, beginsToken, hb]

theorem Contained.headed (h : d.Contained) : Headed optionStart d.text := by
  rw [text]
  split
  · rename_i a ha
    exact headed_named d.isName (h.occurs_argument ha)
  · -- a switch is its name, in which no blank stands
    obtain ⟨c, n, hn, hc⟩ := d.kept_name.first
    have blankless : ∀ e ∈ n, Text.isBlank e = false :=
      fun e he => d.isName.2 e (by rw [hn]; exact List.mem_cons_of_mem _ he)
    exact ⟨c, n, hn, fun rest _ => occurs_optionStart_of_bare blankless rest hc⟩

/-! ### Patterns on a directive -/

theorem parted_argument (hr : Parted rest) : ∃ behind, d.text ++ rest = d.name ++ behind ∧
    Parted behind := by
  rw [text]
  split
  · -- an argument has a space in front of it
    exact ⟨_, List.append_assoc _ _ _, parted_cons (by decide) _⟩
  · exact ⟨rest, rfl, hr⟩

variable {k : OptionKind}

theorem name_notMem (h : d.kind ≠ k) : d.name ∉ k.names :=
  fun hn => h (OptionKind.eq_of_mem_names d.name_mem hn)

theorem option_of_kind_ne (h : d.kind ≠ k) (hr : Parted rest) :
    option k.names value (some ' ') (d.text ++ rest) = none := by
  obtain ⟨behind, e, hb⟩ := parted_argument (d := d) hr
  rw [option, if_pos (by decide), e, named?_of_notMem isName_of_mem d.isName hb (name_notMem h)]

theorem option_of_first (h : d.kind = k) {a : Text} (ha : d.argument = some a)
    (hfirst : ∃ c u, a = c :: u ∧ Text.isBlank c = false) :
    option k.names value (some ' ') (d.text ++ rest) = value (a ++ rest) := by
  obtain ⟨c, u, rfl, hc⟩ := hfirst
  rw [option, if_pos (by decide), text, ha]
  simp only [List.append_assoc, List.cons_append]
  rw [named?_of_mem isName_of_mem d.isName (h ▸ d.name_mem)]
  simp [Text.dropBlanks, hc]

theorem option_of_kind (h : d.kind = k) (hd : d.Contained) {a : Text} (ha : d.argument = some a) :
    option k.names value (some ' ') (d.text ++ rest) = value (a ++ rest) :=
  option_of_first h ha (hd.kept_argument ha).first

theorem switch_of_kind_ne (h : d.kind ≠ k) (hr : Parted rest) :
    switch k.names (some ' ') (d.text ++ rest) = none := by
  obtain ⟨behind, e, hb⟩ := parted_argument (d := d) hr
  rw [e, switch_of_notMem isName_of_mem d.isName hb (name_notMem h)]

/-- The method option is read as its word in directives of its kind, and in no others. -/
theorem methodOption_text (hd : d.Contained) (hr : Parted rest) :
    option OptionKind.method.names word? (some ' ') (d.text ++ rest) =
      (d.given? .method).map fun w => (w, rest) := by
  cases d with
  | method short w =>
    have read := word?_append hd.1 (List.all_eq_true.1 hd.2) hr
    exact (option_of_kind rfl hd rfl).trans read
  | _ => exact option_of_kind_ne nofun hr

/-- An option for a text without apostrophes is read as that text in directives of its kind, and in no
others. -/
theorem valueOption_text (hk : k ∈ [.url, .header, .user, .cookie]) (hd : d.WellFormed)
    (hr : Parted rest) :
    option k.names value? (some ' ') (d.text ++ rest) = (d.given? k).map fun t => (t, rest) := by
  by_cases h : d.kind = k
  · subst h
    cases d with
    | url t | header _ t | user _ t | cookie _ t =>
      exact (option_of_kind rfl hd.contained rfl).trans (value?_shell hd.1 rest)
    | _ => simp [kind] at hk
  · rw [option_of_kind_ne h hr, given?_of_ne h]
    rfl

/-- In directives of its kind such an option captures the text up to its first apostrophe, whatever it
is. -/
theorem captured_valueOption_text (hk : k ∈ [.url, .header, .user, .cookie]) (hd : d.Contained)
    (hr : Parted rest) :
    (option k.names value? (some ' ') (d.text ++ rest)).map Prod.fst =
      (d.given? k).map untilQuote := by
  by_cases h : d.kind = k
  · subst h
    cases d with
    | url t | header _ t | user _ t | cookie _ t =>
      exact (congrArg _ (option_of_kind rfl hd rfl)).trans (captured_value?_shell t rest)
    | _ => simp [kind] at hk
  · rw [option_of_kind_ne h hr, given?_of_ne h]
    rfl

/-- A payload is read, as it is written, in directives with its name, and in no others. -/
theorem payloadOption_text (name : BodyName) (hd : d.Contained) (hr : Parted rest) :
    option [name.text] escapedSingle? (some ' ') (d.text ++ rest) =
      (d.given? (.body name)).map fun t => (escaped t, rest) := by
  by_cases h : d.kind = .body name
  · cases d with
    | body n t =>
      obtain rfl : n = name := OptionKind.body.inj h
      have given : (Directive.body n t).given? (.body n) = some t := given?_kind (.body n t)
      rw [given]
      exact (option_of_kind rfl hd rfl).trans (escapedSingle?_shell t hr)
    | _ => exact absurd h nofun
  · rw [given?_of_ne h]
    exact option_of_kind_ne h hr

/-- A payload in apostrophes is read neither as one in double quotes nor as a bare one. -/
theorem otherPayload_text (name : BodyName) (hd : d.Contained) (hr : Parted rest)
    (hv : ∀ t, value (Literal.shell t ++ rest) = none) :
    option [name.text] value (some ' ') (d.text ++ rest) = none := by
  by_cases h : d.kind = .body name
  · cases d with
    | body n t => exact (option_of_kind (k := .body name) h hd rfl).trans (hv t)
    | _ => exact absurd h nofun
  · exact option_of_kind_ne (k := .body name) h hr

/-- A switch is read in directives of its kind, and in no others. -/
theorem switch_text (hk : k ∈ [.insecure, .location]) (hr : Parted rest) :
    switch k.names (some ' ') (d.text ++ rest) =
      (if d.kind = k then some () else none).map fun a => (a, rest) := by
  by_cases h : d.kind = k
  · subst h
    rw [if_pos rfl]
    -- a switch has no argument
    have e : d.text = d.name := by
      cases d with
      | insecure | location => rfl
      | _ => simp [kind] at hk
    rw [e]
    exact switch_of_mem isName_of_mem d.isName hr d.name_mem
  · rw [switch_of_kind_ne h hr, if_neg h]
    rfl

end Directive

/-! ### Searches in a command of directives -/

section Search

variable {ds : List Directive} {head : Text}

/-- Behind a head without options a search captures what the first directive that is read gives. -/
theorem first?_directives (hds : ∀ d ∈ ds, d.Contained)
    (hhead : ∀ rest, Parted rest → optionStart.occurs rest none head = false)
    {p : Pattern α} (hp : p.OnlyAt optionStart) {read : Directive → Option α}
    (reads : ∀ d ∈ ds, ∀ rest, Parted rest →
      (p (some ' ') (d.text ++ rest)).map Prod.fst = read d) :
    p.first? (head ++ spread (ds.map Directive.text)) = ds.findSome? read := by
  rw [first?, firstAfter_append hp (hhead _ (parted_spread _))]
  exact firstAfter_spread hp (fun _ => stopsAtQuote_optionStart.nil _)
    (fun _ _ => by simp [optionStart, looksLikeOption]) (fun d hd => (hds d hd).headed) reads _

theorem all_directives (hds : ∀ d ∈ ds, d.Contained)
    (hhead : ∀ rest, Parted rest → optionStart.occurs rest none head = false)
    {p : Pattern α} (hp : p.OnlyAt optionStart) {read : Directive → Option α}
    (reads : ∀ d ∈ ds, ∀ rest, Parted rest →
      p (some ' ') (d.text ++ rest) = (read d).map fun a => (a, rest)) :
    p.all (head ++ spread (ds.map Directive.text)) =
      ds.filterMap fun d => (read d).map (d.text, ·) := by
  rw [all, allAfter_append hp (hhead _ (parted_spread _))]
  exact allAfter_spread hp (fun _ _ => by simp [optionStart, looksLikeOption])
    (fun d hd => (hds d hd).headed) reads _

section Contained

variable (hds : ∀ d ∈ ds, d.Contained)
  (hhead : ∀ rest, Parted rest → optionStart.occurs rest none head = false)

include hds hhead

theorem first?_methodOption : methodOption.first? (head ++ spread (ds.map Directive.text)) =
    ds.findSome? (Directive.given? .method) :=
  first?_directives hds hhead (onlyAt_option (Directive.isName_of_mem (k := .method)))
    fun d hd _ hr => captured_of_eq (Directive.methodOption_text (hds d hd) hr)

/-- Of its text an option in apostrophes gives the part in front of the first apostrophe. -/
theorem first?_valueOption {k : OptionKind} (hk : k ∈ [.url, .header, .user, .cookie]) :
    (option k.names value?).first? (head ++ spread (ds.map Directive.text)) =
      (ds.findSome? (Directive.given? k)).map untilQuote := by
  rw [List.map_findSome?]
  exact first?_directives hds hhead (onlyAt_option Directive.isName_of_mem)
    fun d hd _ hr => Directive.captured_valueOption_text hk (hds d hd) hr

theorem first?_switch {k : OptionKind} (hk : k ∈ [.insecure, .location]) :
    ((switch k.names).first? (head ++ spread (ds.map Directive.text))).isSome =
      ds.any fun d => d.kind = k := by
  rw [first?_directives hds hhead (onlyAt_switch Directive.isName_of_mem)
    fun d _ _ hr => captured_of_eq (Directive.switch_text hk hr)]
  clear hds hhead
  -- the first switch decides, whether there is one at all
  induction ds with
  | nil => rfl
  | cons d ds ih => by_cases h : d.kind = k <;> simp [h, ih]

theorem findBody_directives : findBody (head ++ spread (ds.map Directive.text)) =
    Directive.payload ds := by
  -- by name: the first payload given with it, in its written form
  have single : ∀ name : BodyName, (option [name.text] escapedSingle?).first?
      (head ++ spread (ds.map Directive.text)) =
        (ds.findSome? (Directive.given? (.body name))).map escaped := by
    intro name
    have reads : ∀ d ∈ ds, ∀ rest, Parted rest →
        (option [name.text] escapedSingle? (some ' ') (d.text ++ rest)).map Prod.fst =
          (d.given? (.body name)).map escaped := by
      intro d hd rest hr
      rw [Directive.payloadOption_text name (hds d hd) hr, Option.map_map]
      rfl
    rw [List.map_findSome?]
    exact first?_directives hds hhead
      (onlyAt_option (Directive.isName_of_mem (k := .body name))) reads
  -- the two other forms of a payload occur in no directive
  have other : ∀ (name : BodyName) (value : Text → Option (Text × Text)),
      (∀ t rest, value (Literal.shell t ++ rest) = none) →
        (option [name.text] value).first? (head ++ spread (ds.map Directive.text)) = none := by
    intro name value hv
    have none : ds.findSome? (fun _ => (none : Option Text)) = none :=
      List.findSome?_eq_none_iff.2 fun _ _ => rfl
    rw [← none]
    exact first?_directives hds hhead (onlyAt_option (Directive.isName_of_mem (k := .body name)))
      fun d hd rest hr => congrArg (Option.map Prod.fst)
        (Directive.otherPayload_text name (hds d hd) hr fun t => hv t rest)
  -- so each name is decided by the form in apostrophes
  have forms : ∀ name : BodyName,
      [option [name.text] escapedSingle?, option [name.text] (quotedBy? '"'),
        option [name.text] bare?].findSome?
          (fun p => p.first? (head ++ spread (ds.map Directive.text))) =
        (ds.findSome? (Directive.given? (.body name))).map escaped := by
    intro name
    simp only [List.findSome?_cons, List.findSome?_nil, single, other name _ quotedBy?_shell,
      other name _ bare?_shell]
    cases ds.findSome? (Directive.given? (.body name)) <;> rfl
  -- the names are tried in turn, and folding undoes the writing
  simp only [findBody_eq, forms]
  rw [List.map_findSome?, Directive.payload]
  congr 1
  funext name
  rw [Function.comp_apply, Option.map_map]
  cases ds.findSome? (Directive.given? (.body name)) with
  | none => rfl
  | some t => simp [unfoldQuotes_escaped]

end Contained

section WellFormed

variable (hds : ∀ d ∈ ds, d.WellFormed)
  (hhead : ∀ rest, Parted rest → optionStart.occurs rest none head = false)

include hds

/-- Without apostrophes it gives all of its text. -/
theorem map_untilQuote_given? {k : OptionKind} (hk : k ∈ [.url, .header, .user, .cookie]) :
    (ds.findSome? (Directive.given? k)).map untilQuote = ds.findSome? (Directive.given? k) := by
  -- what a directive of another kind gives is nothing
  have quoteless : ∀ d ∈ ds, (d.given? k).map untilQuote = d.given? k := by
    intro d hd
    by_cases h : d.kind = k
    · subst h
      have wellFormed := hds d hd
      cases d with
      | url t | header _ t | user _ t | cookie _ t =>
        exact congrArg some (untilQuote_of_notMem wellFormed.1)
      | _ => simp [Directive.kind] at hk
    · rw [Directive.given?_of_ne h]
      rfl
  rw [List.map_findSome?]
  clear hds
  induction ds with
  | nil => rfl
  | cons d ds ih =>
    rw [List.findSome?_cons, List.findSome?_cons, Function.comp_apply, quoteless d List.mem_cons_self,
      ih fun e he => quoteless e (List.mem_cons_of_mem d he)]

include hhead

theorem all_headerOption : headerOption.all (head ++ spread (ds.map Directive.text)) =
    ds.filterMap fun d => (d.given? .header).map (d.text, ·) :=
  all_directives (fun d hd => (hds d hd).contained) hhead
    (onlyAt_option (Directive.isName_of_mem (k := .header)))
    fun d hd _ hr => Directive.valueOption_text (by decide) (hds d hd) hr

theorem all_cookieOption : cookieOption.all (head ++ spread (ds.map Directive.text)) =
    ds.filterMap fun d => (d.given? .cookie).map (d.text, ·) :=
  all_directives (fun d hd => (hds d hd).contained) hhead
    (onlyAt_option (Directive.isName_of_mem (k := .cookie)))
    fun d hd _ hr => Directive.valueOption_text (by decide) (hds d hd) hr

end WellFormed

end Search

end CurlSnippets.Command
