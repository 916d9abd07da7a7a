import CurlSnippets.Proofs.Command.QuotedBody
import CurlSnippets.Proofs.Command.QuotedText

/-!
# Bodies in double quotes

A body option captures what stands between its double quotes as it is written
(`first?_doubleQuoted`).  The last step is the same for all captures: `'\''` becomes an apostrophe,
which is how an apostrophe is written between apostrophes and nothing special between double quotes.
So a body in double quotes is its text exactly if that sequence does not stand in it
(`body_doubleQuoted_iff`).
-/

namespace CurlSnippets.Command

open Pattern

/-! ### Unfolding -/

/-- How an apostrophe is written between apostrophes. -/
def escapedQuote : Text := ['\'', '\\', '\'', '\'']

variable {t : Text}

/-- Where an escaped apostrophe stands, the text becomes shorter. -/
theorem length_unfoldQuotes_lt (h : escapedQuote <:+: t) : (unfoldQuotes t).length < t.length := by
  fun_induction unfoldQuotes t with
  | case1 => exact absurd (List.infix_nil.1 h) (by decide)
  | case2 rest _ =>
    -- here one stands, and folding it takes three characters away
    have rest_le := length_unfoldQuotes_le rest
    simp only [List.length_cons]
    omega
  | case3 c rest other ih =>
    -- the one in the text does not begin at `c`
    have inside : escapedQuote <:+: rest := by
      refine (List.infix_cons_iff.1 h).resolve_left ?_
      rintro ⟨u, hu⟩
      obtain ⟨rfl, rfl⟩ := List.cons.inj hu
      exact other u rfl rfl
    have shorter := ih inside
    simp only [List.length_cons]
    omega

theorem unfoldQuotes_of_not_infix (h : ¬ escapedQuote <:+: t) : unfoldQuotes t = t := by
  fun_induction unfoldQuotes t with
  | case1 => rfl
  | case2 rest _ => exact absurd (List.prefix_append escapedQuote rest).isInfix h
  | case3 c rest _ ih =>
    have outside : ¬ escapedQuote <:+: rest :=
      fun inside => h (inside.trans (List.suffix_cons c rest).isInfix)
    rw [ih outside]

/-- Unfolding leaves a text as it is exactly if no escaped apostrophe stands in it. -/
theorem unfoldQuotes_eq_self_iff : unfoldQuotes t = t ↔ ¬ escapedQuote <:+: t := by
  refine ⟨fun same inside => ?_, unfoldQuotes_of_not_infix⟩
  have shorter := length_unfoldQuotes_lt inside
  rw [same] at shorter
  exact Nat.lt_irrefl _ shorter

/-! ### A body option and a text in double quotes -/

/-- A body option and a text in double quotes, as they are written. -/
def doubleQuotedBody (name : BodyName) (t : Text) : Text := name.text ++ ' ' :: doubleQuoted t

theorem BodyName.isName (name : BodyName) : IsName name.text :=
  Directive.isName_of_mem (k := .body name) _ (List.mem_singleton.2 rfl)

theorem BodyName.kept (name : BodyName) : Kept name.text :=
  Directive.kept_of_mem (k := .body name) (List.mem_singleton.2 rfl)

/-- No two body options have the same name. -/
theorem BodyName.text_inj {m n : BodyName} (h : m.text = n.text) : m = n := by
  have same : OptionKind.body m = OptionKind.body n :=
    OptionKind.eq_of_mem_names (n := m.text) (List.mem_singleton.2 rfl) (List.mem_singleton.2 h)
  exact OptionKind.body.inj same

section DoubleQuoted

variable {name : BodyName}

theorem occurs_optionStart_doubleQuoted (h : mentionsOption t = false) (rest : Text) :
    optionStart.occurs rest (some ' ') (doubleQuoted t) = false := by
  -- the closing quote is neither a letter nor a hyphen, so it completes no option
  have closing : ∀ (x : Text) (c : Char), optionStart.occurs ('"' :: rest) (some c) x =
      optionStart.occurs [] (some c) x := by
    intro x
    induction x with
    | nil => exact fun _ => rfl
    | cons d x ih =>
      intro c
      have look : looksLikeOption (d :: (x ++ '"' :: rest)) = looksLikeOption (d :: x) := by
        cases x with
        | nil => by_cases hd : d = '-' <;> simp [looksLikeOption, hd]
        | cons e x => by_cases hd : d = '-' <;> simp [looksLikeOption, hd]
      rw [Place.occurs_cons, Place.occurs_cons, ih, List.append_nil]
      simp only [optionStart, List.cons_append, look]
  have start : ∀ before u, optionStart before ('"' :: u) = false := by
    intro before u
    simp [optionStart, looksLikeOption]
  have blank : Text.isBlank '"' = false := by decide
  have inside : optionStart.occurs [] (some '"') t = false := by
    rw [occurs_optionStart, mentionsOption, h, blank]
    rfl
  have close : ∀ before, optionStart.occurs rest before ['"'] = false := fun before => by
    rw [Place.occurs_cons, List.cons_append, start]
    rfl
  rw [doubleQuoted, Place.occurs_cons, List.cons_append, start, Place.occurs_append, close,
    Bool.or_false, Bool.false_or]
  exact (closing t '"').trans inside

theorem headed_doubleQuotedBody (h : mentionsOption t = false) :
    Headed optionStart (doubleQuotedBody name t) :=
  Directive.headed_named name.isName (occurs_optionStart_doubleQuoted h)

/-- An option is tried on a text in double quotes if it has the name in front of it. -/
theorem option_doubleQuotedBody (n : BodyName) (value : Text → Option (Text × Text)) (rest : Text) :
    option [n.text] value (some ' ') (doubleQuotedBody name t ++ rest) =
      if n = name then value (doubleQuoted t ++ rest) else none := by
  have names : ∀ m ∈ [n.text], IsName m := List.forall_mem_singleton.2 n.isName
  have written : doubleQuotedBody name t ++ rest = name.text ++ ' ' :: (doubleQuoted t ++ rest) := by
    rw [doubleQuotedBody, List.append_assoc, List.cons_append]
  rw [option, if_pos (by decide), written]
  split
  · rename_i same
    rw [named?_of_mem names name.isName (List.mem_singleton.2 (congrArg _ same.symm))]
    rfl
  · -- two body options have different names, so this one is not tried
    rename_i other
    have unnamed : name.text ∉ [n.text] :=
      fun h => other (BodyName.text_inj (List.mem_singleton.1 h).symm)
    exact named?_of_notMem names name.isName (parted_cons (by decide) _) unnamed

variable {head : Text}
  (hhead : ∀ rest, Parted rest → optionStart.occurs rest none head = false)

include hhead

/-- Behind a head without options, what a search captures is told from the text in double quotes. -/
theorem first?_doubleQuotedBody (h : mentionsOption t = false) (n : BodyName)
    {value : Text → Option (Text × Text)} {captured : Option Text}
    (reads : ∀ rest, (value (doubleQuoted t ++ rest)).map Prod.fst = captured) :
    (option [n.text] value).first? (head ++ ' ' :: doubleQuotedBody name t) =
      if n = name then captured else none := by
  have only : (option [n.text] value).OnlyAt optionStart :=
    onlyAt_option (List.forall_mem_singleton.2 n.isName)
  -- a command of one piece
  have spread : ' ' :: doubleQuotedBody name t =
      spread ([()].map fun _ => doubleQuotedBody name t) := by simp
  have read : ∀ i ∈ [()], ∀ rest, Parted rest →
      (option [n.text] value (some ' ') (doubleQuotedBody name t ++ rest)).map Prod.fst =
        if n = name then captured else none := by
    intro _ _ rest _
    rw [option_doubleQuotedBody]
    split
    · exact reads rest
    · rfl
  rw [first?, firstAfter_append only (hhead _ (parted_cons (by decide) _)), spread,
    firstAfter_spread only (fun _ => stopsAtQuote_optionStart.nil _)
      (fun _ _ => by simp [optionStart, looksLikeOption]) (fun _ _ => headed_doubleQuotedBody h) read]
  cases (if n = name then captured else none) <;> rfl

/-- The body of such a command is the text between the quotes, unfolded. -/
theorem findBody_doubleQuotedBody (hq : '"' ∉ t) (h : mentionsOption t = false) :
    findBody (head ++ ' ' :: doubleQuotedBody name t) = some (unfoldQuotes t) := by
  have quoted : ∀ rest, quotedBy? '"' (doubleQuoted t ++ rest) = some (t, rest) := by
    intro rest
    rw [doubleQuoted, List.cons_append, List.append_assoc, quotedBy?, if_pos rfl]
    exact closed?_append hq rest
  have forms : ∀ n : BodyName,
      [option [n.text] escapedSingle?, option [n.text] (quotedBy? '"'),
        option [n.text] bare?].findSome?
          (fun p => p.first? (head ++ ' ' :: doubleQuotedBody name t)) =
        if n = name then some t else none := by
    intro n
    -- only the form with double quotes captures; the other two do not begin with one
    have single : ∀ rest, (escapedSingle? (doubleQuoted t ++ rest)).map Prod.fst = none := fun _ => rfl
    have double : ∀ rest, (quotedBy? '"' (doubleQuoted t ++ rest)).map Prod.fst = some t :=
      fun rest => congrArg _ (quoted rest)
    have bare : ∀ rest, (bare? (doubleQuoted t ++ rest)).map Prod.fst = none := fun _ => rfl
    rw [List.findSome?_cons, first?_doubleQuotedBody hhead h n single,
      List.findSome?_cons, first?_doubleQuotedBody hhead h n double,
      List.findSome?_cons, first?_doubleQuotedBody hhead h n bare]
    by_cases same : n = name <;> simp [same]
  simp only [findBody_eq, forms]
  rw [BodyName.findSome?_all, Option.map_some]

end DoubleQuoted

/-! ### Commands -/

theorem kept_bareUrl : Kept "curl https://h" :=
  kept_curl.spaced (Kept.bare (t := "https://h") (by decide) (by decide) (by decide))

theorem occurs_optionStart_bareUrl (rest : Text) :
    optionStart.occurs rest none "curl https://h" = false := by
  simp [Place.occurs, optionStart, looksLikeOption]

theorem body_readCommand_eq (command : Text) : (readCommand command {}).request.body =
    ((findBody (normalize command)).map (Body.raw · none)).getD .none := by
  rw [request_readCommand]
  rfl

theorem findBody_normalize_doubleQuoted (name : BodyName) (hq : '"' ∉ t)
    (plain : Directive.Plain t) :
    findBody (normalize ("curl https://h " ++ doubleQuotedBody name t)) = some (unfoldQuotes t) := by
  have kept : Kept (doubleQuotedBody name t) :=
    name.kept.spaced (.doubleQuoted hq plain.unbroken)
  have written : "curl https://h " ++ doubleQuotedBody name t =
      "curl https://h" ++ ' ' :: doubleQuotedBody name t := by simp
  rw [written, (kept_bareUrl.spaced kept).normalize_eq]
  exact findBody_doubleQuotedBody (fun rest _ => occurs_optionStart_bareUrl rest) hq plain.optionless

/-- **A body in double quotes.**  The body of a url and a body option with a text in double quotes is
the text with its escaped apostrophes unfolded, and so the text itself exactly if it has none. -/
theorem body_doubleQuoted_iff (name : BodyName) (hq : '"' ∉ t) (plain : Directive.Plain t) :
    (readCommand ("curl https://h " ++ doubleQuotedBody name t) {}).request.body =
        .raw (unfoldQuotes t) none ∧
      ((readCommand ("curl https://h " ++ doubleQuotedBody name t) {}).request.body = .raw t none ↔
        ¬ escapedQuote <:+: t) := by
  have body : (readCommand ("curl https://h " ++ doubleQuotedBody name t) {}).request.body =
      .raw (unfoldQuotes t) none := by
    rw [body_readCommand_eq, findBody_normalize_doubleQuoted name hq plain]
    rfl
  refine ⟨body, ?_⟩
  rw [body, Body.raw.injEq, ← unfoldQuotes_eq_self_iff]
  exact and_iff_left rfl

/-- Apostrophes and backslashes that spell no escaped apostrophe are kept, also in front of the closing
quote. -/
theorem body_doubleQuoted_kept :
    (readCommand ("curl https://h " ++ doubleQuotedBody .dataRaw "'\\'it''s \\''\\") {}).request.body =
      .raw "'\\'it''s \\''\\" none :=
  (body_doubleQuoted_iff (t := "'\\'it''s \\''\\") .dataRaw (by decide +kernel)
    (by decide +kernel)).2.2 (by decide +kernel)

/-- In double quotes the sequence loses three of its four characters. -/
theorem body_doubleQuoted_escaped :
    '"' ∉ ("a'\\''b" : Text) ∧ Directive.Plain "a'\\''b" ∧
      (readCommand "curl https://h -d \"a'\\''b\"" {}).request.body = .raw "a'b" none ∧
      (readCommand "curl https://h -d \"a'\\''b\"" {}).request.body ≠ .raw "a'\\''b" none := by
  decide +kernel

end CurlSnippets.Command
