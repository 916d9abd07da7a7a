import CurlSnippets.Command.Options
import CurlSnippets.Proofs.Text.Laws
import CurlSnippets.Snippet.Literal

/-!
# Places in a command

Everything that is looked for in a command begins at a place of some kind: a line continuation at a
backslash before a line break, an option at the start of a token, a url behind the word `curl`.  What
has no place of the kind in it can be passed over.

A text in apostrophes has the places that it has alone (`occurs_shell`), for every kind of place that
is not told from what stands behind an apostrophe (`StopsAtQuote`).
-/

namespace CurlSnippets.Command

/-- A kind of place, told from the character before a place and the text from there on. -/
abbrev Place := Option Char → Text → Bool

namespace Place

/-- Whether there is such a place in `x`, which stands behind `before` and in front of `rest`. -/
def occurs (g : Place) (rest : Text) : Option Char → Text → Bool
  | _, [] => false
  | before, c :: x => g before (c :: x ++ rest) || occurs g rest (some c) x

variable {g : Place}

theorem occurs_cons (rest : Text) (before : Option Char) (c : Char) (x : Text) :
    g.occurs rest before (c :: x) = (g before (c :: x ++ rest) || g.occurs rest (some c) x) := rfl

theorem occurs_append (rest : Text) (before : Option Char) (x y : Text) :
    g.occurs rest before (x ++ y) =
      (g.occurs (y ++ rest) before x || g.occurs rest (x.getLast?.or before) y) := by
  induction x generalizing before with
  | nil => simp [occurs]
  | cons c x ih =>
    rw [List.cons_append, occurs_cons, ih, occurs_cons, List.getLast?_cons, Bool.or_assoc]
    cases x.getLast? <;> simp

end Place

/-! ### Words in apostrophes -/

/-- The text between the apostrophes of a quoted word. -/
def escaped (t : Text) : Text := t.flatMap Literal.shellEscape

theorem shell_eq (t : Text) : Literal.shell t = '\'' :: (escaped t ++ ['\'']) := by
  simp [Literal.shell, Literal.enclose, escaped]

@[simp] theorem escaped_nil : escaped [] = [] := rfl

theorem escaped_quote_cons (t : Text) :
    escaped ('\'' :: t) = '\'' :: '\\' :: '\'' :: '\'' :: escaped t := rfl

theorem escaped_cons_of_ne {c : Char} (h : c ≠ '\'') (t : Text) :
    escaped (c :: t) = c :: escaped t := by
  simp [escaped, Literal.shellEscape, h]

/-- A text without apostrophes stands between them as it is. -/
theorem escaped_of_notMem {t : Text} (h : '\'' ∉ t) : escaped t = t := by
  induction t with
  | nil => rfl
  | cons c t ih =>
    obtain ⟨hc, ht⟩ := not_or.1 fun h' => h (List.mem_cons.2 h')
    rw [escaped_cons_of_ne (Ne.symm hc), ih ht]

/-- The stretch of `t` up to its first apostrophe is that of its written form. -/
theorem exists_escaped_eq (t rest : Text) :
    (∃ y, escaped t ++ '\'' :: rest = t ++ '\'' :: y) ∨
      ∃ x y z, t = x ++ '\'' :: y ∧ escaped t ++ '\'' :: rest = x ++ '\'' :: z := by
  induction t with
  | nil => exact .inl ⟨rest, rfl⟩
  | cons c t ih =>
    -- the escape of an apostrophe begins with one, so the two texts part here
    by_cases hc : c = '\''
    · subst hc
      exact .inr ⟨[], t, _, rfl, rfl⟩
    · rw [escaped_cons_of_ne hc]
      rcases ih with ⟨y, hy⟩ | ⟨x, y, z, ht, hz⟩
      · exact .inl ⟨y, by rw [List.cons_append, hy]; rfl⟩
      · exact .inr ⟨c :: x, y, z, by rw [ht]; rfl, by rw [List.cons_append, hz]; rfl⟩

namespace Place

variable {g : Place}

/-- A kind of place that is told from nothing behind an apostrophe, and that neither an apostrophe
nor a backslash before one is of. -/
structure StopsAtQuote (g : Place) : Prop where
  append : ∀ before x y, g before (x ++ '\'' :: y) = g before x
  nil : ∀ before, g before [] = false
  backslash : ∀ before, g before ['\\'] = false

theorem StopsAtQuote.quote (h : g.StopsAtQuote) (before : Option Char) (t : Text) :
    g before ('\'' :: t) = false := by
  rw [← List.nil_append ('\'' :: t), h.append, h.nil]

theorem StopsAtQuote.escaped_cons (h : g.StopsAtQuote) (before : Option Char) (c : Char)
    (t rest : Text) : g before (c :: (escaped t ++ '\'' :: rest)) = g before (c :: t) := by
  rcases exists_escaped_eq t rest with ⟨y, hy⟩ | ⟨x, y, z, ht, hz⟩
  · -- no apostrophe in `t`: the closing one is the first
    rw [hy, ← List.cons_append, h.append]
  · -- both forms go on with an apostrophe behind `x`
    rw [hz, ht, ← List.cons_append, ← List.cons_append, h.append, h.append]

theorem occurs_escaped (h : g.StopsAtQuote) (before : Option Char) (t rest : Text) :
    g.occurs ('\'' :: rest) before (escaped t) = g.occurs [] before t := by
  induction t generalizing before with
  | nil => rfl
  | cons c t ih =>
    by_cases hc : c = '\''
    · subst hc
      -- none of the four characters of the escape is at such a place
      have hb := h.append (some '\'') ['\\'] ('\'' :: (escaped t ++ '\'' :: rest))
      simp only [List.cons_append, List.nil_append, h.backslash] at hb
      simp only [escaped_quote_cons, occurs_cons, List.cons_append, h.quote, hb, ih,
        Bool.false_or]
    · simp only [escaped_cons_of_ne hc, occurs_cons, List.cons_append, h.escaped_cons, ih,
        List.append_nil]

/-- A text in apostrophes has the places it has alone behind an apostrophe. -/
theorem occurs_shell (h : g.StopsAtQuote) (before : Option Char) (t rest : Text) :
    g.occurs rest before (Literal.shell t) = g.occurs [] (some '\'') t := by
  have close : ∀ b, g.occurs rest b ['\''] = false := fun b => by simp [occurs, h.quote]
  rw [shell_eq, occurs_cons, occurs_append, List.cons_append, h.quote, close, Bool.or_false,
    Bool.false_or]
  exact occurs_escaped h _ t rest

end Place

/-! ### Line continuations -/

/-- Where a line continuation begins. -/
def continuation : Place := fun _ t => Text.beginsWith "\\\n" t || Text.beginsWith "\\\r\n" t

/-- Whether a line continuation stands in a text. -/
def continuesLine (t : Text) : Bool := Text.occursIn "\\\n" t || Text.occursIn "\\\r\n" t

theorem occurs_continuation (before : Option Char) (t : Text) :
    continuation.occurs [] before t = continuesLine t := by
  induction t generalizing before with
  | nil => rfl
  | cons c t ih =>
    simp only [Place.occurs_cons, continuation, ih, continuesLine, Text.occursIn, List.append_nil]
    ac_rfl

theorem stopsAtQuote_continuation : continuation.StopsAtQuote where
  append _ x y := by
    simp only [continuation, Text.beginsWith_append_of_notMem (c := '\'')
      (show '\'' ∉ ("\\\n" : Text) by decide), Text.beginsWith_append_of_notMem (c := '\'')
      (show '\'' ∉ ("\\\r\n" : Text) by decide)]
  nil _ := by simp [continuation, Text.beginsWith, Text.after?]
  backslash _ := by simp [continuation, Text.beginsWith, Text.after?]

/-! ### Options -/

/-- Whether a text begins as the name of an option does: a hyphen, and a letter or another one. -/
def looksLikeOption : Text → Bool
  | '-' :: c :: _ => c.isAlpha || c = '-'
  | _ => false

/-- Where an option can begin. -/
def optionStart : Place := fun before t => beginsToken before && looksLikeOption t

/-- Whether a blank with something behind it that looks like an option stands in a text. -/
def mentionsOption : Text → Bool
  | [] => false
  | c :: t => (Text.isBlank c && looksLikeOption t) || mentionsOption t

theorem occurs_optionStart (c : Char) (t : Text) :
    optionStart.occurs [] (some c) t = mentionsOption (c :: t) := by
  induction t generalizing c with
  | nil => simp [Place.occurs, mentionsOption, looksLikeOption]
  | cons d t ih => rw [Place.occurs_cons, ih, mentionsOption, List.append_nil]; rfl

theorem stopsAtQuote_optionStart : optionStart.StopsAtQuote where
  append before x y := by
    have look : looksLikeOption (x ++ '\'' :: y) = looksLikeOption x := by
      match x with
      | [] => rfl
      | [c] => by_cases hc : c = '-' <;> simp [looksLikeOption, hc]
      | c :: d :: x => by_cases hc : c = '-' <;> simp [looksLikeOption, hc]
    simp only [optionStart, look]
  nil _ := by simp [optionStart, looksLikeOption]
  backslash _ := by simp [optionStart, looksLikeOption]

/-! ### The word `curl` -/

/-- Whether a text is the word `curl` up to its first blank. -/
def isCurlWord (t : Text) : Bool :=
  match Text.after? "curl" t with
  | some (c :: _) => Text.isBlank c
  | _ => false

/-- Where the word `curl` stands with a blank behind it. -/
def curlWord : Place := fun before t => !before.any Text.isWord && isCurlWord t

/-- Whether the word `curl` stands in a text with a blank behind it. -/
def mentionsCurl (t : Text) : Bool := curlWord.occurs [] none t

theorem occurs_curlWord (t : Text) : curlWord.occurs [] (some '\'') t = mentionsCurl t := by
  cases t with
  | nil => rfl
  | cons c t =>
    simp [mentionsCurl, Place.occurs_cons, curlWord, show Text.isWord '\'' = false by decide]

theorem stopsAtQuote_curlWord : curlWord.StopsAtQuote where
  append before x y := by
    have look : isCurlWord (x ++ '\'' :: y) = isCurlWord x := by
      rw [isCurlWord, Text.after?_append_of_notMem (by decide), isCurlWord]
      -- an apostrophe is no blank, and neither is the end
      match Text.after? "curl" x with
      | none => rfl
      | some [] => exact (by decide : Text.isBlank '\'' = false)
      | some (c :: _) => rfl
    simp only [curlWord, look]
  nil _ := by simp [curlWord, isCurlWord, Text.after?]
  backslash _ := by simp [curlWord, isCurlWord, Text.after?]

end CurlSnippets.Command
