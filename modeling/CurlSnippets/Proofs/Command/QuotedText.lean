import CurlSnippets.Command.Findings
import CurlSnippets.Proofs.Command.Layout

/-!
# Quoted text in the normal layout

A command of tokens with a space between them: bare words, words in apostrophes, and words in double
quotes.  Blanks between quotes are kept as they are.  Line continuations are not: they are joined before
quotes are looked at, and so each becomes a space between quotes as well (`normalize_spelled`).  A
command of tokens is in normal layout exactly if no quotes hold a line continuation
(`normalize_spelled_eq_self_iff`).

How tokens are laid out makes no difference.  With any blanks and line continuations between them the
normal layout of tokens without line continuations is the tokens with a space between them, and so what
is read in them does not depend on the layout (`readCommand_arranged`).
-/

namespace CurlSnippets.Command

/-! ### Line continuations -/

variable {t x y : Text}

/-- Whether what follows a text cannot complete a line continuation in it. -/
def Closes (y : Text) : Prop := ∀ c ∈ y.head?, c ≠ '\n' ∧ c ≠ '\r'

theorem closes_nil : Closes [] := by simp [Closes]

theorem closes_cons {c : Char} (h : c ≠ '\n' ∧ c ≠ '\r') (y : Text) : Closes (c :: y) := by
  simpa [Closes] using h

/-- Whether a text begins with a line break. -/
def beginsBreak (t : Text) : Bool := Text.beginsWith "\n" t || Text.beginsWith "\r\n" t

theorem beginsBreak_iff :
    beginsBreak t ↔ (∃ u, t = '\n' :: u) ∨ ∃ u, t = '\r' :: '\n' :: u := by
  have written : ∀ mark : Text, mark <+: t ↔ ∃ u, t = mark ++ u := fun mark =>
    ⟨fun ⟨u, hu⟩ => ⟨u, hu.symm⟩, fun ⟨u, hu⟩ => ⟨u, hu.symm⟩⟩
  rw [beginsBreak, Bool.or_eq_true, Text.beginsWith_iff, Text.beginsWith_iff, written, written]
  rfl

theorem beginsBreak_append (hy : Closes y) (x : Text) : beginsBreak (x ++ y) = beginsBreak x := by
  cases y with
  | nil => rw [List.append_nil]
  | cons d y =>
    obtain ⟨lineFeed, carriageReturn⟩ := hy d rfl
    -- neither spelling of a line break can go on into `d`
    have short : d ∉ ("\n" : Text) := by simpa using lineFeed
    have long : d ∉ ("\r\n" : Text) := by simpa using ⟨carriageReturn, lineFeed⟩
    rw [beginsBreak, Text.beginsWith_append_of_notMem short, Text.beginsWith_append_of_notMem long,
      beginsBreak]

/-- A continuation begins with a backslash in front of a line break. -/
theorem continuation_cons (before : Option Char) (c : Char) (t : Text) :
    continuation before (c :: t) = (decide (c = '\\') && beginsBreak t) := by
  by_cases hc : c = '\\'
  · subst hc
    rfl
  · simp [continuation, Text.beginsWith, Text.after?, hc, Ne.symm hc]

theorem continuation_append (hy : Closes y) (before : Option Char) (c : Char) (x : Text) :
    continuation before (c :: (x ++ y)) = continuation before (c :: x) := by
  rw [continuation_cons, continuation_cons, beginsBreak_append hy]

theorem continuesLine_cons (c : Char) (t : Text) :
    continuesLine (c :: t) = (continuation none (c :: t) || continuesLine t) := by
  rw [← occurs_continuation none, Place.occurs_cons, List.append_nil, occurs_continuation]

theorem continuesLine_append (hy : Closes y) (x : Text) :
    continuesLine (x ++ y) = (continuesLine x || continuesLine y) := by
  induction x with
  | nil => rfl
  | cons c x ih =>
    rw [List.cons_append, continuesLine_cons, continuation_append hy, ih, continuesLine_cons,
      Bool.or_assoc]

/-- No continuation stands in a part of a text that holds none. -/
theorem continuesLine_of_infix (h : x <:+: y) (hy : continuesLine y = false) :
    continuesLine x = false := by
  have part : ∀ {mark : Text}, Text.occursIn mark y = false → Text.occursIn mark x = false := by
    intro mark none
    rw [Bool.eq_false_iff, Ne, Text.occursIn_iff] at none ⊢
    exact fun inside => none (inside.trans h)
  rw [continuesLine, Bool.or_eq_false_iff] at hy ⊢
  exact hy.imp part part

theorem continuation_eq_false {c : Char} (h : c ≠ '\\') (before : Option Char) (t : Text) :
    continuation before (c :: t) = false := by
  rw [continuation_cons, decide_eq_false h, Bool.false_and]

/-- Nothing is joined at a character where neither spelling of a continuation begins. -/
theorem continuation_of_alone {c : Char} {rest : Text}
    (crlf : ∀ u, c = '\\' → rest = '\r' :: '\n' :: u → False)
    (lf : ∀ u, c = '\\' → rest = '\n' :: u → False) : continuation none (c :: rest) = false := by
  by_contra h
  rw [Bool.not_eq_false, continuation_cons, Bool.and_eq_true, decide_eq_true_eq,
    beginsBreak_iff] at h
  obtain ⟨hc, ⟨u, hu⟩ | ⟨u, hu⟩⟩ := h
  · exact lf u hc hu
  · exact crlf u hc hu

theorem joinLines_append_of_closes (hy : Closes y) (x : Text) :
    joinLines (x ++ y) = joinLines x ++ joinLines y := by
  fun_induction joinLines x with
  | case1 => rfl
  | case2 rest ih => simp only [List.cons_append, joinLines, ih]
  | case3 rest ih => simp only [List.cons_append, joinLines, ih]
  | case4 c rest crlf lf ih =>
    -- what follows completes no continuation that `c` could begin
    have alone := continuation_of_alone crlf lf
    rw [← continuation_append hy none] at alone
    rw [List.cons_append, joinLines_cons alone, ih, List.cons_append]

theorem joinLines_of_continuesLine (h : continuesLine t = false) : joinLines t = t := by
  have kept : joinLines (t ++ []) = t ++ joinLines [] :=
    joinLines_append none ((occurs_continuation none t).trans h)
  simpa [joinLines] using kept

theorem mem_joinLines {c : Char} (h : c ∈ joinLines t) : c = ' ' ∨ c ∈ t := by
  fun_induction joinLines t with
  | case1 => exact .inr h
  | case2 rest ih =>
    -- both spellings leave a space in their place
    rcases List.mem_cons.1 h with rfl | h
    · exact .inl rfl
    · exact (ih h).imp_right fun old => by simp [old]
  | case3 rest ih =>
    rcases List.mem_cons.1 h with rfl | h
    · exact .inl rfl
    · exact (ih h).imp_right fun old => by simp [old]
  | case4 d rest _ _ ih =>
    rcases List.mem_cons.1 h with rfl | h
    · exact .inr List.mem_cons_self
    · exact (ih h).imp_right (List.mem_cons_of_mem d)

/-- A character that joining leaves and that is no space was there before. -/
theorem joinLines_eq_cons {c : Char} {u : Text} (hc : c ≠ ' ') (h : joinLines t = c :: u) :
    ∃ v, t = c :: v ∧ joinLines v = u := by
  fun_induction joinLines t with
  | case1 => exact absurd h (by simp)
  -- a continuation would have left a space
  | case2 rest => exact absurd (List.cons.inj h).1.symm hc
  | case3 rest => exact absurd (List.cons.inj h).1.symm hc
  | case4 d rest =>
    obtain ⟨rfl, rfl⟩ := List.cons.inj h
    exact ⟨rest, rfl, rfl⟩

/-- No continuation is left, and none comes about. -/
theorem continuesLine_joinLines (t : Text) : continuesLine (joinLines t) = false := by
  fun_induction joinLines t with
  | case1 => rfl
  | case2 rest ih => rw [continuesLine_cons, continuation_eq_false (by decide), ih, Bool.or_false]
  | case3 rest ih => rw [continuesLine_cons, continuation_eq_false (by decide), ih, Bool.or_false]
  | case4 c rest crlf lf ih =>
    have alone : continuation none (c :: joinLines rest) = false := by
      -- a line break behind `c` is no space, so that joining found it there
      refine continuation_of_alone ?_ ?_
      · intro u hc joined
        obtain ⟨v, rfl, tail⟩ := joinLines_eq_cons (by decide) joined
        obtain ⟨w, rfl, -⟩ := joinLines_eq_cons (by decide) tail
        exact crlf w hc rfl
      · intro u hc joined
        obtain ⟨v, rfl, -⟩ := joinLines_eq_cons (by decide) joined
        exact lf v hc rfl
    rw [continuesLine_cons, alone, ih, Bool.or_false]

theorem joinLines_eq_self_iff : joinLines t = t ↔ continuesLine t = false := by
  refine ⟨fun same => ?_, joinLines_of_continuesLine⟩
  have nothing := continuesLine_joinLines t
  rwa [same] at nothing

/-- Joining the lines beforehand makes no difference to the normal layout. -/
theorem normalize_joinLines (t : Text) : normalize (joinLines t) = normalize t := by
  rw [normalize, joinLines_of_continuesLine (continuesLine_joinLines t), ← normalize]

/-! ### Quotes -/

theorem joinLines_escaped (v : Text) : joinLines (escaped v) = escaped (joinLines v) := by
  fun_induction joinLines v with
  | case1 => rfl
  | case2 rest ih =>
    have gap : escaped ('\\' :: '\r' :: '\n' :: rest) = '\\' :: '\r' :: '\n' :: escaped rest := rfl
    have space : escaped (' ' :: joinLines rest) = ' ' :: escaped (joinLines rest) := rfl
    rw [gap, joinLines, ih, space]
  | case3 rest ih =>
    have gap : escaped ('\\' :: '\n' :: rest) = '\\' :: '\n' :: escaped rest := rfl
    have space : escaped (' ' :: joinLines rest) = ' ' :: escaped (joinLines rest) := rfl
    rw [gap, joinLines, ih, space]
  | case4 c rest crlf lf ih =>
    -- an escape begins with an apostrophe, so it makes no line break behind a backslash
    by_cases hc : c = '\''
    · subst hc
      simp [escaped_quote_cons, joinLines, ih]
    · have alone : continuation none (c :: escaped rest) = false := by
        have close : Closes ['\''] := closes_cons (by decide) []
        rw [← continuation_append close, stopsAtQuote_continuation.escaped_cons]
        exact continuation_of_alone crlf lf
      rw [escaped_cons_of_ne hc, escaped_cons_of_ne hc, joinLines_cons alone, ih]

/-- The lines of a word in apostrophes are joined between them. -/
theorem joinLines_shell (v : Text) : joinLines (Literal.shell v) = Literal.shell (joinLines v) := by
  have close : joinLines ['\''] = ['\''] := by simp [joinLines]
  rw [shell_eq, shell_eq, joinLines_cons (continuation_eq_false (by decide) none _),
    joinLines_append_of_closes (closes_cons (by decide) []), joinLines_escaped, close]

theorem continuesLine_shell (v : Text) : continuesLine (Literal.shell v) = continuesLine v := by
  rw [← occurs_continuation none, Place.occurs_shell stopsAtQuote_continuation, occurs_continuation]

/-- A word in double quotes. -/
def doubleQuoted (v : Text) : Text := '"' :: (v ++ ['"'])

theorem joinLines_doubleQuoted (v : Text) :
    joinLines (doubleQuoted v) = doubleQuoted (joinLines v) := by
  have close : joinLines ['"'] = ['"'] := by simp [joinLines]
  rw [doubleQuoted, joinLines_cons (continuation_eq_false (by decide) none _),
    joinLines_append_of_closes (closes_cons (by decide) []), close, doubleQuoted]

theorem continuesLine_doubleQuoted (v : Text) :
    continuesLine (doubleQuoted v) = continuesLine v := by
  have close : continuesLine ['"'] = false := by decide
  rw [doubleQuoted, continuesLine_cons, continuation_eq_false (by decide), Bool.false_or,
    continuesLine_append (closes_cons (by decide) []), close, Bool.or_false]

theorem doubleSpan?_append {v : Text} (h : '"' ∉ v) (rest : Text) :
    doubleSpan? (v ++ '"' :: rest) = some (v.length + 1) := by
  induction v with
  | nil => rfl
  | cons c v ih =>
    obtain ⟨hc, hv⟩ := not_or.1 fun h' => h (List.mem_cons.2 h')
    rw [List.cons_append, doubleSpan?, if_neg (Ne.symm hc), ih hv]
    rfl

/-- A word in double quotes with no line continuation between them. -/
theorem Kept.doubleQuoted {v : Text} (h : '"' ∉ v) (unbroken : continuesLine v = false) :
    Kept (doubleQuoted v) where
  joinLines rest := by
    have close : Closes ('"' :: rest) := closes_cons (by decide) rest
    have text : Command.doubleQuoted v ++ rest = '"' :: (v ++ '"' :: rest) := by
      simp [Command.doubleQuoted]
    rw [text, joinLines_cons (continuation_eq_false (by decide) none _),
      joinLines_append_of_closes close, joinLines_of_continuesLine unbroken,
      joinLines_cons (continuation_eq_false (by decide) none _)]
    simp [Command.doubleQuoted]
  squeeze rest _ := by
    have span : spanLength? ('"' :: (v ++ ['"'] ++ rest)) = some (v ++ ['"']).length := by
      simpa [spanLength?] using doubleSpan?_append h rest
    rw [Command.doubleQuoted, List.cons_append, squeeze_span span, List.cons_append]
  first := ⟨'"', _, rfl, by decide⟩
  last := ⟨'"' :: v, '"', rfl, by decide⟩

/-! ### Tokens -/

/-- A word of a command as it is written. -/
inductive Token where
  | bare (t : Text)
  /-- Any text in apostrophes. -/
  | single (v : Text)
  /-- A text between double quotes. -/
  | double (v : Text)

namespace Token

/-- How a token is written. -/
def text : Token → Text
  | .bare t => t
  | .single v => Literal.shell v
  | .double v => doubleQuoted v

/-- A bare word has neither blanks nor quotes in it and no backslash at its end; a text between double
quotes has none in it. -/
def WellFormed : Token → Prop
  | .bare t => t ≠ [] ∧ t.all isBare ∧ t.getLast? ≠ some '\\'
  | .single _ => True
  | .double v => '"' ∉ v

/-- Whether there is a line continuation between the quotes of a token. -/
def continues : Token → Bool
  | .bare _ => false
  | .single v => continuesLine v
  | .double v => continuesLine v

/-- The token with the lines between its quotes joined. -/
def joined : Token → Token
  | .bare t => .bare t
  | .single v => .single (joinLines v)
  | .double v => .double (joinLines v)

instance : DecidablePred WellFormed := fun token =>
  match token with
  | .bare t => inferInstanceAs (Decidable (t ≠ [] ∧ t.all isBare ∧ t.getLast? ≠ some '\\'))
  | .single _ => inferInstanceAs (Decidable True)
  | .double v => inferInstanceAs (Decidable ('"' ∉ v))

variable {token : Token}

theorem kept_joined (h : token.WellFormed) : Kept token.joined.text := by
  cases token with
  | bare t =>
    obtain ⟨some, bare, last⟩ := h
    exact .bare some bare last
  | single v => exact .shell (continuesLine_joinLines v)
  | double v =>
    -- joining puts in spaces only
    have quoteless : '"' ∉ joinLines v := by
      intro inside
      rcases mem_joinLines inside with space | old
      · exact absurd space (by decide)
      · exact h old
    exact .doubleQuoted quoteless (continuesLine_joinLines v)

theorem joinLines_text (h : token.WellFormed) : joinLines token.text = token.joined.text := by
  cases token with
  | bare t =>
    -- a bare word stays as it is
    have kept : joinLines (t ++ []) = t ++ joinLines [] := (kept_joined h).joinLines []
    show joinLines t = t
    simpa [joinLines] using kept
  | single v => exact joinLines_shell v
  | double v => exact joinLines_doubleQuoted v

theorem continuesLine_text (h : token.WellFormed) : continuesLine token.text = token.continues := by
  cases token with
  | bare t => exact joinLines_eq_self_iff.1 (joinLines_text h)
  | single v => exact continuesLine_shell v
  | double v => exact continuesLine_doubleQuoted v

end Token

/-! ### Commands of tokens -/

/-- Tokens with a space between them. -/
def spelled (tokens : List Token) : Text := Text.join " " (tokens.map Token.text)

variable {tokens : List Token}

theorem spelled_cons (token : Token) (tokens : List Token) :
    spelled (token :: tokens) = token.text ++ spread (tokens.map Token.text) := by
  rw [spelled, List.map_cons, Text.join_cons]
  rfl

theorem closes_spread (pieces : List Text) : Closes (spread pieces) := by
  cases pieces with
  | nil => exact closes_nil
  | cons p pieces => exact closes_cons (by decide) _

theorem joinLines_spread (h : ∀ t ∈ tokens, t.WellFormed) :
    joinLines (spread (tokens.map Token.text)) =
      spread ((tokens.map Token.joined).map Token.text) := by
  induction tokens with
  | nil => rfl
  | cons t tokens ih =>
    have others := ih fun u hu => h u (List.mem_cons_of_mem t hu)
    rw [List.map_cons, spread_cons, joinLines_blank_cons (by decide),
      joinLines_append_of_closes (closes_spread _), Token.joinLines_text (h t List.mem_cons_self),
      others]
    rfl

theorem joinLines_spelled (h : ∀ t ∈ tokens, t.WellFormed) :
    joinLines (spelled tokens) = spelled (tokens.map Token.joined) := by
  cases tokens with
  | nil => rfl
  | cons t tokens =>
    rw [spelled_cons, joinLines_append_of_closes (closes_spread _),
      Token.joinLines_text (h t List.mem_cons_self),
      joinLines_spread fun u hu => h u (List.mem_cons_of_mem t hu), List.map_cons, spelled_cons]

theorem continuesLine_spread (h : ∀ t ∈ tokens, t.WellFormed) :
    continuesLine (spread (tokens.map Token.text)) = tokens.any Token.continues := by
  induction tokens with
  | nil => rfl
  | cons t tokens ih =>
    have others := ih fun u hu => h u (List.mem_cons_of_mem t hu)
    rw [List.map_cons, spread_cons, continuesLine_cons, continuation_eq_false (by decide),
      Bool.false_or, continuesLine_append (closes_spread _),
      Token.continuesLine_text (h t List.mem_cons_self), others, List.any_cons]

theorem continuesLine_spelled (h : ∀ t ∈ tokens, t.WellFormed) :
    continuesLine (spelled tokens) = tokens.any Token.continues := by
  cases tokens with
  | nil => rfl
  | cons t tokens =>
    rw [spelled_cons, continuesLine_append (closes_spread _),
      Token.continuesLine_text (h t List.mem_cons_self),
      continuesLine_spread fun u hu => h u (List.mem_cons_of_mem t hu), List.any_cons]

/-- In the normal layout of a command of tokens lines are joined everywhere, and nothing else changes. -/
theorem normalize_spelled (h : ∀ t ∈ tokens, t.WellFormed) :
    normalize (spelled tokens) = spelled (tokens.map Token.joined) := by
  -- once their lines are joined the tokens are kept pieces
  rw [← normalize_joinLines, joinLines_spelled h]
  cases tokens with
  | nil => rfl
  | cons t tokens =>
    rw [List.map_cons, spelled_cons]
    refine normalize_spread (Token.kept_joined (h t List.mem_cons_self)) fun p hp => ?_
    rw [List.map_map] at hp
    obtain ⟨u, hu, rfl⟩ := List.mem_map.1 hp
    exact Token.kept_joined (h u (List.mem_cons_of_mem t hu))

/-- **Quoted text is kept as written exactly where no line continuation stands in it.**  Elsewhere the
normal layout joins the lines between the quotes. -/
theorem normalize_spelled_eq_self_iff (h : ∀ t ∈ tokens, t.WellFormed) :
    normalize (spelled tokens) = spelled (tokens.map Token.joined) ∧
      (normalize (spelled tokens) = spelled tokens ↔ ∀ t ∈ tokens, t.continues = false) := by
  refine ⟨normalize_spelled h, ?_⟩
  rw [normalize_spelled h, ← joinLines_spelled h, joinLines_eq_self_iff, continuesLine_spelled h,
    List.any_eq_false]
  simp

theorem normalize_spelled_eq_self_blanks :
    normalize "curl 'it'\\''s\n\n here' \"\t\\\"" = "curl 'it'\\''s\n\n here' \"\t\\\"" := by
  have wellFormed : ∀ t ∈ [Token.bare "curl", .single "it's\n\n here", .double "\t\\"],
      t.WellFormed := by decide +kernel
  have unbroken : ∀ t ∈ [Token.bare "curl", .single "it's\n\n here", .double "\t\\"],
      t.continues = false := by decide +kernel
  exact (normalize_spelled_eq_self_iff wellFormed).2.2 unbroken

/-- A backslash before a line break is lost between apostrophes, and so is the line break. -/
theorem normalize_continued :
    (∀ t ∈ [Token.bare "curl", .bare "-d", .single "a\\\nb"], t.WellFormed) ∧
      spelled [.bare "curl", .bare "-d", .single "a\\\nb"] = "curl -d 'a\\\nb'" ∧
      normalize "curl -d 'a\\\nb'" = "curl -d 'a b'" ∧
      normalize "curl -d 'a\\\nb'" ≠ "curl -d 'a\\\nb'" := by
  decide +kernel

/-! ### Tokens in any layout -/

/-- The tokens with a space between them are in one of their layouts. -/
theorem arranged_spelled (tokens : List Token) :
    Arranged (tokens.map Token.text) (spelled tokens) := by
  cases tokens with
  | nil => exact .nil .nil
  | cons token tokens =>
    rw [spelled_cons, List.map_cons]
    exact .cons .nil (following_spread _)

theorem Token.kept (h : ∀ t ∈ tokens, t.WellFormed ∧ t.continues = false) :
    ∀ p ∈ tokens.map Token.text, Kept p := by
  intro p hp
  obtain ⟨t, ht, rfl⟩ := List.mem_map.1 hp
  obtain ⟨wellFormed, unbroken⟩ := h t ht
  -- without continuations joining changes nothing
  have same : t.joined.text = t.text := by
    rw [← Token.joinLines_text wellFormed, joinLines_eq_self_iff,
      Token.continuesLine_text wellFormed, unbroken]
  exact same ▸ Token.kept_joined wellFormed

/-- **The layout of a command does not matter.**  Tokens without line continuations come out with one
space between them from any layout, and any two layouts of them are read alike over any defaults. -/
theorem readCommand_arranged (h : ∀ t ∈ tokens, t.WellFormed ∧ t.continues = false) {command : Text}
    (hc : Arranged (tokens.map Token.text) command) :
    normalize command = spelled tokens ∧
      ∀ other, Arranged (tokens.map Token.text) other →
        ∀ defaults, readCommand other defaults = readCommand command defaults := by
  have normal : ∀ t, Arranged (tokens.map Token.text) t → normalize t = spelled tokens :=
    fun _ ht => normalize_arranged ht (Token.kept h)
  refine ⟨normal command hc, fun other ho defaults => ?_⟩
  -- reading a command sees its normal layout only
  have same : Findings.ofCommand other = Findings.ofCommand command := by
    rw [Findings.ofCommand, normal other ho, Findings.ofCommand, normal command hc]
  rw [readCommand, same, readCommand]

/-- Quoted blanks and apostrophes, laid out over several lines and in one. -/
theorem readCommand_arranged_lines :
    normalize "\t\\\r\ncurl \\\n\n-d 'it'\\''s \n\"'\u2003\"it's\"\\\n" =
        "curl -d 'it'\\''s \n\"' \"it's\"" ∧
      readCommand "curl -d 'it'\\''s \n\"' \"it's\"" {} =
        readCommand "\t\\\r\ncurl \\\n\n-d 'it'\\''s \n\"'\u2003\"it's\"\\\n" {} := by
  have wellFormed : ∀ t ∈ [Token.bare "curl", .bare "-d", .single "it's \n\"", .double "it's"],
      t.WellFormed ∧ t.continues = false := by decide +kernel
  have lines : Arranged
      [(Token.bare "curl").text, (Token.bare "-d").text, (Token.single "it's \n\"").text,
        (Token.double "it's").text]
      (['\t', '\\', '\r', '\n'] ++ ((Token.bare "curl").text ++ ([' ', '\\', '\n', '\n'] ++
        ((Token.bare "-d").text ++ ([' '] ++ ((Token.single "it's \n\"").text ++ (['\u2003'] ++
          ((Token.double "it's").text ++ ['\\', '\n'])))))))) :=
    .cons (.blank (by decide) (.carriageReturn .nil))
      (.cons (by decide) (.blank (by decide) (.lineFeed (.blank (by decide) .nil)))
        (.cons (by decide) (.blank (by decide) .nil)
          (.cons (by decide) (.blank (by decide) .nil) (.nil (.lineFeed .nil)))))
  have written : ("\t\\\r\ncurl \\\n\n-d 'it'\\''s \n\"'\u2003\"it's\"\\\n" : Text) =
      ['\t', '\\', '\r', '\n'] ++ ((Token.bare "curl").text ++ ([' ', '\\', '\n', '\n'] ++
        ((Token.bare "-d").text ++ ([' '] ++ ((Token.single "it's \n\"").text ++ (['\u2003'] ++
          ((Token.double "it's").text ++ ['\\', '\n']))))))) := by decide +kernel
  have spaced : ("curl -d 'it'\\''s \n\"' \"it's\"" : Text) =
      spelled [.bare "curl", .bare "-d", .single "it's \n\"", .double "it's"] := by decide +kernel
  obtain ⟨normal, alike⟩ := readCommand_arranged wellFormed lines
  rw [written, spaced]
  exact ⟨normal, alike _ (arranged_spelled _) {}⟩

end CurlSnippets.Command
