import CurlSnippets.Proofs.Command.Places

/-!
# Words of the shell

How a shell splits a command into words.  Outside quotes blanks separate words, a backslash quotes the
next character, and a backslash before a line feed is dropped with it.  Between apostrophes every
character stands for itself; between double quotes a backslash quotes only a few.  A text whose words
cannot be told from its quoting alone is refused: with an operator, a line feed or an expansion outside
apostrophes, or with quotes that are not closed.

A text in apostrophes is one word, whatever it is (`wordsFrom_shell`).  A text put between apostrophes
as it is, with an apostrophe in it, is never read as that word (`wordsFrom_unescaped_ne`).
-/

namespace CurlSnippets.Shell

/-- How the next character is quoted. -/
inductive Mode where
  | bare
  /-- Behind a backslash outside quotes. -/
  | escaped
  /-- Between apostrophes. -/
  | single
  /-- Between double quotes. -/
  | double
  /-- Behind a backslash between double quotes. -/
  | doubleEscaped
deriving DecidableEq, Repr

/-- Whether a character separates words. -/
def separates (c : Char) : Bool := c = ' ' || c = '\t'

/-- Whether a character starts an expansion, also between double quotes. -/
def expands (c : Char) : Bool := c = '$' || c = Literal.backquote

/-- Whether a character ends a command or is an operator of the shell. -/
def controls (c : Char) : Bool := c ∈ ['\n', '|', '&', ';', '<', '>', '(', ')']

/-- What a character does inside a word: how the next one is quoted, and what it adds to the word, if
the word has begun with it.  A character outside quotes that can be in no word does nothing. -/
def step : Mode → Char → Option (Mode × Option Text)
  | .bare, c =>
    if c = '\'' then some (.single, some [])
    else if c = '"' then some (.double, some [])
    else if c = '\\' then some (.escaped, none)
    else if separates c || expands c || controls c then none
    else some (.bare, some [c])
  | .escaped, c => some (.bare, if c = '\n' then none else some [c])
  | .single, c => if c = '\'' then some (.bare, none) else some (.single, some [c])
  | .double, c =>
    if c = '"' then some (.bare, none)
    else if c = '\\' then some (.doubleEscaped, none)
    else if expands c then none
    else some (.double, some [c])
  | .doubleEscaped, c =>
    some (.double, if c = '\n' then none
      else if expands c || c = '"' || c = '\\' then some [c]
      else some ['\\', c])

/-- The word with what a character adds to it. -/
def extend (word : Option Text) : Option Text → Option Text
  | none => word
  | some added => some (word.getD [] ++ added)

/-- The words of a text that is read in a mode, behind the begun word, if one has begun. -/
def wordsFrom : Mode → (word : Option Text) → Text → Option (List Text)
  | mode, word, [] => if mode = .bare then some word.toList else none
  | mode, word, c :: t =>
    match step mode c with
    | some (next, added) => wordsFrom next (extend word added) t
    | none =>
      if mode = .bare ∧ separates c then (wordsFrom .bare none t).map (word.toList ++ ·) else none

/-- The words of a command, if it is nothing but words. -/
def words (command : Text) : Option (List Text) := wordsFrom .bare none command

/-! ### What a stretch of a word stands for -/

/-- What a text stands for inside a word, and the mode behind it. -/
def run : Mode → Text → Option (Mode × Text)
  | mode, [] => some (mode, [])
  | mode, c :: t =>
    match step mode c with
    | some (next, added) => (run next t).map fun r => (r.1, added.getD [] ++ r.2)
    | none => none

theorem run_cons {mode next last : Mode} {c : Char} {added : Option Text} {t e : Text}
    (hs : step mode c = some (next, added)) (hr : run next t = some (last, e)) :
    run mode (c :: t) = some (last, added.getD [] ++ e) := by
  simp [run, hs, hr]

theorem run_cons_eq_some {mode last : Mode} {c : Char} {t e : Text}
    (h : run mode (c :: t) = some (last, e)) :
    ∃ next added e', step mode c = some (next, added) ∧ run next t = some (last, e') ∧
      e = added.getD [] ++ e' := by
  rw [run] at h
  cases hs : step mode c with
  | none => rw [hs] at h; exact absurd h (by simp)
  | some r =>
    obtain ⟨next, added⟩ := r
    rw [hs] at h
    obtain ⟨⟨l, e'⟩, hr, he⟩ := Option.map_eq_some_iff.1 h
    obtain ⟨rfl, rfl⟩ := Prod.mk.inj he
    exact ⟨next, added, e', rfl, hr, rfl⟩

theorem run_append_eq_some {mode last : Mode} {x y e : Text}
    (h : run mode (x ++ y) = some (last, e)) :
    ∃ middle e₁ e₂, run mode x = some (middle, e₁) ∧ run middle y = some (last, e₂) ∧
      e = e₁ ++ e₂ := by
  induction x generalizing mode e with
  | nil => exact ⟨mode, [], e, rfl, h, rfl⟩
  | cons c x ih =>
    obtain ⟨next, added, e', hs, hr, rfl⟩ := run_cons_eq_some h
    obtain ⟨middle, e₁, e₂, h₁, h₂, rfl⟩ := ih hr
    exact ⟨middle, added.getD [] ++ e₁, e₂, run_cons hs h₁, h₂, (List.append_assoc _ _ _).symm⟩

/-! ### One word -/

/-- Reads on to the end of a word that has begun: the word, and what is left behind it. -/
def wordFrom : Mode → (word : Text) → Text → Option (Text × Text)
  | mode, word, [] => if mode = .bare then some (word, []) else none
  | mode, word, c :: t =>
    match step mode c with
    | some (next, added) => wordFrom next (word ++ added.getD []) t
    | none => if mode = .bare ∧ separates c then some (word, c :: t) else none

theorem extend_some (word : Text) (added : Option Text) :
    extend (some word) added = some (word ++ added.getD []) := by
  cases added <;> simp [extend]

/-- The words from a begun one on are that word and the words of what is left. -/
theorem wordsFrom_eq (mode : Mode) (word t : Text) : wordsFrom mode (some word) t =
    (wordFrom mode word t).bind fun r => (wordsFrom .bare none r.2).map (r.1 :: ·) := by
  induction t generalizing mode word with
  | nil =>
    rw [wordsFrom, wordFrom]
    split <;> rfl
  | cons c t ih =>
    rw [wordsFrom, wordFrom]
    cases hs : step mode c with
    | some r => simp only [extend_some, ih]
    | none =>
      by_cases hc : mode = .bare ∧ separates c
      · -- the words of what is left are read from the same place
        have left : wordsFrom .bare none (c :: t) = (wordsFrom .bare none t).map ([] ++ ·) := by
          rw [hc.1] at hs
          rw [wordsFrom, hs]
          exact if_pos ⟨rfl, hc.2⟩
        simp only [if_pos hc, Option.bind_some, left, Option.map_map]
        rfl
      · simp only [if_neg hc, Option.bind_none]

theorem wordFrom_append {mode next : Mode} {t e : Text} (h : run mode t = some (next, e))
    (word rest : Text) : wordFrom mode word (t ++ rest) = wordFrom next (word ++ e) rest := by
  induction t generalizing mode word e with
  | nil =>
    obtain ⟨rfl, rfl⟩ := Prod.mk.inj (Option.some.inj h)
    rw [List.nil_append, List.append_nil]
  | cons c t ih =>
    obtain ⟨middle, added, e', hs, hr, rfl⟩ := run_cons_eq_some h
    rw [List.cons_append, wordFrom, hs]
    show wordFrom middle (word ++ added.getD []) (t ++ rest) = _
    rw [ih hr, List.append_assoc]

theorem wordsFrom_append {mode next : Mode} {t e : Text} (h : run mode t = some (next, e))
    (word rest : Text) :
    wordsFrom mode (some word) (t ++ rest) = wordsFrom next (some (word ++ e)) rest := by
  rw [wordsFrom_eq, wordFrom_append h, ← wordsFrom_eq]

/-- A word that has begun goes on to the end of some stretch that is read to its end outside quotes. -/
theorem exists_run_of_wordFrom {mode : Mode} {w x t s : Text}
    (h : wordFrom mode w t = some (x, s)) :
    ∃ p e, t = p ++ s ∧ run mode p = some (.bare, e) ∧ x = w ++ e := by
  induction t generalizing mode w with
  | nil =>
    rw [wordFrom] at h
    split at h
    · rename_i hm
      obtain ⟨rfl, rfl⟩ := Prod.mk.inj (Option.some.inj h)
      exact ⟨[], [], rfl, by rw [hm]; rfl, (List.append_nil _).symm⟩
    · exact absurd h (by simp)
  | cons c t ih =>
    rw [wordFrom] at h
    cases hs : step mode c with
    | some r =>
      obtain ⟨next, added⟩ := r
      rw [hs] at h
      obtain ⟨p, e, rfl, hp, rfl⟩ := ih h
      exact ⟨c :: p, added.getD [] ++ e, rfl, run_cons hs hp, List.append_assoc _ _ _⟩
    | none =>
      -- a separator ends the word, outside quotes
      rw [hs] at h
      simp only at h
      split at h
      · rename_i hm
        obtain ⟨rfl, rfl⟩ := Prod.mk.inj (Option.some.inj h)
        exact ⟨[], [], rfl, by rw [hm.1]; rfl, (List.append_nil _).symm⟩
      · exact absurd h (by simp)

theorem exists_run_of_wordsFrom {mode : Mode} {w x t : Text} {ws : List Text}
    (h : wordsFrom mode (some w) t = some (x :: ws)) :
    ∃ p s e, t = p ++ s ∧ run mode p = some (.bare, e) ∧ x = w ++ e := by
  rw [wordsFrom_eq] at h
  obtain ⟨⟨y, s⟩, hw, h⟩ := Option.bind_eq_some_iff.1 h
  obtain ⟨ws', -, he⟩ := Option.map_eq_some_iff.1 h
  obtain ⟨rfl, -⟩ := List.cons.inj he
  obtain ⟨p, e, ht, hp, hx⟩ := exists_run_of_wordFrom hw
  exact ⟨p, s, e, ht, hp, hx⟩

/-! ### Reading words as they are meant -/

theorem run_escaped (v : Text) :
    run .single (Command.escaped v ++ ['\'']) = some (.bare, v) := by
  induction v with
  | nil => rfl
  | cons c v ih =>
    by_cases hc : c = '\''
    · subst hc
      -- the quotes end, an escaped apostrophe follows, and they begin again
      simp [Command.escaped_quote_cons, run, step, ih]
    · simp [Command.escaped_cons_of_ne hc, hc, run, step, ih]

/-- A text in apostrophes stands for the text. -/
theorem run_shell (v : Text) : run .bare (Literal.shell v) = some (.bare, v) := by
  have opening : step .bare '\'' = some (.single, some []) := by decide
  rw [Command.shell_eq, run_cons opening (run_escaped v)]
  rfl

/-- What a text in apostrophes adds to a word is the text. -/
theorem wordsFrom_shell (word : Option Text) (v rest : Text) :
    wordsFrom .bare word (Literal.shell v ++ rest) =
      wordsFrom .bare (some (word.getD [] ++ v)) rest := by
  have opened : Literal.shell v ++ rest = '\'' :: ((Command.escaped v ++ ['\'']) ++ rest) := by
    rw [Command.shell_eq, List.cons_append]
  rw [opened, wordsFrom, step, if_pos rfl]
  show wordsFrom .single (some (word.getD [] ++ [])) _ = _
  rw [wordsFrom_append (run_escaped v), List.append_nil]

/-- Whether a character stands for itself outside quotes. -/
def isOrdinary (c : Char) : Bool := step .bare c = some (.bare, some [c])

theorem wordsFrom_ordinary {n : Text} (hne : n ≠ []) (h : n.all isOrdinary)
    (word : Option Text) (rest : Text) :
    wordsFrom .bare word (n ++ rest) = wordsFrom .bare (some (word.getD [] ++ n)) rest := by
  induction n generalizing word with
  | nil => exact absurd rfl hne
  | cons c n ih =>
    rw [List.all_cons, Bool.and_eq_true] at h
    have here : step .bare c = some (.bare, some [c]) := of_decide_eq_true h.1
    rw [List.cons_append, wordsFrom, here]
    show wordsFrom .bare (some (word.getD [] ++ [c])) (n ++ rest) = _
    cases n with
    | nil => rfl
    | cons d n =>
      have next := ih (by simp) h.2 (some (word.getD [] ++ [c]))
      rw [next, Option.getD_some, List.append_assoc, List.singleton_append]

/-- A space ends a word. -/
theorem wordsFrom_space (word : Option Text) (rest : Text) :
    wordsFrom .bare word (' ' :: rest) = (wordsFrom .bare none rest).map (word.toList ++ ·) := by
  have here : step .bare ' ' = none := by decide
  rw [wordsFrom, here]
  exact if_pos ⟨rfl, by decide⟩

theorem wordsFrom_space_none (rest : Text) :
    wordsFrom .bare none (' ' :: rest) = wordsFrom .bare none rest := by
  rw [wordsFrom_space]
  cases wordsFrom .bare none rest <;> rfl

/-- The gap between two lines of a command. -/
def lineGap : Text := [' ', '\\', '\n', ' ', ' ']

/-- A gap ends a word as a space does. -/
theorem wordsFrom_lineGap (word : Option Text) (rest : Text) :
    wordsFrom .bare word (lineGap ++ rest) =
      (wordsFrom .bare none rest).map (word.toList ++ ·) := by
  have dropped : wordsFrom .bare none ('\\' :: '\n' :: ' ' :: ' ' :: rest) =
      wordsFrom .bare none (' ' :: ' ' :: rest) := by
    simp [wordsFrom, step, extend]
  have gap : lineGap ++ rest = ' ' :: '\\' :: '\n' :: ' ' :: ' ' :: rest := rfl
  rw [gap, wordsFrom_space, dropped, wordsFrom_space_none, wordsFrom_space_none]

/-! ### How much a stretch stands for -/

/-- The characters of a stretch that are read but not yet in the word. -/
def Mode.credit : Mode → Nat
  | .escaped | .doubleEscaped => 1
  | _ => 0

/-- What one character does: it adds at most itself and what was read before it, and a hyphen is always
added. -/
theorem step_adds {mode next : Mode} {c : Char} {added : Option Text}
    (h : step mode c = some (next, added)) :
    (added.getD []).length + next.credit ≤ 1 + mode.credit ∧
      (added.getD []).count '-' = [c].count '-' := by
  cases mode with
  | bare =>
    rw [step] at h
    split_ifs at h with hq hd hb ho <;> obtain ⟨rfl, rfl⟩ := Prod.mk.inj (Option.some.inj h)
    · simp [Mode.credit, hq]
    · simp [Mode.credit, hd]
    · simp [Mode.credit, hb]
    · simp [Mode.credit]
  | escaped =>
    -- the backslash was read before; a line feed is dropped with it
    obtain ⟨rfl, rfl⟩ := Prod.mk.inj (Option.some.inj h)
    by_cases hc : c = '\n'
    · simp [Mode.credit, hc]
    · simp [Mode.credit, hc]
  | single =>
    rw [step] at h
    split_ifs at h with hq <;> obtain ⟨rfl, rfl⟩ := Prod.mk.inj (Option.some.inj h)
    · simp [Mode.credit, hq]
    · simp [Mode.credit]
  | double =>
    rw [step] at h
    split_ifs at h with hd hb he <;> obtain ⟨rfl, rfl⟩ := Prod.mk.inj (Option.some.inj h)
    · simp [Mode.credit, hd]
    · simp [Mode.credit, hb]
    · simp [Mode.credit]
  | doubleEscaped =>
    -- between double quotes a backslash stays in front of most characters
    obtain ⟨rfl, rfl⟩ := Prod.mk.inj (Option.some.inj h)
    split_ifs with hn hk
    · simp [Mode.credit, hn]
    · simp [Mode.credit]
    · simp [Mode.credit, List.count_cons]

theorem run_adds {mode last : Mode} {t e : Text} (h : run mode t = some (last, e)) :
    e.length + last.credit ≤ t.length + mode.credit ∧ e.count '-' = t.count '-' := by
  induction t generalizing mode e with
  | nil =>
    obtain ⟨rfl, rfl⟩ := Prod.mk.inj (Option.some.inj h)
    exact ⟨Nat.le_refl _, rfl⟩
  | cons c t ih =>
    obtain ⟨next, added, e', hs, hr, rfl⟩ := run_cons_eq_some h
    obtain ⟨hlen, hcount⟩ := step_adds hs
    obtain ⟨tlen, tcount⟩ := ih hr
    refine ⟨?_, ?_⟩
    · rw [List.length_append, List.length_cons]
      omega
    · rw [List.count_append, hcount, tcount, ← List.count_append, List.singleton_append]

/-- An apostrophe at the end of a stretch that ends outside quotes is not in the word. -/
theorem length_of_run_quote {y v : Text} (h : run .bare (y ++ ['\'']) = some (.bare, v)) :
    v.length ≤ y.length := by
  obtain ⟨middle, e₁, e₂, h₁, h₂, rfl⟩ := run_append_eq_some h
  have before := (run_adds h₁).1
  obtain ⟨next, added, e', hs, hr, rfl⟩ := run_cons_eq_some h₂
  obtain ⟨rfl, rfl⟩ := Prod.mk.inj (Option.some.inj hr)
  rw [List.length_append, List.append_nil]
  -- the modes in which an apostrophe leads outside quotes, of which none adds it without a
  -- backslash
  cases middle with
  | bare => exact absurd hs (by simp [step])
  | escaped =>
    obtain ⟨-, rfl⟩ := Prod.mk.inj (Option.some.inj hs)
    simp only [Mode.credit] at before
    simp
    omega
  | single =>
    obtain ⟨-, rfl⟩ := Prod.mk.inj (Option.some.inj hs)
    simp only [Mode.credit] at before
    simpa using before
  | double => exact absurd hs (by simp [step, expands, Literal.backquote])
  | doubleEscaped => exact absurd hs (by simp [step])

/-- Between apostrophes a text without one stands for itself. -/
theorem run_single {b e : Text} {last : Mode} (hb : '\'' ∉ b) (h : run .single b = some (last, e)) :
    last = .single ∧ e = b := by
  induction b generalizing e with
  | nil =>
    obtain ⟨rfl, rfl⟩ := Prod.mk.inj (Option.some.inj h)
    exact ⟨rfl, rfl⟩
  | cons c b ih =>
    obtain ⟨hc, hb⟩ := not_or.1 fun h' => hb (List.mem_cons.2 h')
    obtain ⟨next, added, e', hs, hr, rfl⟩ := run_cons_eq_some h
    rw [step, if_neg (Ne.symm hc)] at hs
    obtain ⟨rfl, rfl⟩ := Prod.mk.inj (Option.some.inj hs)
    obtain ⟨rfl, rfl⟩ := ih hb hr
    exact ⟨rfl, rfl⟩

/-- Double quotes are not left in a text without one. -/
theorem run_double {mode last : Mode} {b e : Text} (hm : mode = .double ∨ mode = .doubleEscaped)
    (hb : '"' ∉ b) (h : run mode b = some (last, e)) : last = .double ∨ last = .doubleEscaped := by
  induction b generalizing mode e with
  | nil =>
    obtain ⟨rfl, rfl⟩ := Prod.mk.inj (Option.some.inj h)
    exact hm
  | cons c b ih =>
    obtain ⟨hc, hb⟩ := not_or.1 fun h' => hb (List.mem_cons.2 h')
    obtain ⟨next, added, e', hs, hr, rfl⟩ := run_cons_eq_some h
    refine ih ?_ hb hr
    rcases hm with rfl | rfl
    · rw [step, if_neg (Ne.symm hc)] at hs
      split_ifs at hs <;> obtain ⟨rfl, -⟩ := Prod.mk.inj (Option.some.inj hs)
      · exact .inr rfl
      · exact .inl rfl
    · obtain ⟨rfl, -⟩ := Prod.mk.inj (Option.some.inj hs)
      exact .inl rfl

/-- A space behind an apostrophe is in a word only between quotes, and these do not end where no other
quote follows. -/
theorem run_quote_space {mode last : Mode} {b e : Text} (hs : '\'' ∉ b) (hd : '"' ∉ b)
    (h : run mode ('\'' :: ' ' :: b) = some (last, e)) : last ≠ .bare := by
  obtain ⟨quoted, _, _, hq, h, -⟩ := run_cons_eq_some h
  obtain ⟨next, _, _, hn, h, -⟩ := run_cons_eq_some h
  have inside : quoted = .double → last ≠ .bare := by
    rintro rfl
    obtain rfl : Mode.double = next := (Prod.mk.inj (Option.some.inj hn)).1
    rcases run_double (.inl rfl) hd h with rfl | rfl <;> decide
  have outside : quoted ≠ .bare := by
    rintro rfl
    exact absurd hn (by simp [step, separates])
  -- the space would end the word if the apostrophe led outside quotes
  cases mode with
  | bare =>
    obtain rfl : Mode.single = quoted := (Prod.mk.inj (Option.some.inj hq)).1
    obtain rfl : Mode.single = next := (Prod.mk.inj (Option.some.inj hn)).1
    obtain ⟨rfl, -⟩ := run_single hs h
    decide
  | escaped => exact absurd (Prod.mk.inj (Option.some.inj hq)).1.symm outside
  | single => exact absurd (Prod.mk.inj (Option.some.inj hq)).1.symm outside
  | double => exact inside (Prod.mk.inj (Option.some.inj hq)).1.symm
  | doubleEscaped => exact inside (Prod.mk.inj (Option.some.inj hq)).1.symm

/-- Where the first apostrophe ends the quotes. -/
theorem exists_of_run_single {p e : Text} (h : run .single p = some (.bare, e)) :
    ∃ y z v, p = y ++ '\'' :: z ∧ '\'' ∉ y ∧ run .bare z = some (.bare, v) ∧ e = y ++ v := by
  induction p generalizing e with
  | nil => exact absurd (Prod.mk.inj (Option.some.inj h)).1 (by decide)
  | cons c p ih =>
    obtain ⟨next, added, e', hs, hr, rfl⟩ := run_cons_eq_some h
    rw [step] at hs
    split_ifs at hs with hc <;> obtain ⟨rfl, rfl⟩ := Prod.mk.inj (Option.some.inj hs)
    · subst hc
      exact ⟨[], p, e', rfl, by simp, hr, rfl⟩
    · obtain ⟨y, z, v, rfl, hy, hv, rfl⟩ := ih hr
      exact ⟨c :: y, z, v, rfl, by simp [hy, Ne.symm hc], hv, rfl⟩

/-- A text with an apostrophe in it, put between apostrophes as it is, does not stand for itself. -/
theorem run_unescaped_ne {x : Text} (hx : '\'' ∈ x) {p a e : Text} (hp : x ++ ['\''] = p ++ a)
    (h : run .single p = some (.bare, e)) : e ≠ x := by
  rintro rfl
  obtain ⟨y, z, v, rfl, hy, hv, rfl⟩ := exists_of_run_single h
  have short := (run_adds hv).1
  have total := congrArg List.length hp
  simp only [List.length_append, List.length_cons, List.length_nil, Mode.credit] at short total
  -- so nothing but the two apostrophes is lost, and the stretch reaches up to the last of them
  obtain rfl : a = [] := List.eq_nil_of_length_eq_zero (by omega)
  rw [List.append_nil, List.append_assoc] at hp
  have tail := List.append_cancel_left hp
  -- the stretch ends with an apostrophe that is not in the word, which is one character too many
  rcases List.eq_nil_or_concat z with rfl | ⟨u, c, rfl⟩
  · obtain rfl : v = [] := List.eq_nil_of_length_eq_zero (by simpa [Mode.credit] using short)
    exact hy (by simpa using hx)
  · rw [List.concat_eq_append, ← List.cons_append] at tail
    obtain ⟨-, last⟩ := List.append_inj' tail rfl
    obtain rfl : '\'' = c := (List.cons.inj last).1
    rw [List.concat_eq_append] at hv
    have shorter := length_of_run_quote hv
    rw [List.length_concat] at total
    omega

/-- A stretch without hyphens that is read up to some place of a gap and what follows it ends within
the gap. -/
theorem prefix_lineGap {q s u : Text} (h : lineGap ++ '-' :: u = q ++ s) (hq : q.count '-' = 0) :
    ∃ a, lineGap = q ++ a := by
  rcases List.append_eq_append_iff.1 h with ⟨a, rfl, ha⟩ | ⟨a, ha, -⟩
  · cases a with
    | nil => exact ⟨[], by simp⟩
    | cons c a =>
      obtain ⟨rfl, -⟩ := List.cons.inj ha
      simp at hq
  · exact ⟨a, ha⟩

/-- **An unescaped text is not the word it should be.**  A text with an apostrophe in it that is put
between apostrophes as it is, at the end or in front of a gap and a hyphen, is not read as itself. -/
theorem wordsFrom_unescaped_ne {x rest : Text} (hx : '\'' ∈ x)
    (hrest : rest = [] ∨ ∃ u, rest = lineGap ++ '-' :: u) (ws : List Text) :
    wordsFrom .bare none ('\'' :: (x ++ '\'' :: rest)) ≠ some (x :: ws) := by
  intro h
  have opened : wordsFrom .single (some []) (x ++ '\'' :: rest) = some (x :: ws) := h
  obtain ⟨p, s, e, ht, hp, he⟩ := exists_run_of_wordsFrom opened
  rw [List.nil_append] at he
  subst he
  have split : (x ++ ['\'']) ++ rest = p ++ s := by simpa using ht
  have hyphens := (run_adds hp).2
  rcases List.append_eq_append_iff.1 split with ⟨q, rfl, hq⟩ | ⟨a, ha, -⟩
  · -- the word goes on behind the closing apostrophe, but has no more hyphens than the text
    have hyphenless : q.count '-' = 0 := by
      rw [List.count_append, List.count_append] at hyphens
      omega
    have start : ∃ a, lineGap = q ++ a := by
      rcases hrest with rfl | ⟨u, rfl⟩
      · obtain ⟨rfl, -⟩ := List.append_eq_nil_iff.1 hq.symm
        exact ⟨lineGap, rfl⟩
      · exact prefix_lineGap hq hyphenless
    obtain ⟨a, ha⟩ := start
    cases q with
    | nil => exact run_unescaped_ne hx (List.append_nil _).symm (by simpa using hp) rfl
    | cons c b =>
      obtain ⟨rfl, hb⟩ := List.cons.inj ha
      have single : '\'' ∉ b := by
        intro hm
        have gap : '\'' ∈ (['\\', '\n', ' ', ' '] : Text) := hb ▸ List.mem_append_left a hm
        exact absurd gap (by decide)
      have double : '"' ∉ b := by
        intro hm
        have gap : '"' ∈ (['\\', '\n', ' ', ' '] : Text) := hb ▸ List.mem_append_left a hm
        exact absurd gap (by decide)
      rw [List.append_assoc] at hp
      obtain ⟨middle, e₁, e₂, -, h₂, -⟩ := run_append_eq_some hp
      exact run_quote_space single double h₂ rfl
  · -- the word ends before the closing apostrophe or with it
    exact run_unescaped_ne hx ha hp rfl

end CurlSnippets.Shell
