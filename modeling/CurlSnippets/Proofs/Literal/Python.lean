import CurlSnippets.CommandLine.Files
import CurlSnippets.Proofs.Json.Printed
import CurlSnippets.Proofs.Literal.Reader
import CurlSnippets.Proofs.Snippet.Literals

/-!
# Python literals read back

Python takes every line break of a source for a line feed before it reads anything, also inside of a
literal.  A literal of one line ends at the first quote that no backslash belongs to, one that begins
with three quotes at the first three of them.

A literal of one line has no line break in it and is read back (`read_python`).  A raw one is read as its
text with line feeds for its line breaks, so it is read back exactly if it has no carriage return
(`python_read_back_iff`).
-/

namespace CurlSnippets.Literal.Python

open Text
open CommandLine (withLineFeeds withLineFeeds_of_not_mem)

/-- What an escape by number behind its backslash stands for: a character, or half of one. -/
def numbered? : Text → Option (List Piece × Nat)
  | 'u' :: a :: b :: c :: d :: _ =>
    (Json.hex4? a b c d).map fun code => ([Piece.single (.ofNat code)], 5)
  | _ => none

/-- How Python reads a string of one line. -/
def reader : Reader Piece where
  quote := '"'
  units c := [.char c]
  plain c := c ≠ '\n' && c ≠ '\r'
  letters := [('\\', '\\'), ('"', '"'), ('n', '\n'), ('r', '\r'), ('t', '\t'), ('b', '\x08'),
    ('f', '\x0c')]
  other := numbered?

/-- The rest of a string behind its opening three quotes, and what is left; `skipped` characters were
already read as part of an escape. -/
def long : (skipped : Nat) → Text → Option (List Piece × Text)
  | _, [] => none
  | skipped + 1, _ :: t => long skipped t
  | 0, c :: t =>
    match after? pythonMark (c :: t) with
    | some rest => some ([], rest)
    | none =>
      if c = '\\' then
        match reader.escape t with
        | some (value, n) => Reader.behind value (long n t)
        | none => none
      else Reader.behind [.char c] (long 0 t)

/-- The value of the literal of either form that a text begins with, and what is left behind it. -/
def pieces? (t : Text) : Option (List Piece × Text) :=
  match after? pythonMark t with
  | some inside => long 0 inside
  | none => reader.read t

/-- The same where the value is a text. -/
def read (t : Text) : Option (Text × Text) := do
  let (value, behind) ← pieces? t
  let text ← value.mapM Piece.char?
  some (text, behind)

theorem read_of_pieces {t u v : Text} (h : pieces? t = some (u.map .char, v)) :
    read t = some (u, v) := by
  simp only [read, h, Option.bind_eq_bind, Option.bind_some, Piece.mapM_char?]

/-! ### Literals of one line -/

theorem undoes_escapeChar : reader.Undoes Json.escapeChar (fun c => decide (c.toNat < 0x20))
    fun c => 'u' :: hex 4 c.toNat where
  differ := by decide
  quote := by decide
  backslash := by decide
  letters := by decide
  others c h := by
    simp only [reader, List.map_cons, List.map_nil, List.mem_cons, List.not_mem_nil, or_false,
      not_or] at h
    simp [Json.escapeChar, h]
  plain c h _ := by
    have feed : c ≠ '\n' := fun e => h (e ▸ by decide)
    have carriage : c ≠ '\r' := fun e => h (e ▸ by decide)
    simp [reader, feed, carriage]
  codes c h s := by
    have control : c.toNat < 0x10000 := Nat.lt_trans (of_decide_eq_true h) (by decide)
    obtain ⟨x, y, z, w, digits, number⟩ := Json.exists_hex4 control
    have whole : pieces [CodeUnit.ofNat c.toNat] = [.char c] := by
      rw [← unitsOf_of_lt control, ← List.append_nil (unitsOf c)]
      exact pieces_unitsOf c []
    have found : numbered? ('u' :: x :: y :: z :: w :: s) = some ([.char c], 5) := by
      rw [numbered?, number, ← whole]
      rfl
    rw [digits]
    exact (Reader.escape_other rfl _).trans found

theorem body_escapePiece {p : Piece} (whole : ∀ u, p = .half u → u.isHigh || u.isLow) (s : Text) :
    reader.body 0 (Json.escapePiece p ++ s) = Reader.behind [p] (reader.body 0 s) := by
  cases p with
  | char c => exact undoes_escapeChar.body c s
  | half u =>
    obtain ⟨x, y, z, w, digits, number⟩ := Json.exists_hex4 u.isLt
    have single : Piece.single (.ofNat u.val) = .half u := by
      rw [show CodeUnit.ofNat u.val = u from Fin.ext (CodeUnit.val_ofNat u.isLt), Piece.single,
        if_pos (whole u rfl)]
    have found : numbered? ('u' :: x :: y :: z :: w :: s) = some ([.half u], 5) := by
      rw [numbered?, number, ← single]
      rfl
    rw [Json.escapePiece, digits]
    exact Reader.body_escape (x := ['u', x, y, z, w]) (by decide)
      ((Reader.escape_other rfl _).trans found)

theorem reader_quoteUnits (v : CodeUnits) (s : Text) :
    reader.read (Json.quoteUnits v ++ s) = some (pieces v, s) := by
  have inside : ∀ ps : List Piece, (∀ u, .half u ∈ ps → u.isHigh || u.isLow) →
      reader.body 0 (ps.flatMap Json.escapePiece ++ '"' :: s) = some (ps, s) := by
    intro ps halves
    induction ps with
    | nil => rfl
    | cons p ps ih =>
      have first : ∀ u, p = .half u → u.isHigh || u.isLow := by
        rintro u rfl
        exact halves u List.mem_cons_self
      have others := ih fun u hu => halves u (List.mem_cons_of_mem p hu)
      rw [List.flatMap_cons, List.append_assoc, body_escapePiece first, others]
      rfl
  have text : Json.quoteUnits v ++ s =
      '"' :: ((pieces v).flatMap Json.escapePiece ++ '"' :: s) := by simp [Json.quoteUnits]
  rw [text]
  exact inside _ fun _ => half_of_mem_pieces

/-- An escape does not begin with a quote. -/
theorem escapePiece_ne_quote (p : Piece) (x y : Text) : Json.escapePiece p ++ x ≠ '"' :: y := by
  cases p with
  | char c => exact escapes_json.ne_quote (by decide) (by decide) c x y
  | half u => exact fun e => absurd (List.cons.inj e).1 (by decide)

/-- Two quotes at the start of a literal are the empty one, unless a third one follows. -/
theorem after?_quoteUnits {v : CodeUnits} {s : Text} (h : v = [] → s.head? ≠ some '"') :
    after? pythonMark (Json.quoteUnits v ++ s) = none := by
  rw [Option.eq_none_iff_forall_ne_some]
  intro rest found
  have quotes := eq_append_of_after? found
  cases parts : pieces v with
  | nil =>
    -- both quotes are those of the literal, and the third one is behind it
    have empty : v = [] := by rw [← units_pieces v, parts]; rfl
    have third : s = '"' :: rest := by
      simpa [Json.quoteUnits, parts, pythonMark] using quotes
    exact h empty (by rw [third]; rfl)
  | cons p ps =>
    -- the second quote would begin what an escape begins
    have inside : Json.escapePiece p ++ (ps.flatMap Json.escapePiece ++ '"' :: s) =
        '"' :: '"' :: rest := by
      simpa [Json.quoteUnits, parts, pythonMark] using quotes
    exact escapePiece_ne_quote p _ _ inside

/-- A literal of one line is read back in front of anything but another quote. -/
theorem pieces?_quoteUnits {v : CodeUnits} {s : Text} (h : v = [] → s.head? ≠ some '"') :
    pieces? (Json.quoteUnits v ++ s) = some (pieces v, s) := by
  rw [pieces?, after?_quoteUnits h]
  exact reader_quoteUnits v s

theorem read_python {v s : Text} (h : v = [] → s.head? ≠ some '"') :
    read (python v ++ s) = some (v, s) := by
  have empty : units v = [] → v = [] := fun e => units_inj.1 (e.trans units_nil.symm)
  have found := pieces?_quoteUnits (v := units v) fun e => h (empty e)
  rw [Json.quoteUnits_units, pieces_units] at found
  exact read_of_pieces found

/-! ### Line breaks of a source -/

theorem withLineFeeds_cons {c : Char} (h : c ≠ '\r') (t : Text) :
    withLineFeeds (c :: t) = c :: withLineFeeds t := by
  rw [withLineFeeds]
  · rw [if_neg h]
  · rintro rest rfl
    exact absurd rfl h

theorem withLineFeeds_append_of_notMem {x : Text} (h : '\r' ∉ x) (t : Text) :
    withLineFeeds (x ++ t) = x ++ withLineFeeds t := by
  induction x with
  | nil => rfl
  | cons c x ih =>
    obtain ⟨hc, hx⟩ := not_or.1 fun h' => h (List.mem_cons.2 h')
    rw [List.cons_append, withLineFeeds_cons (Ne.symm hc), ih hx]
    rfl

theorem carriage_notMem_withLineFeeds (t : Text) : '\r' ∉ withLineFeeds t := by
  fun_induction withLineFeeds t with
  | case1 => exact List.not_mem_nil
  | case2 rest ih => simpa using ih
  | case3 c rest _ ih =>
    rw [List.mem_cons, not_or]
    refine ⟨?_, ih⟩
    split <;> simp_all [eq_comm]

/-- Only a text without carriage returns is the same with line feeds for its line breaks. -/
theorem withLineFeeds_eq_self_iff {t : Text} : withLineFeeds t = t ↔ '\r' ∉ t :=
  ⟨fun h => h ▸ carriage_notMem_withLineFeeds t, withLineFeeds_of_not_mem⟩

theorem exists_withLineFeeds_carriage (t : Text) : ∃ u, withLineFeeds ('\r' :: t) = '\n' :: u := by
  cases t with
  | nil => exact ⟨_, rfl⟩
  | cons d t =>
    by_cases feed : d = '\n'
    · subst feed
      exact ⟨_, rfl⟩
    · refine ⟨withLineFeeds (d :: t), ?_⟩
      rw [withLineFeeds]
      · rfl
      · rintro rest - e
        exact feed (List.cons.inj e).1

/-- Quotes are found in the same places when line breaks have become line feeds. -/
theorem after?_withLineFeeds {mark : Text} (quotes : ∀ c ∈ mark, c = '"') (t : Text) :
    after? mark (withLineFeeds t) = (after? mark t).map withLineFeeds := by
  induction mark generalizing t with
  | nil => rfl
  | cons q mark ih =>
    obtain rfl := quotes q List.mem_cons_self
    have others := ih fun c hc => quotes c (List.mem_cons_of_mem _ hc)
    cases t with
    | nil => rfl
    | cons c t =>
      -- a carriage return is no quote, and becomes a line feed, which is none either
      by_cases carriage : c = '\r'
      · subst carriage
        obtain ⟨u, text⟩ := exists_withLineFeeds_carriage t
        rw [text]
        rfl
      · rw [withLineFeeds_cons carriage, after?_cons, after?_cons]
        split
        · exact others t
        · rfl

/-! ### Raw literals -/

/-- Whether a text is written in one line: it has three quotes or a backslash in it, or a quote at its
end. -/
def needsEscapes (v : Text) : Bool := occursIn pythonMark v || v.contains '\\' || endsQuoted v

theorem long_cons {c : Char} (backslash : c ≠ '\\') {t : Text} (h : after? pythonMark (c :: t) = none) :
    long 0 (c :: t) = Reader.behind [.char c] (long 0 t) := by
  rw [long, h]
  exact if_neg backslash

/-- A raw literal is read up to its mark, with line feeds for its line breaks. -/
theorem long_append {v : Text} (mark : free pythonMark v) (backslash : '\\' ∉ v) (s : Text) :
    long 0 (withLineFeeds (v ++ (pythonMark ++ s))) =
      some ((withLineFeeds v).map .char, withLineFeeds s) := by
  have quotes : ∀ c ∈ pythonMark, c = '"' := by decide
  fun_induction withLineFeeds v with
  | case1 =>
    have text : withLineFeeds ([] ++ (pythonMark ++ s)) = pythonMark ++ withLineFeeds s :=
      withLineFeeds_append_of_notMem (by decide) s
    rw [text]
    rfl
  | case2 rest ih =>
    -- a carriage return with its line feed
    have inside : free pythonMark rest := (free_cons.1 (free_cons.1 mark).2).2
    have last : '\\' ∉ rest := fun h => backslash (by simp [h])
    show long 0 ('\n' :: withLineFeeds (rest ++ (pythonMark ++ s))) = _
    rw [long_cons (by decide) rfl, ih inside last]
    rfl
  | case3 c rest alone ih =>
    have last : '\\' ∉ rest := fun h => backslash (List.mem_cons_of_mem c h)
    -- a carriage return at the end of the text has a quote and no line feed behind it
    have text : withLineFeeds (c :: (rest ++ (pythonMark ++ s))) =
        (if c = '\r' then '\n' else c) :: withLineFeeds (rest ++ (pythonMark ++ s)) := by
      rw [withLineFeeds]
      intro behind hc e
      cases rest with
      | nil => exact absurd (List.cons.inj e).1 (by decide)
      | cons d rest => exact alone rest hc (by rw [(List.cons.inj e).1])
    have here : after? pythonMark ((if c = '\r' then '\n' else c) ::
        withLineFeeds (rest ++ (pythonMark ++ s))) = none := by
      rw [← text, after?_withLineFeeds quotes, Option.map_eq_none_iff, Option.eq_none_iff_forall_ne_some]
      intro behind found
      exact not_prefix_of_free mark s ⟨behind, (eq_append_of_after? found).symm⟩
    have plain : (if c = '\r' then '\n' else c) ≠ '\\' := by
      split
      · decide
      · rintro rfl
        exact backslash List.mem_cons_self
    rw [List.cons_append, text, long_cons plain here, ih (free_cons.1 mark).2 last]
    rfl

/-- A literal that is chosen for a body is read in front of any text, if it is raw with line feeds for
its line breaks. -/
theorem read_pythonRaw (v s : Text) : read (withLineFeeds (pythonRaw v ++ s)) =
    some (if needsEscapes v then v else withLineFeeds v, withLineFeeds s) := by
  have choice : pythonRaw v = if needsEscapes v then python v else pythonMark ++ v ++ pythonMark := rfl
  rw [choice]
  split
  · -- an escaped literal has no line break in it to be changed
    rename_i h
    have noCarriage : '\r' ∉ python v := control_notMem_quote (by decide) v
    have nonempty : v = [] → (withLineFeeds s).head? ≠ some '"' := by
      rintro rfl
      exact absurd h (by decide)
    rw [withLineFeeds_append_of_notMem noCarriage, read_python nonempty]
  · -- a raw literal has the mark nowhere but at its ends
    rename_i h
    simp only [needsEscapes, Bool.or_eq_true, not_or, Bool.not_eq_true, List.contains_eq_mem,
      decide_eq_false_iff_not] at h
    obtain ⟨⟨mark, backslash⟩, last⟩ := h
    have inside : free pythonMark v := free_pythonMark mark fun e => by
      rw [endsQuoted, e] at last
      exact absurd last (by decide)
    have text : withLineFeeds (pythonMark ++ v ++ pythonMark ++ s) =
        pythonMark ++ withLineFeeds (v ++ (pythonMark ++ s)) := by
      rw [List.append_assoc, List.append_assoc]
      exact withLineFeeds_append_of_notMem (by decide) _
    rw [text]
    refine read_of_pieces ?_
    rw [pieces?, after?_append]
    exact long_append inside backslash s

/-- **A literal that is chosen for a body is read back** from a source, in front of any text, exactly
if it is one of a single line or its text has no carriage return: reading takes every line break for a
line feed. -/
theorem python_read_back_iff (v : Text) :
    (∀ s, read (withLineFeeds (pythonRaw v ++ s)) = some (v, withLineFeeds s)) ↔
      ('\r' ∈ v → occursIn pythonMark v ∨ '\\' ∈ v ∨ endsQuoted v) := by
  have escapes : needsEscapes v ↔ occursIn pythonMark v ∨ '\\' ∈ v ∨ endsQuoted v := by
    simp [needsEscapes, or_assoc]
  rw [← escapes]
  constructor
  · intro back carriage
    -- a raw literal is read with line feeds, which the text has not
    by_contra raw
    have text := read_pythonRaw v []
    rw [back [], if_neg raw] at text
    have same : v = withLineFeeds v := congrArg Prod.fst (Option.some.inj text)
    exact withLineFeeds_eq_self_iff.1 same.symm carriage
  · intro h s
    rw [read_pythonRaw]
    split
    · rfl
    · rename_i raw
      have same : withLineFeeds v = v := withLineFeeds_eq_self_iff.2 fun carriage => raw (h carriage)
      rw [same]

/-- A carriage return in a raw literal is read as a line feed. -/
theorem read_carriage :
    read (withLineFeeds (pythonRaw "a\rb")) = some (("a\nb" : Text), []) ∧
    read (withLineFeeds (pythonRaw "a\rb")) ≠ some (("a\rb" : Text), []) := by decide

end CurlSnippets.Literal.Python
