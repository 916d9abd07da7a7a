import CurlSnippets.Proofs.Text.Delimited
import CurlSnippets.Snippet.Fetch
import CurlSnippets.Snippet.Display

/-!
# Where literals end

Every literal of a snippet says where it ends, whatever the text it stands for: an escaped one ends at
the first quote that no backslash belongs to, a raw one at the first mark that its text does not hold.
So do the tables of named values that are made of literals.
-/

namespace CurlSnippets.Literal

open Text Snippet

/-! ### Escapes -/

/-- What is said of the characters of a list is checked on the list, and not on all characters. -/
instance decidableForallMem (p : Char → Prop) [DecidablePred p] (l : List Char) :
    Decidable (∀ c ∈ l, p c) :=
  List.decidableBAll p l

/-- An escape changes the special characters only, and writes each of them as a backslash with something
behind it that tells which one it is. -/
structure Escapes (escape : Char → Text) (special : List Char) : Prop where
  plain : ∀ c ∉ special, escape c = [c]
  backslash : '\\' ∈ special
  marked : ∀ c ∈ special, (escape c).head? = some '\\'
  apart : ∀ c ∈ special, ∀ d ∈ special, c ≠ d → Apart (escape c) (escape d)

namespace Escapes

variable {escape : Char → Text} {special : List Char}

theorem head?_eq (h : Escapes escape special) (c : Char) :
    (escape c).head? = some (if c ∈ special then '\\' else c) := by
  split
  · exact h.marked c ‹_›
  · rw [h.plain c ‹_›, List.head?_cons]

theorem head?_append (h : Escapes escape special) (c : Char) (x : Text) :
    (escape c ++ x).head? = some (if c ∈ special then '\\' else c) := by
  rw [List.head?_append, h.head?_eq, Option.some_or]

theorem shows (h : Escapes escape special) : Shows escape id := by
  intro c d x y e
  have first : (if c ∈ special then '\\' else c) = if d ∈ special then '\\' else d := by
    have heads := congrArg List.head? e
    rwa [h.head?_append, h.head?_append, Option.some_inj] at heads
  by_cases hcd : c = d
  · subst hcd
    exact ⟨rfl, List.append_cancel_left e⟩
  · exfalso
    -- an escape begins with a backslash, and nothing else does
    by_cases hc : c ∈ special <;> by_cases hd : d ∈ special
    · exact (h.apart c hc d hd hcd).ne x y e
    · rw [if_pos hc, if_neg hd] at first
      exact hd (first ▸ h.backslash)
    · rw [if_neg hc, if_pos hd] at first
      exact hc (first ▸ h.backslash)
    · rw [if_neg hc, if_neg hd] at first
      exact hcd first

/-- An escaped character does not begin like the quote that ends the literal. -/
theorem ne_quote (h : Escapes escape special) {quote : Char} (hq : quote ∈ special)
    (hb : quote ≠ '\\') (c : Char) (x y : Text) : escape c ++ x ≠ quote :: y := by
  intro e
  have heads := congrArg List.head? e
  rw [h.head?_append, List.head?_cons, Option.some_inj] at heads
  split at heads
  · exact hb heads.symm
  · rename_i hc
    exact hc (heads ▸ hq)

/-- A text in quotes ends at its closing quote. -/
theorem shows_enclose (h : Escapes escape special) {quote : Char} (hq : quote ∈ special)
    (hb : quote ≠ '\\') : Shows (enclose quote escape) id := by
  intro s t x y e
  simp only [enclose, List.cons_append, List.append_assoc, List.nil_append] at e
  obtain ⟨same, e⟩ := h.shows.items_of_ne (fun c u => h.ne_quote hq hb c u x)
    (fun c u => h.ne_quote hq hb c u y) (List.cons.inj e).2
  exact ⟨by simpa using same, (List.cons.inj e).2⟩

end Escapes

/-! ### Quoted literals -/

/-- The control characters below the space. -/
def controls : List Char := (List.range 32).map Char.ofNat

theorem mem_controls {c : Char} (h : c.toNat < 32) : c ∈ controls :=
  List.mem_map.2 ⟨c.toNat, List.mem_range.2 h, Char.ofNat_toNat c⟩

theorem mem_of_isControl {c : Char} (h : isControl c) : c ∈ '\x7f' :: controls := by
  rw [isControl, Bool.or_eq_true, decide_eq_true_eq, decide_eq_true_eq] at h
  rcases h with h | h
  · exact List.mem_cons_of_mem _ (mem_controls h)
  · rw [← Char.ofNat_toNat c, h]
    exact List.mem_cons_self

/-- The characters that are escaped between double quotes, all control characters among them. -/
def quotedSpecials : List Char := '\\' :: '"' :: '\x7f' :: controls

theorem plain_of_notMem_quotedSpecials {c : Char} (h : c ∉ quotedSpecials) :
    c ≠ '\\' ∧ c ≠ '"' ∧ isControl c = false ∧ c ∉ controls := by
  simp only [quotedSpecials, List.mem_cons, not_or] at h
  refine ⟨h.1, h.2.1, Bool.eq_false_iff.2 fun hc => ?_, h.2.2.2⟩
  rcases List.mem_cons.1 (mem_of_isControl hc) with hd | hd
  · exact h.2.2.1 hd
  · exact h.2.2.2 hd

theorem ne_of_notMem_controls {c : Char} (h : c ∉ controls) {d : Char} (hd : d.toNat < 32) : c ≠ d :=
  fun e => h (mem_controls (e ▸ hd))

theorem escapes_go : Escapes goEscape quotedSpecials where
  plain c h := by
    obtain ⟨backslash, quote, control, low⟩ := plain_of_notMem_quotedSpecials h
    simp [goEscape, backslash, quote, control, ne_of_notMem_controls low]
  backslash := by decide
  marked := by decide
  apart := by decide

theorem escapes_rust : Escapes rustEscape quotedSpecials where
  plain c h := by
    obtain ⟨backslash, quote, control, low⟩ := plain_of_notMem_quotedSpecials h
    simp [rustEscape, backslash, quote, control, ne_of_notMem_controls low]
  backslash := by decide
  marked := by decide
  apart := by decide

theorem escapes_java : Escapes javaEscape quotedSpecials where
  plain c h := by
    obtain ⟨backslash, quote, control, low⟩ := plain_of_notMem_quotedSpecials h
    simp [javaEscape, backslash, quote, control, ne_of_notMem_controls low]
  backslash := by decide
  marked := by decide
  apart := by decide

/-- The last ASCII code is no control character of a JSON string. -/
theorem escapes_json : Escapes Json.escapeChar ('\\' :: '"' :: controls) where
  plain c h := by
    simp only [List.mem_cons, not_or] at h
    obtain ⟨backslash, quote, low⟩ := h
    have printable : ¬ c.toNat < 0x20 := fun hc => low (mem_controls hc)
    simp [Json.escapeChar, backslash, quote, printable, ne_of_notMem_controls low]
  backslash := by decide
  marked := by decide
  apart := by decide

theorem escapes_javascript : Escapes javascriptEscape
    ['\\', '\'', '\n', '\r', '\t', Char.ofNat 0x2028, Char.ofNat 0x2029] where
  plain c h := by
    simp only [List.mem_cons, List.not_mem_nil, or_false, not_or] at h
    simp only [javascriptEscape, h, if_false]
  backslash := by decide
  marked := by decide
  apart := by decide

theorem escapes_php : Escapes phpEscape ['\\', '\''] where
  plain c h := by
    simp only [List.mem_cons, List.not_mem_nil, or_false, not_or] at h
    simp only [phpEscape, h, if_false]
  backslash := by decide
  marked := by decide
  apart := by decide

theorem shows_go : Shows go id := escapes_go.shows_enclose (by decide) (by decide)

theorem shows_rust : Shows rust id := escapes_rust.shows_enclose (by decide) (by decide)

theorem shows_java : Shows java id := escapes_java.shows_enclose (by decide) (by decide)

theorem shows_python : Shows python id := escapes_json.shows_enclose (by decide) (by decide)

theorem shows_javascript : Shows javascript id :=
  escapes_javascript.shows_enclose (by decide) (by decide)

theorem shows_php : Shows php id := escapes_php.shows_enclose (by decide) (by decide)

/-! ### Raw literals -/

theorem free_singleton {c : Char} {t : Text} (h : c ∉ t) : free [c] t := by
  induction t with
  | nil => rfl
  | cons d t ih =>
    obtain ⟨hd, ht⟩ := not_or.1 fun h' => h (List.mem_cons.2 h')
    exact free_cons.2 ⟨fun hp => hd (List.cons_prefix_cons.1 hp).1, ih ht⟩

/-- The end of a raw Rust string. -/
def rustMark : Text := ['"', '#']

/-- The end of a raw Python string. -/
def pythonMark : Text := ['"', '"', '"']

/-- The number sign of the mark does not begin the mark, so one that begins in the text ends in it. -/
theorem free_rustMark {t : Text} (h : occursIn rustMark t = false) : free rustMark t := by
  induction t with
  | nil => rfl
  | cons c t ih =>
    obtain ⟨here, later⟩ := Bool.or_eq_false_iff.1 h
    refine free_cons.2 ⟨fun hp => ?_, ih later⟩
    obtain ⟨rfl, sign⟩ := List.cons_prefix_cons.1 hp
    cases t with
    | nil => exact absurd sign (by decide)
    | cons d t =>
      obtain ⟨rfl, -⟩ := List.cons_prefix_cons.1 sign
      exact absurd here (by simp [beginsWith, after?, rustMark])

/-- Three quotes that begin in the text and do not end in it begin at the end of its last character, or
of the last two; the last is no quote. -/
theorem free_pythonMark {t : Text} (h : occursIn pythonMark t = false) (last : t.getLast? ≠ some '"') :
    free pythonMark t := by
  induction t with
  | nil => rfl
  | cons c t ih =>
    obtain ⟨here, later⟩ := Bool.or_eq_false_iff.1 h
    have last' : t.getLast? ≠ some '"' := by
      cases t with
      | nil => simp
      | cons d t => rwa [List.getLast?_cons_cons] at last
    refine free_cons.2 ⟨fun hp => ?_, ih later last'⟩
    obtain ⟨rfl, two⟩ := List.cons_prefix_cons.1 hp
    -- the text has one, two or more characters left
    match t, here, last, two with
    | [], _, last, _ => exact last rfl
    | [d], _, last, two =>
      obtain ⟨rfl, -⟩ := List.cons_prefix_cons.1 two
      exact last rfl
    | d :: e :: t, here, _, two =>
      obtain ⟨rfl, one⟩ := List.cons_prefix_cons.1 two
      obtain ⟨rfl, -⟩ := List.cons_prefix_cons.1 one
      exact absurd here (by simp [beginsWith, after?, pythonMark])

theorem rawOr_go (t : Text) : RawOr go [backquote] [backquote] t (go t) := by
  have differ : Apart ['"'] [backquote] := by decide
  exact Or.inr ⟨rfl, differ.ne_of_begins (List.prefix_append ['"'] _)⟩

theorem rawOr_goRaw (t : Text) : RawOr go [backquote] [backquote] t (goRaw t) := by
  rw [goRaw]
  split
  · exact rawOr_go t
  · -- no back quote in the text, so the first one ends it
    rename_i h
    simp only [Bool.or_eq_true, List.contains_iff_mem, not_or] at h
    exact Or.inl ⟨rfl, free_singleton h.1⟩

theorem rawOr_rust (t : Text) : RawOr rust "r#\"" rustMark t (rust t) := by
  have differ : Apart ['"'] "r#\"" := by decide
  exact Or.inr ⟨rfl, differ.ne_of_begins (List.prefix_append ['"'] _)⟩

theorem rawOr_rustRaw (t : Text) : RawOr rust "r#\"" rustMark t (rustRaw t) := by
  rw [rustRaw]
  split
  · exact rawOr_rust t
  · rename_i h
    rw [Bool.or_eq_true, not_or, Bool.not_eq_true] at h
    exact Or.inl ⟨rfl, free_rustMark h.1⟩

/-- A text that is quoted instead is not empty, and its first character is no quote as it stands between
the quotes. -/
theorem rawOr_pythonRaw (t : Text) : RawOr python pythonMark pythonMark t (pythonRaw t) := by
  rw [pythonRaw]
  split
  · rename_i h
    refine Or.inr ⟨rfl, fun x y e => ?_⟩
    cases t with
    | nil => exact absurd h (by decide)
    | cons c t =>
      -- two quotes at the start of the mark would be the first escaped character and more
      have inside : Json.escapeChar c ++ (t.flatMap Json.escapeChar ++ '"' :: x) = '"' :: '"' :: y := by
        simpa [python, Json.quote, pythonMark] using e
      exact escapes_json.ne_quote (by decide) (by decide) c _ _ inside
  · rename_i h
    simp only [Bool.or_eq_true, not_or, Bool.not_eq_true] at h
    refine Or.inl ⟨rfl, free_pythonMark h.1.1 fun last => ?_⟩
    rw [endsQuoted, last] at h
    exact absurd h.2 (by decide)

/-! ### Tables of named values -/

theorem shows_phpEntry (indent : Text) : Shows (phpEntry indent) id :=
  ((((shows_php.comp Prod.fst).const_append (indent ++ "    ")).append_const " => ").append
    (shows_php.comp Prod.snd)).append_const [',']

theorem phpArray_eq (f : Fields) (indent : Text) :
    phpArray f indent =
      bracketed "[\n" ['\n'] ('\n' :: indent ++ [']']) "[]" (f.entries.map (phpEntry indent)) := by
  simp [phpArray, bracketed, Fields.isEmpty, lines]

/-- A table shows its fields if its items show them and begin, behind a separator, differently from what
closes the table. -/
theorem shows_table {write : Fields → Text} {item : Text × Text → Text}
    {opening sep start closing empty : Text}
    (h : ∀ f : Fields, write f = bracketed opening sep closing empty (f.entries.map item))
    (items : Shows item id) (hs : ∀ p, StartsIn [start] (sep ++ item p)) (apart : Apart start closing)
    (some_none : Apart opening empty) : Shows write id := by
  have entries : Shows write fun f => f.entries.map id := by
    rw [show write = _ from funext h]
    exact (items.bracketed hs apart some_none).comp Fields.entries
  exact entries.of_view fun f g same => Fields.ext_entries (by simpa using same)

theorem shows_phpArray : Shows (fun f => phpArray f "    ") id := by
  have start : ∀ p, StartsIn ["\n        "] (['\n'] ++ phpEntry "    " p) := fun p =>
    ⟨_, List.mem_singleton_self _, php p.1 ++ " => " ++ php p.2 ++ [','], by simp [phpEntry]⟩
  exact shows_table (fun f => phpArray_eq f _) (shows_phpEntry _) start (by decide) (by decide)

/-- A name and a value in double quotes. -/
def member (p : Text × Text) : Text := Json.quote p.1 ++ ": " ++ Json.quote p.2

theorem shows_member : Shows member id :=
  ((shows_python.comp Prod.fst).append_const ": ").append (shows_python.comp Prod.snd)

theorem pythonMembers_strings (level : Nat) (l : List (Text × Text)) :
    pythonMembers level (l.map fun p => (units p.1, .string p.2)) =
      (l.map member).flatMap ((',' :: pythonNewline level) ++ ·) := by
  induction l with
  | nil => rfl
  | cons p l ih => simp [pythonMembers, pythonValue, ih, member]

theorem pythonValue_ofFields (f : Fields) :
    pythonValue 0 (Json.ofFields f) =
      bracketed "\x7b\n    " ",\n    " "\n\x7d" "\x7b\x7d" (f.entries.map member) := by
  obtain ⟨entries, _⟩ := f
  cases entries with
  | nil => rfl
  | cons p l =>
    rw [List.map_cons, bracketed_cons, Json.ofFields, List.map_cons, pythonValue,
      pythonMembers_strings, pythonValue]
    simp [member, pythonNewline, fill]

theorem shows_pythonTable : Shows (fun f => pythonValue 0 (Json.ofFields f)) id :=
  shows_table pythonValue_ofFields shows_member (fun _ => startsIn_append _ _) (by decide) (by decide)

/-! ### Tables set deeper -/

theorem renderMembers_strings (level : Nat) (l : List (Text × Text)) :
    Json.renderMembers level (l.map fun p => (p.1, .string p.2)) =
      (l.map member).flatMap ((',' :: Json.newline level) ++ ·) := by
  induction l with
  | nil => rfl
  | cons p l ih => simp [Json.renderMembers, Json.render, ih, member]

theorem print_ofFields (f : Fields) :
    (Json.ofFields f).print =
      bracketed "\x7b\n  " ",\n  " "\n\x7d" "\x7b\x7d" (f.entries.map member) := by
  obtain ⟨entries, _⟩ := f
  cases entries with
  | nil => rfl
  | cons p l =>
    rw [List.map_cons, bracketed_cons, Json.ofFields, List.map_cons, Json.print, Json.render,
      renderMembers_strings, Json.render]
    simp [member, Json.newline, fill]

theorem indented_append (s t : Text) : indented (s ++ t) = indented s ++ indented t :=
  List.flatMap_append

theorem indented_of_notMem {t : Text} (h : '\n' ∉ t) : indented t = t := by
  induction t with
  | nil => rfl
  | cons c t ih =>
    obtain ⟨hc, ht⟩ := not_or.1 fun h' => h (List.mem_cons.2 h')
    rw [← List.singleton_append, indented_append, ih ht]
    simp [indented, Ne.symm hc]

theorem indented_bracketed (opening sep closing empty : Text) {pieces : List Text}
    (h : ∀ p ∈ pieces, '\n' ∉ p) :
    indented (bracketed opening sep closing empty pieces) =
      bracketed (indented opening) (indented sep) (indented closing) (indented empty) pieces := by
  cases pieces with
  | nil => rfl
  | cons p ps =>
    have rest : indented (ps.flatMap (sep ++ ·)) = ps.flatMap (indented sep ++ ·) := by
      rw [indented, List.flatMap_assoc]
      refine List.flatMap_congr fun q hq => ?_
      have keep := indented_of_notMem (h q (List.mem_cons_of_mem p hq))
      rw [← indented, indented_append, keep]
    simp only [bracketed_cons, indented_append, rest, indented_of_notMem (h p List.mem_cons_self)]

theorem control_notMem_escapePiece {d : Char} (hd : d ∈ controls) (p : Piece) :
    d ∉ Json.escapePiece p := by
  have escaped : ∀ d ∈ controls, ∀ c ∈ '\\' :: '"' :: controls, d ∉ Json.escapeChar c := by
    decide +kernel
  have shown : ∀ d ∈ controls, d ∉ ['\\', 'u'] ∧ ∀ n < 16, d ≠ Nat.digitChar n := by decide +kernel
  intro hc
  cases p with
  | char c =>
    by_cases special : c ∈ '\\' :: '"' :: controls
    · exact escaped d hd c special hc
    · rw [Json.escapePiece, escapes_json.plain c special, List.mem_singleton] at hc
      subst hc
      exact special (List.mem_cons_of_mem _ (List.mem_cons_of_mem _ hd))
  | half u =>
    -- four hexadecimal digits behind `\u`
    obtain ⟨mark, digits⟩ := shown d hd
    rcases List.mem_append.1 hc with hc | hc
    · exact mark hc
    · simp only [hex_four u.isLt, List.mem_cons, List.not_mem_nil, or_false] at hc
      rcases hc with hc | hc | hc | hc <;> exact digits _ (by omega) hc

/-- No control character below the space stands in a quoted string. -/
theorem control_notMem_quoteUnits {d : Char} (hd : d ∈ controls) (s : CodeUnits) :
    d ∉ Json.quoteUnits s := by
  have quote : ∀ d ∈ controls, d ≠ '"' := by decide
  simp only [Json.quoteUnits, List.mem_cons, List.mem_append, List.mem_flatMap, List.not_mem_nil,
    or_false, quote d hd, false_or, not_exists, not_and]
  exact fun p _ => control_notMem_escapePiece hd p

theorem control_notMem_quote {d : Char} (hd : d ∈ controls) (s : Text) : d ∉ Json.quote s := by
  rw [← Json.quoteUnits_units]
  exact control_notMem_quoteUnits hd s

theorem lineFeed_notMem_quote (s : Text) : '\n' ∉ Json.quote s := control_notMem_quote (by decide) s

theorem lineFeed_notMem_member (p : Text × Text) : '\n' ∉ member p := by
  simp [member, lineFeed_notMem_quote]

theorem indented_print_ofFields (f : Fields) :
    indented (Json.ofFields f).print =
      bracketed "\x7b\n    " ",\n    " "\n  \x7d" "\x7b\x7d" (f.entries.map member) := by
  have oneLine : ∀ q ∈ f.entries.map member, '\n' ∉ q := by
    intro q hq
    obtain ⟨p, -, rfl⟩ := List.mem_map.1 hq
    exact lineFeed_notMem_member p
  rw [print_ofFields, indented_bracketed _ _ _ _ oneLine]
  rfl

theorem shows_javascriptTable : Shows (fun f => indented (Json.ofFields f).print) id :=
  shows_table indented_print_ofFields shows_member (fun _ => startsIn_append _ _) (by decide) (by decide)

end CurlSnippets.Literal
