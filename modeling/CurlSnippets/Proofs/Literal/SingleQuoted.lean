import CurlSnippets.Json.Reader
import CurlSnippets.Proofs.Literal.Reader
import CurlSnippets.Proofs.Literal.Tokens
import CurlSnippets.Proofs.Text.Laws

/-!
# Literals in apostrophes read back

JavaScript and PHP read what stands between apostrophes differently.  In JavaScript a backslash always
begins an escape, and no line end may stand there as it is.  In PHP a backslash begins an escape only in
front of another one or an apostrophe and stands for itself otherwise, and line ends may stand there.

A literal of either kind is read back in front of any text, and a PHP array as the named values that were
written, whatever blanks it is indented with (`single_quoted_read_back`).
-/

namespace CurlSnippets.Literal

/-! ### JavaScript -/

namespace Javascript

/-- Whether a character is one of the two separators beyond ASCII, which are written by their numbers. -/
def isSeparator (c : Char) : Bool := c = Char.ofNat 0x2028 || c = Char.ofNat 0x2029

/-- Whether a character ends a line. -/
def isLineEnd (c : Char) : Bool := c = '\n' || c = '\r' || isSeparator c

/-- The code unit of an escape by number behind its backslash. -/
def codeUnit? : Text → Option CodeUnit
  | 'u' :: a :: b :: c :: d :: _ => (Json.hex4? a b c d).map .ofNat
  | _ => none

/-- The character of an escape by number behind its backslash.  Two escapes in a row are one character if
they are its halves; half a character alone is none. -/
def numbered? (t : Text) : Option (Text × Nat) :=
  match codeUnit? t with
  | none => none
  | some first =>
    if first.isHigh then
      match t.drop 5 with
      | '\\' :: u =>
        (codeUnit? u).filter (·.isLow) |>.map fun second => ([CodeUnit.join first second], 11)
      | _ => none
    else if first.isLow then none
    else some ([Char.ofNat first.val], 5)

/-- How JavaScript reads a string in apostrophes. -/
def reader : Reader Char where
  quote := '\''
  units c := [c]
  plain c := !isLineEnd c
  letters := [('\\', '\\'), ('\'', '\''), ('n', '\n'), ('r', '\r'), ('t', '\t')]
  other := numbered?

/-- A separator by its number. -/
def separatorCode (c : Char) : Text := if c = Char.ofNat 0x2028 then "u2028" else "u2029"

theorem undoes_javascriptEscape : reader.Undoes javascriptEscape isSeparator separatorCode where
  differ := by decide
  quote := by decide
  backslash := by decide
  letters := by decide
  others c h := by
    simp only [reader, List.map_cons, List.map_nil, List.mem_cons, List.not_mem_nil, or_false,
      not_or] at h
    by_cases line : c = Char.ofNat 0x2028
    · subst line
      rfl
    · by_cases paragraph : c = Char.ofNat 0x2029
      · subst paragraph
        rfl
      · simp [javascriptEscape, isSeparator, h, line, paragraph]
  plain c h separator := by
    have feed : c ≠ '\n' := fun e => h (e ▸ by decide)
    have carriage : c ≠ '\r' := fun e => h (e ▸ by decide)
    simp [reader, isLineEnd, feed, carriage, separator]
  codes c h s := by
    rw [isSeparator, Bool.or_eq_true, decide_eq_true_eq, decide_eq_true_eq] at h
    rcases h with rfl | rfl <;> rfl

end Javascript

/-! ### PHP -/

namespace Php

/-- How PHP reads a string in apostrophes: a backslash in front of any other character stands for
itself. -/
def reader : Reader Char where
  quote := '\''
  units c := [c]
  plain _ := true
  letters := [('\\', '\\'), ('\'', '\'')]
  other _ := some (['\\'], 0)

theorem undoes_phpEscape : reader.Undoes phpEscape (fun _ => false) fun _ => [] where
  differ := by decide
  quote := by decide
  backslash := by decide
  letters := by decide
  others c h := by
    simp only [reader, List.map_cons, List.map_nil, List.mem_cons, List.not_mem_nil, or_false,
      not_or] at h
    simp [phpEscape, h]
  plain _ _ _ := rfl
  codes _ h := absurd h Bool.false_ne_true

theorem read_php (v s : Text) : reader.read (php v ++ s) = some (v, s) :=
  undoes_phpEscape.read_text (fun _ => rfl) v s

/-- The apostrophes are escaped behind the backslashes: if they went first, the backslashes of their
escapes would be doubled. -/
theorem php_eq_passes (v : Text) :
    php v = '\'' :: (v.flatMap fun c => if c = '\\' then ['\\', '\\'] else [c]).flatMap
      (fun c => if c = '\'' then ['\\', '\''] else [c]) ++ ['\''] := by
  have passes : ∀ c : Char, (if c = '\\' then ['\\', '\\'] else [c]).flatMap
      (fun c => if c = '\'' then ['\\', '\''] else [c]) = phpEscape c := by
    intro c
    by_cases backslash : c = '\\'
    · subst backslash
      rfl
    · simp [phpEscape, backslash]
  rw [List.flatMap_assoc, List.flatMap_congr fun c _ => passes c]
  rfl

/-! ### PHP arrays -/

/-- What an array is written with. -/
inductive Token where
  | opening | closing | comma | arrow | space
  | string (value : Text)

/-- How far an array was read, with the entries so far, the last one first. -/
inductive State where
  /-- Nothing was read. -/
  | start
  /-- A name or the end of the array is next. -/
  | between (entries : List (Text × Text))
  | named (name : Text) (entries : List (Text × Text))
  | pointed (name : Text) (entries : List (Text × Text))
  /-- A comma or the end of the array is next. -/
  | filled (entries : List (Text × Text))
  /-- The array was read to its end; its entries are in order. -/
  | done (entries : List (Text × Text))

/-- Whether a character may stand between two tokens. -/
def isSpace (c : Char) : Bool := c = ' ' || c = '\n' || c = '\r' || c = '\t'

/-- The token that begins with a character. -/
def token? (c : Char) (t : Text) : Option (Token × Nat) :=
  if isSpace c then some (.space, 0)
  else if c = '[' then some (.opening, 0)
  else if c = ']' then some (.closing, 0)
  else if c = ',' then some (.comma, 0)
  else if c = '=' then if t.head? = some '>' then some (.arrow, 1) else none
  else (literal? reader.read c t).map fun found => (.string found.1, found.2)

/-- What a token does to the state.  A comma may stand behind the last entry. -/
def step : State → Token → Option State
  | .start, .opening => some (.between [])
  | .start, _ => none
  | .done _, _ => none
  | state, .space => some state
  | .between entries, .string name => some (.named name entries)
  | .between entries, .closing => some (.done entries.reverse)
  | .named name entries, .arrow => some (.pointed name entries)
  | .pointed name entries, .string value => some (.filled ((name, value) :: entries))
  | .filled entries, .comma => some (.between entries)
  | .filled entries, .closing => some (.done entries.reverse)
  | _, _ => none

/-- How PHP reads an array of named texts. -/
def arrayReader : TokenReader State Token := ⟨token?, step⟩

/-- The entries of the array that a text is. -/
def readArray (t : Text) : Option (List (Text × Text)) :=
  match arrayReader.run .start t with
  | some (.done entries) => some entries
  | _ => none

variable {state next : State}

theorem run_php {v : Text} (allowed : step state (.string v) = some next) (s : Text) :
    arrayReader.run state (php v ++ s) = arrayReader.run next s := by
  have text : php v ++ s = '\'' :: ((v.flatMap phpEscape ++ ['\'']) ++ s) := rfl
  have read := read_php v s
  rw [text] at read ⊢
  refine TokenReader.run_token ?_ allowed
  show (literal? reader.read '\'' _).map _ = _
  rw [literal?_append read, Option.map_some]

theorem run_space {x : Text} (space : ∀ c ∈ x, isSpace c) (allowed : step state .space = some state)
    (s : Text) : arrayReader.run state (x ++ s) = arrayReader.run state s :=
  TokenReader.run_stay (fun c hc _ => ⟨.space, if_pos (space c hc), allowed⟩) s

theorem run_arrow (name : Text) (entries : List (Text × Text)) (s : Text) :
    arrayReader.run (.named name entries) (" => " ++ s) = arrayReader.run (.pointed name entries) s := by
  have before : ∀ u, arrayReader.run (.named name entries) (' ' :: u) =
      arrayReader.run (.named name entries) u := fun u => TokenReader.run_mark rfl rfl
  have arrow : ∀ u, arrayReader.run (.named name entries) ('=' :: ('>' :: u)) =
      arrayReader.run (.pointed name entries) u := fun u => TokenReader.run_token (x := ['>']) rfl rfl
  have behind : ∀ u, arrayReader.run (.pointed name entries) (' ' :: u) =
      arrayReader.run (.pointed name entries) u := fun u => TokenReader.run_mark rfl rfl
  exact (before _).trans ((arrow _).trans (behind s))

variable {indent : Text} (blank : ∀ c ∈ indent, isSpace c)

include blank

/-- An entry is read as its name and its value. -/
theorem run_phpEntry (p : Text × Text) (entries : List (Text × Text)) (s : Text) :
    arrayReader.run (.between entries) (phpEntry indent p ++ s) =
      arrayReader.run (.between (p :: entries)) s := by
  have text : phpEntry indent p ++ s =
      (indent ++ "    ") ++ (php p.1 ++ (" => " ++ (php p.2 ++ ',' :: s))) := by
    simp [phpEntry]
  have margin : ∀ c ∈ indent ++ ("    " : Text), isSpace c := by
    intro c hc
    rcases List.mem_append.1 hc with h | h
    · exact blank c h
    · exact (by simp [isSpace] : ∀ c ∈ ("    " : Text), isSpace c) c h
  rw [text, run_space margin rfl, run_php rfl, run_arrow, run_php rfl]
  exact TokenReader.run_mark rfl rfl

/-- Entries are read one after another. -/
theorem run_phpEntries (l entries : List (Text × Text)) (s : Text) :
    arrayReader.run (.between entries) (l.flatMap (fun p => '\n' :: phpEntry indent p) ++ s) =
      arrayReader.run (.between (l.reverse ++ entries)) s := by
  induction l generalizing entries with
  | nil => rfl
  | cons p l ih =>
    have feed : ∀ u, arrayReader.run (.between entries) ('\n' :: u) =
        arrayReader.run (.between entries) u := fun u => TokenReader.run_mark rfl rfl
    rw [List.flatMap_cons, List.append_assoc, List.cons_append, feed, run_phpEntry blank, ih]
    simp

/-- An array is read as its entries, in front of any text. -/
theorem run_phpArray (f : Fields) (s : Text) :
    arrayReader.run .start (phpArray f indent ++ s) = arrayReader.run (.done f.entries) s := by
  have opening : ∀ u, arrayReader.run .start ('[' :: u) = arrayReader.run (.between []) u :=
    fun u => TokenReader.run_mark rfl rfl
  have closing : ∀ l u, arrayReader.run (.between l) (']' :: u) =
      arrayReader.run (.done l.reverse) u := fun l u => TokenReader.run_mark rfl rfl
  obtain ⟨entries, nodup⟩ := f
  cases entries with
  | nil =>
    show arrayReader.run .start ('[' :: ']' :: s) = _
    rw [opening, closing]
    rfl
  | cons p l =>
    have text : phpArray ⟨p :: l, nodup⟩ indent ++ s =
        '[' :: ((p :: l).flatMap (fun p => '\n' :: phpEntry indent p) ++
          (('\n' :: indent) ++ ']' :: s)) := by
      simp [phpArray, Fields.isEmpty, Text.lines, Text.join_cons, List.flatMap_map]
    have margin : ∀ c ∈ '\n' :: indent, isSpace c := List.forall_mem_cons.2 ⟨rfl, blank⟩
    rw [text, opening, run_phpEntries blank, run_space margin rfl, closing]
    simp

theorem readArray_phpArray (f : Fields) : readArray (phpArray f indent) = some f.entries := by
  have run := run_phpArray blank f []
  rw [List.append_nil] at run
  rw [readArray, run]
  rfl

end Php

/-! ### Both -/

/-- **Literals in apostrophes are read back** in front of any text, to their end and as the texts that
were written, by JavaScript and by PHP.  So a PHP array, indented with any blanks, is read back as the
named values in their order. -/
theorem single_quoted_read_back :
    (∀ v s, Javascript.reader.read (javascript v ++ s) = some (v, s)) ∧
    (∀ v s, Php.reader.read (php v ++ s) = some (v, s)) ∧
    ∀ (f : Fields) (indent : Text), (∀ c ∈ indent, Php.isSpace c) →
      Php.readArray (phpArray f indent) = some f.entries :=
  ⟨Javascript.undoes_javascriptEscape.read_text fun _ => rfl, Php.read_php,
    fun f _ blank => Php.readArray_phpArray blank f⟩

theorem single_quoted_read_back_indented :
    (∀ c ∈ ("\t " : Text), Php.isSpace c) ∧
    Php.readArray (phpArray (Fields.ofList [("it's\\", "\\"), ("", "'\n]")]) "\t ") =
      some ([("it's\\", "\\"), ("", "'\n]")] : List (Text × Text)) := by
  have blank : ∀ c ∈ ("\t " : Text), Php.isSpace c := by simp [Php.isSpace]
  exact ⟨blank, single_quoted_read_back.2.2 _ _ blank⟩

/-- What is no blank is part of the program. -/
example : Php.readArray (phpArray (Fields.ofList [("a", "b")]) "#") = none := by decide

end CurlSnippets.Literal
