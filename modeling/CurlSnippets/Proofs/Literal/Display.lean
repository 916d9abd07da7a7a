import CurlSnippets.Proofs.Json.Floats
import CurlSnippets.Proofs.Literal.Python
import CurlSnippets.Proofs.Literal.Tokens
import CurlSnippets.Snippet.Requests

/-!
# Python displays read back

A display is read token by token.  What is open around a token is a stack of lists and dictionaries,
each with what was read of it so far.  Layout may stand where something is open, and nowhere else.

Which literals there are for floating point numbers is left open: a reader may know some that it tries
before every other token (`readerWith`), and the display of a value needs them for the floating point
numbers in it alone (`Floats`).

From any state that wants a value, the display of a value takes the reader to the state that has it, at
any level (`run_pythonValue`): the indentation stands where something is open.  So a display is read back
as the value (`display_read_back`).
-/

namespace CurlSnippets

namespace Json

/-- A value that may be read, all of whose floating point numbers are `known`. -/
structure Displayed (known : Binary64 → Prop) (j : Json) : Prop where
  readable : Readable j
  floats : ∀ x, IsPart (.float x) j → known x

namespace Displayed

variable {known : Binary64 → Prop} {items : List Json} {members : List (CodeUnits × Json)}

theorem item (h : Displayed known (.array items)) : ∀ item ∈ items, Displayed known item :=
  fun _ hm => ⟨h.readable.item _ hm, Json.forall_float_array.1 h.floats _ hm⟩

theorem member (h : Displayed known (.object members)) : ∀ p ∈ members, Displayed known p.2 :=
  fun _ hm => ⟨h.readable.member _ hm, Json.forall_float_object.1 h.floats _ hm⟩

end Displayed

end Json

namespace Literal.Python

open Json (Lossless EndsNumber Displayed)

/-! ### Tokens -/

/-- What a display is written with. -/
inductive Token where
  | openList | closeList | openDict | closeDict | comma | colon | space
  /-- A name, a number or a string. -/
  | atom (value : Json)

/-- Whether a character may stand between two tokens. -/
def isSpace (c : Char) : Bool := c = ' ' || c = '\n' || c = '\t' || c = '\r' || c = '\x0c'

/-- Whether a character belongs to a name that has begun. -/
def isNameChar (c : Char) : Bool := c.isAlphanum || c = '_' || 128 ≤ c.toNat

/-- The values that have a name. -/
def names : List (Text × Json) := [("None", .null), ("True", .bool true), ("False", .bool false)]

/-- The digits of a number that a text goes on with: no zero stands in front of others, and there are no
more than the limit. -/
def digits? (t : Text) : Option Text :=
  let digits := t.takeWhile Char.isDigit
  if digits = [] || digits.head? = some '0' && digits ≠ ['0'] || digitLimit < digits.length then none
  else some digits

/-- The token that begins with a character. -/
def token? (c : Char) (t : Text) : Option (Token × Nat) :=
  if isSpace c then some (.space, 0)
  else if c = '[' then some (.openList, 0)
  else if c = ']' then some (.closeList, 0)
  else if c = '\x7b' then some (.openDict, 0)
  else if c = '\x7d' then some (.closeDict, 0)
  else if c = ',' then some (.comma, 0)
  else if c = ':' then some (.colon, 0)
  else if c = '"' then
    (literal? pieces? c t).map fun found =>
      (.atom (.string (found.1.flatMap Piece.units)), found.2)
  else if c = '-' then (digits? t).map fun digits => (.atom (.int (signed true digits)), digits.length)
  else if c.isDigit then
    (digits? (c :: t)).map fun digits => (.atom (.int (signed false digits)), digits.length - 1)
  else
    let name := t.takeWhile isNameChar
    (names.lookup (c :: name)).map fun value => (.atom value, name.length)

/-! ### The stack -/

/-- A list or a dictionary that is open, with what was read of it so far, the last one first. -/
inductive Frame where
  | list (items : List Json)
  /-- A name or the end is next. -/
  | dict (members : List (CodeUnits × Json))
  /-- The value of a name is next. -/
  | member (name : CodeUnits) (members : List (CodeUnits × Json))

/-- Where the reader stands, with what is open around it, the innermost first. -/
inductive State where
  /-- A value is next, or the end of what is open. -/
  | wants (around : List Frame)
  /-- A value was read. -/
  | has (value : Json) (around : List Frame)

/-- A dictionary of members, the last one first.  Of members with the same name the last value counts. -/
def dictOf (members : List (CodeUnits × Json)) : Json := .object (Pairs.putAll members.reverse [])

/-- What is open around the place where the reader stands. -/
def State.around : State → List Frame
  | .wants around => around
  | .has _ around => around

/-- What a token does to the state.  A comma may stand behind the last item or member. -/
def step (state : State) (token : Token) : Option State :=
  match token, state with
  | .space, state => if state.around.isEmpty then none else some state
  | .atom value, .wants around => some (.has value around)
  | .openList, .wants around => some (.wants (.list [] :: around))
  | .openDict, .wants around => some (.wants (.dict [] :: around))
  | .closeList, .wants (.list items :: around) => some (.has (.array items.reverse) around)
  | .closeList, .has value (.list items :: around) =>
    some (.has (.array (value :: items).reverse) around)
  | .closeDict, .wants (.dict members :: around) => some (.has (dictOf members) around)
  | .closeDict, .has value (.member name members :: around) =>
    some (.has (dictOf ((name, value) :: members)) around)
  | .comma, .has value (.list items :: around) => some (.wants (.list (value :: items) :: around))
  | .comma, .has value (.member name members :: around) =>
    some (.wants (.dict ((name, value) :: members) :: around))
  | .colon, .has (.string name) (.dict members :: around) =>
    some (.wants (.member name members :: around))
  | _, _ => none

/-- How Python reads a display. -/
def displayReader : TokenReader State Token := ⟨token?, step⟩

/-- The value of the display that a text is. -/
def evaluate (t : Text) : Option Json :=
  match displayReader.run (.wants []) t with
  | some (.has value []) => some value
  | _ => none

/-! ### Literals for floating point numbers -/

/-- How Python reads a display if there are more literals, for floating point numbers. -/
def readerWith (float? : Char → Text → Option (Binary64 × Nat)) : TokenReader State Token where
  token? c t :=
    match float? c t with
    | some (x, n) => some (.atom (.float x), n)
    | none => token? c t
  step := step

/-- Whether a character can begin a literal for a floating point number. -/
def beginsFloat (c : Char) : Bool := c.isDigit || c = '-' || c = 'f'

/-! ### Literals in displays -/

/-- Whether a text may follow a value: it is empty, or goes on with a separator or a line break. -/
def Follows (t : Text) : Prop := ∀ c ∈ t.head?, c = ',' ∨ c = ':' ∨ c = '\n'

variable {s : Text}

theorem follows_cons {c : Char} (h : c = ',' ∨ c = ':' ∨ c = '\n') (t : Text) : Follows (c :: t) := by
  intro d hd
  obtain rfl := Option.some.inj hd
  exact h

theorem Follows.endsNumber (h : Follows s) : EndsNumber s := by
  intro c hc
  rcases h c hc with rfl | rfl | rfl <;> decide

theorem Follows.ne_quote (h : Follows s) : s.head? ≠ some '"' := by
  intro e
  rcases h '"' e with e | e | e <;> exact absurd e (by decide)

theorem Follows.not_isNameChar (h : Follows s) : ∀ c ∈ s.head?, isNameChar c = false := by
  intro c hc
  rcases h c hc with rfl | rfl | rfl <;> decide

theorem digits?_natText {n : Nat} (hn : digitCount n ≤ digitLimit) (h : Follows s) :
    digits? (natText n ++ s) = some (natText n) := by
  have taken := ((Json.isDigits_natText n).run h.endsNumber.stops).1
  have short : ¬ digitLimit < (natText n).length := Nat.not_lt.2 hn
  rw [digits?, taken]
  simpa [natText_ne_nil, short] using (Json.isWhole_natText n).zero

/-- A digit begins a number and no other token. -/
theorem token?_of_isDigit {c : Char} (h : c.isDigit) (t : Text) : token? c t =
    (digits? (c :: t)).map fun digits => (.atom (.int (signed false digits)), digits.length - 1) := by
  have other : ∀ d : Char, d.isDigit = false → c ≠ d := fun _ => Text.ne_of_holds h
  have space : isSpace c = false := by
    simp [isSpace, other ' ' (by decide), other '\n' (by decide), other '\t' (by decide),
      other '\r' (by decide), other '\x0c' (by decide)]
  simp [token?, space, h, other '[' (by decide), other ']' (by decide), other '\x7b' (by decide),
    other '\x7d' (by decide), other ',' (by decide), other ':' (by decide), other '"' (by decide),
    other '-' (by decide)]

/-- The literals of a reader, for the floating point numbers that are `known`: none of them begins like
another token, no integer is taken for one, and a number that is written is read as its `value`. -/
structure Floats (float? : Char → Text → Option (Binary64 × Nat)) (known : Binary64 → Prop)
    (value : Binary64 → Binary64) : Prop where
  apart : ∀ c t, beginsFloat c = false → float? c t = none
  integer : ∀ n c x s, intText n = c :: x → Follows s → digitCount n.natAbs ≤ digitLimit →
    float? c (x ++ s) = none
  written : ∀ x, known x → ∃ c u, pythonFloat x = c :: u ∧
    ∀ s, Follows s → float? c (u ++ s) = some (value x, u.length)

theorem floats_none : Floats (fun _ _ => none) (fun _ => False) id where
  apart _ _ _ := rfl
  integer _ _ _ _ _ _ _ := rfl
  written _ h := absurd h not_false

section Reader

variable {float? : Char → Text → Option (Binary64 × Nat)} {known : Binary64 → Prop}
  {value : Binary64 → Binary64} (h : Floats float? known value) {around : List Frame}

/-- A literal is read as its value. -/
theorem run_atom {c : Char} {x : Text} {j : Json}
    (found : (readerWith float?).token? c (x ++ s) = some (.atom j, x.length)) :
    (readerWith float?).run (.wants around) (c :: (x ++ s)) =
      (readerWith float?).run (.has j around) s :=
  TokenReader.run_token found rfl

include h

theorem token?_of_apart {c : Char} (hc : beginsFloat c = false) (t : Text) :
    (readerWith float?).token? c t = token? c t := by
  simp only [readerWith, h.apart c t hc]

theorem run_mark {c : Char} (hc : beginsFloat c = false) {token : Token} {state next : State}
    (found : ∀ t, token? c t = some (token, 0)) (allowed : step state token = some next) (t : Text) :
    (readerWith float?).run state (c :: t) = (readerWith float?).run next t :=
  TokenReader.run_mark ((token?_of_apart h hc t).trans (found t)) allowed

/-- A name is read as its value. -/
theorem run_name {w : Text} {j : Json} (mem : (w, j) ∈ names) (follows : Follows s) :
    (readerWith float?).run (.wants around) (w ++ s) =
      (readerWith float?).run (.has j around) s := by
  have word : ∀ x : Text, (∀ c ∈ x, isNameChar c) → (x ++ s).takeWhile isNameChar = x :=
    fun x all => (Text.run_append_of_head? all follows.not_isNameChar).1
  simp only [names, List.mem_cons, Prod.mk.injEq, List.not_mem_nil, or_false] at mem
  -- a name ends where no further character of a name follows
  rcases mem with ⟨rfl, rfl⟩ | ⟨rfl, rfl⟩ | ⟨rfl, rfl⟩
  · refine run_atom (x := "one") ((token?_of_apart h (by decide) _).trans ?_)
    show (names.lookup ('N' :: _)).map _ = _
    rw [word "one" (by decide)]
    rfl
  · refine run_atom (x := "rue") ((token?_of_apart h (by decide) _).trans ?_)
    show (names.lookup ('T' :: _)).map _ = _
    rw [word "rue" (by decide)]
    rfl
  · refine run_atom (x := "alse") ((token?_of_apart h (by decide) _).trans ?_)
    show (names.lookup ('F' :: _)).map _ = _
    rw [word "alse" (by decide)]
    rfl

theorem run_intText {n : Int} (hn : digitCount n.natAbs ≤ digitLimit) (follows : Follows s) :
    (readerWith float?).run (.wants around) (intText n ++ s) =
      (readerWith float?).run (.has (.int n) around) s := by
  have token : ∀ c x, intText n = c :: x →
      (readerWith float?).token? c (x ++ s) = token? c (x ++ s) := by
    intro c x text
    simp only [readerWith, h.integer n c x s text follows hn]
  have sign := signed_natText n
  have digits := digits?_natText hn follows
  obtain ⟨c, x, text⟩ : ∃ c x, intText n = c :: x := by
    rw [intText]
    split
    · exact ⟨_, _, rfl⟩
    · obtain ⟨c, x, e, -⟩ := exists_natText_eq_cons n.natAbs
      exact ⟨c, x, e⟩
  -- no literal for a floating point number is tried before it
  have found := token c x text
  rw [text]
  refine run_atom (found.trans ?_)
  rw [intText] at text
  split at text
  · -- a minus sign and the digits
    rename_i negative
    obtain ⟨rfl, rfl⟩ := List.cons.inj text
    show (digits? (natText n.natAbs ++ s)).map _ = _
    rw [decide_eq_true negative] at sign
    rw [digits, Option.map_some, sign]
  · -- the digits alone, the first of which begins the token
    rename_i negative
    rw [decide_eq_false negative] at sign
    have digit : c.isDigit := isDigit_of_mem_natText (n := n.natAbs) (text ▸ List.mem_cons_self)
    rw [text] at digits sign
    rw [token?_of_isDigit digit, ← List.cons_append, digits, Option.map_some, sign]
    rfl

theorem run_pythonFloat {x : Binary64} (hx : known x) (follows : Follows s) :
    (readerWith float?).run (.wants around) (pythonFloat x ++ s) =
      (readerWith float?).run (.has (.float (value x)) around) s := by
  obtain ⟨c, u, text, read⟩ := h.written x hx
  rw [text]
  refine run_atom ?_
  simp only [readerWith, read s follows]

theorem run_quoteUnits (v : CodeUnits) (hs : s.head? ≠ some '"') :
    (readerWith float?).run (.wants around) (Json.quoteUnits v ++ s) =
      (readerWith float?).run (.has (.string v) around) s := by
  have text : Json.quoteUnits v ++ s =
      '"' :: (((pieces v).flatMap Json.escapePiece ++ ['"']) ++ s) := rfl
  have read := pieces?_quoteUnits (v := v) fun _ => hs
  rw [text] at read ⊢
  refine run_atom ((token?_of_apart h (by decide) _).trans ?_)
  show (literal? pieces? '"' _).map _ = _
  rw [literal?_append read, Option.map_some, units_pieces]

/-! ### Layout -/

/-- A line break with its indentation is passed over where something is open. -/
theorem run_pythonNewline {state : State} (inside : step state .space = some state) (level : Nat) :
    (readerWith float?).run state (pythonNewline level ++ s) = (readerWith float?).run state s := by
  have blank : ∀ c ∈ pythonNewline level, isSpace c ∧ beginsFloat c = false := by
    intro c hc
    rcases List.mem_cons.1 hc with rfl | hc
    · exact ⟨rfl, by decide⟩
    · rw [List.eq_of_mem_replicate hc]
      exact ⟨rfl, by decide⟩
  refine TokenReader.run_stay (fun c hc t => ⟨.space, ?_, inside⟩) s
  exact (token?_of_apart h (blank c hc).2 t).trans (if_pos (blank c hc).1)

omit h in
theorem follows_pythonNewline (level : Nat) (t : Text) : Follows (pythonNewline level ++ t) :=
  follows_cons (.inr (.inr rfl)) _

omit h in
theorem follows_pythonItems (level outer : Nat) (l : List Json) (t : Text) :
    Follows (pythonItems level l ++ (pythonNewline outer ++ t)) := by
  cases l with
  | nil => exact follows_pythonNewline outer t
  | cons item l => exact follows_cons (.inl rfl) _

omit h in
theorem follows_pythonMembers (level outer : Nat) (l : List (CodeUnits × Json)) (t : Text) :
    Follows (pythonMembers level l ++ (pythonNewline outer ++ t)) := by
  cases l with
  | nil => exact follows_pythonNewline outer t
  | cons p l => exact follows_cons (.inl rfl) _

/-! ### Displays -/

/-- A name with its colon is read up to the value. -/
theorem run_memberName (name : CodeUnits) (members : List (CodeUnits × Json)) (t : Text) :
    (readerWith float?).run (.wants (.dict members :: around)) (Json.quoteUnits name ++ (": " ++ t)) =
      (readerWith float?).run (.wants (.member name members :: around)) t := by
  rw [run_quoteUnits h name (by simp)]
  have colon : (readerWith float?).run (.has (.string name) (.dict members :: around))
        (':' :: ' ' :: t) =
      (readerWith float?).run (.wants (.member name members :: around)) (' ' :: t) :=
    run_mark h (by decide) (fun _ => rfl) rfl _
  exact colon.trans (run_mark h (by decide) (fun _ => rfl) rfl t)

-- By induction on the value.  What is open around it is general, since it is open around the items and
-- members as well, with one frame more.
mutual

/-- A display takes the reader to its value, at any level and whatever is open around it. -/
theorem run_pythonValue (level : Nat) (around : List Frame) (s : Text) : ∀ j : Json,
    Displayed known j → Follows s →
      (readerWith float?).run (.wants around) (pythonValue level j ++ s) =
        (readerWith float?).run (.has (j.mapFloats value) around) s := by
  intro j hj follows
  match j with
  | .null => exact run_name h (w := "None") (j := .null) (by simp [names]) follows
  | .bool true => exact run_name h (w := "True") (j := .bool true) (by simp [names]) follows
  | .bool false => exact run_name h (w := "False") (j := .bool false) (by simp [names]) follows
  | .int n => exact run_intText h (hj.readable.integers n .self) follows
  | .float x => exact run_pythonFloat h (hj.floats x .self) follows
  | .string v => exact run_quoteUnits h v follows.ne_quote
  | .array [] =>
    have opening : (readerWith float?).run (.wants around) ('[' :: ']' :: s) =
        (readerWith float?).run (.wants (.list [] :: around)) (']' :: s) :=
      run_mark h (by decide) (fun _ => rfl) rfl _
    exact opening.trans (run_mark h (by decide) (fun _ => rfl) rfl s)
  | .array (item :: l) =>
    have first := hj.item item (by simp)
    have opening : ∀ t, (readerWith float?).run (.wants around) ('[' :: t) =
        (readerWith float?).run (.wants (.list [] :: around)) t :=
      run_mark h (by decide) (fun _ => rfl) rfl
    simp only [pythonValue, List.cons_append, List.append_assoc, List.nil_append]
    rw [opening, run_pythonNewline h rfl,
      run_pythonValue (level + 1) _ _ item first (follows_pythonItems _ _ _ _)]
    exact run_pythonItems (level + 1) level around s l (fun x hx => hj.item x (by simp [hx])) _ []
  | .object [] =>
    have opening : (readerWith float?).run (.wants around) ('\x7b' :: '\x7d' :: s) =
        (readerWith float?).run (.wants (.dict [] :: around)) ('\x7d' :: s) :=
      run_mark h (by decide) (fun _ => rfl) rfl _
    exact opening.trans (run_mark h (by decide) (fun _ => rfl) rfl s)
  | .object ((name, item) :: l) =>
    have first := hj.member (name, item) (by simp)
    have opening : ∀ t, (readerWith float?).run (.wants around) ('\x7b' :: t) =
        (readerWith float?).run (.wants (.dict [] :: around)) t :=
      run_mark h (by decide) (fun _ => rfl) rfl
    simp only [pythonValue, List.cons_append, List.append_assoc, List.nil_append]
    rw [opening, run_pythonNewline h rfl, run_memberName h,
      run_pythonValue (level + 1) _ _ item first (follows_pythonMembers _ _ _ _)]
    exact run_pythonMembers (level + 1) level around s l (fun x hx => hj.member x (by simp [hx])) name
      _ [] (by simpa using hj.readable.names _ .self)

/-- Behind an item the other items and the end of the list are read. -/
theorem run_pythonItems (level outer : Nat) (around : List Frame) (s : Text) : ∀ l : List Json,
    (∀ item ∈ l, Displayed known item) → ∀ (item : Json) (items : List Json),
      (readerWith float?).run (.has item (.list items :: around))
          (pythonItems level l ++ (pythonNewline outer ++ ']' :: s)) =
        (readerWith float?).run
          (.has (.array (items.reverse ++ item :: Json.mapItems value l)) around) s := by
  intro l hl item items
  match l with
  | [] =>
    have closing : (readerWith float?).run (.has item (.list items :: around)) (']' :: s) =
        (readerWith float?).run (.has (.array (items.reverse ++ [item])) around) s := by
      rw [← List.reverse_cons]
      exact run_mark h (by decide) (fun _ => rfl) rfl s
    exact (run_pythonNewline h rfl outer).trans closing
  | next :: l =>
    have first := hl next (by simp)
    have comma : ∀ t, (readerWith float?).run (.has item (.list items :: around)) (',' :: t) =
        (readerWith float?).run (.wants (.list (item :: items) :: around)) t :=
      run_mark h (by decide) (fun _ => rfl) rfl
    simp only [pythonItems, List.cons_append, List.append_assoc]
    rw [comma, run_pythonNewline h rfl,
      run_pythonValue level _ _ next first (follows_pythonItems _ _ _ _),
      run_pythonItems level outer around s l (fun x hx => hl x (by simp [hx])) _ (item :: items),
      List.reverse_cons, List.append_assoc]
    rfl

/-- Behind a member the other members and the end of the dictionary are read. -/
theorem run_pythonMembers (level outer : Nat) (around : List Frame) (s : Text) :
    ∀ l : List (CodeUnits × Json), (∀ p ∈ l, Displayed known p.2) →
    ∀ (name : CodeUnits) (item : Json) (members : List (CodeUnits × Json)),
      ((members.reverse ++ (name, item) :: l).map Prod.fst).Nodup →
      (readerWith float?).run (.has item (.member name members :: around))
          (pythonMembers level l ++ (pythonNewline outer ++ '\x7d' :: s)) =
        (readerWith float?).run
          (.has (.object (members.reverse ++ (name, item) :: Json.mapMembers value l)) around) s := by
  intro l hl name item members nodup
  match l with
  | [] =>
    have same : dictOf ((name, item) :: members) = .object (members.reverse ++ [(name, item)]) := by
      have new : Pairs.putAll ((name, item) :: members).reverse [] =
          ((name, item) :: members).reverse := Pairs.putAll_eq_append (by simpa using nodup)
      rw [dictOf, new, List.reverse_cons]
    have closing : (readerWith float?).run (.has item (.member name members :: around)) ('\x7d' :: s) =
        (readerWith float?).run (.has (.object (members.reverse ++ [(name, item)])) around) s := by
      rw [← same]
      exact run_mark h (by decide) (fun _ => rfl) rfl s
    exact (run_pythonNewline h rfl outer).trans closing
  | (name', next) :: l =>
    have first := hl (name', next) (by simp)
    have comma : ∀ t, (readerWith float?).run (.has item (.member name members :: around)) (',' :: t) =
        (readerWith float?).run (.wants (.dict ((name, item) :: members) :: around)) t :=
      run_mark h (by decide) (fun _ => rfl) rfl
    have names : (((name, item) :: members).reverse ++ (name', next.mapFloats value) :: l).map Prod.fst =
        (members.reverse ++ (name, item) :: (name', next) :: l).map Prod.fst := by simp
    simp only [pythonMembers, List.cons_append, List.append_assoc]
    rw [comma, run_pythonNewline h rfl, run_memberName h,
      run_pythonValue level _ _ next first (follows_pythonMembers _ _ _ _),
      run_pythonMembers level outer around s l (fun x hx => hl x (by simp [hx])) name' _
        ((name, item) :: members) (by rwa [names]), List.reverse_cons, List.append_assoc]
    rfl

end

end Reader

theorem evaluate_pythonValue {j : Json} (h : Lossless j) (level : Nat) :
    evaluate (pythonValue level j) = some j := by
  have ends : Follows [] := by simp [Follows]
  have run := run_pythonValue floats_none level [] [] j ⟨h.readable, h.whole⟩ ends
  rw [List.append_nil, Json.mapFloats_id] at run
  have same : readerWith (fun _ _ => none) = displayReader := rfl
  rw [evaluate, ← same, run]
  rfl

/-! ### Headers of scripts -/

/-- Named texts are a value that a display holds without loss. -/
theorem lossless_ofFields (f : Fields) : Lossless (Json.ofFields f) := by
  refine .object ?_ ?_
  · intro p hp
    obtain ⟨q, -, rfl⟩ := List.mem_map.1 hp
    exact .of_simple (by simp) (by simp) (by simp) (by simp)
  · have names : (f.entries.map fun p => (Text.units p.1, Json.string p.2)).map Prod.fst =
        (f.entries.map Prod.fst).map Text.units := by rw [List.map_map, List.map_map]; rfl
    rw [names]
    exact f.nodup.map fun _ _ => Text.units_inj.1

/-- The headers stand in a script behind its url, up to the end of their line. -/
theorem exists_requests_eq {r : Request} {program : Text} (h : Snippet.requests r = .ok program) :
    ∃ rest, program = "import requests\n\nurl = " ++ python r.url ++ "\nheaders = "
      ++ pythonValue 0 (Json.ofFields (r.effectiveHeaders true)) ++ '\n' :: rest := by
  have opening : ∀ (url headers next : Text) (others : List Text),
      Text.lines ("import requests" :: [] :: ("url = " ++ url) :: ("headers = " ++ headers) :: next ::
        others) = "import requests\n\nurl = " ++ url ++ "\nheaders = " ++ headers
          ++ '\n' :: Text.lines (next :: others) := by
    intro url headers next others
    simp [Text.lines, Text.join]
  cases payload : Snippet.requestsPayload? r with
  | error e =>
    rw [Snippet.requests, payload] at h
    exact absurd h (by simp [Except.map])
  | ok found =>
    rw [Snippet.requests, payload] at h
    rw [← Except.ok.inj h]
    cases found with
    | none => exact ⟨_, opening _ _ _ _⟩
    | some found => exact ⟨_, opening _ _ _ _⟩

/-- **A display is read back** to its end and as the value that was written, at any level, if the value
has no floating point number in it.  So are the headers of a script that uses requests. -/
theorem display_read_back :
    (∀ (j : Json) (level : Nat), Lossless j → evaluate (pythonValue level j) = some j) ∧
    ∀ (r : Request) (program : Text), Snippet.requests r = .ok program →
      ∃ literal rest, program = "import requests\n\nurl = " ++ python r.url ++ "\nheaders = "
          ++ literal ++ '\n' :: rest ∧
        evaluate literal = some (Json.ofFields (r.effectiveHeaders true)) := by
  refine ⟨fun j level h => evaluate_pythonValue h level, fun r program h => ?_⟩
  obtain ⟨rest, text⟩ := exists_requests_eq h
  exact ⟨_, rest, text, evaluate_pythonValue (lossless_ofFields _) 0⟩

/-- A request with a token. -/
def withToken : Request where
  url := "https://h"
  auth := .bearer "t"

/-- The value `1` stands beside the truth value that it counts as. -/
theorem display_read_back_nested :
    evaluate "\x7b\n        \"a\": [\n            1,\n            True\n        ]\n    \x7d" =
      some (.object [("a", .array [.int 1, .bool true])]) ∧
    ∃ literal rest, Snippet.requests withToken =
        .ok ("import requests\n\nurl = " ++ python "https://h" ++ "\nheaders = " ++ literal
          ++ '\n' :: rest) ∧
      evaluate literal = some (.object [("Authorization", .string "Bearer t")]) := by
  have one : Lossless (.int 1) :=
    .of_simple (by simp) (by simp) (by rintro n ⟨⟩; decide) (by simp)
  have yes : Lossless (.bool true) := .of_simple (by simp) (by simp) (by simp) (by simp)
  have items : Lossless (.array [.int 1, .bool true]) := .array (by simp [one, yes])
  have lossless : Lossless (.object [("a", .array [.int 1, .bool true])]) :=
    .object (by simp [items]) (by simp)
  have text : pythonValue 1 (.object [("a", .array [.int 1, .bool true])]) =
      "\x7b\n        \"a\": [\n            1,\n            True\n        ]\n    \x7d" := by
    decide +kernel
  have script : Snippet.requests withToken = .ok ("import requests\n\nurl = \"https://h\"\nheaders = "
      ++ "\x7b\n    \"Authorization\": \"Bearer t\"\n\x7d\n"
      ++ "response = requests.request(\"GET\", url, headers=headers)\nprint(response.text)") := by
    decide +kernel
  have entries : (withToken.effectiveHeaders true).entries =
      ([("Authorization", "Bearer t")] : List (Text × Text)) := by decide +kernel
  obtain ⟨literal, rest, program, value⟩ := display_read_back.2 withToken _ script
  rw [Json.ofFields, entries] at value
  rw [← text]
  exact ⟨display_read_back.1 _ 1 lossless, literal, rest, script.trans (congrArg _ program), value⟩

end Literal.Python

end CurlSnippets
