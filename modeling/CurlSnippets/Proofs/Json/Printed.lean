import CurlSnippets.Json.Printer
import CurlSnippets.Proofs.Json.Accepted
import CurlSnippets.Proofs.Json.Lossless
import CurlSnippets.Proofs.Number.Shortest

/-!
# Printed values

The text of a value is of the grammar of JSON at any level of nesting and in front of anything
(`valueAt_render`).  What it says is the value, with the digits that are shown of a binary number for the
number (`Document.ofJson`).  A lossless value is read back from it (`read_render`).
-/

namespace CurlSnippets.Json

/-! ### What is printed -/

/-- The number that the text of a binary number writes. -/
def Number.ofBinary : Binary64 → Number
  | .nan => .nan
  | .infinity negative => .infinity negative
  | .finite negative mantissa exponent =>
    let (whole, places, power) := Binary64.parts mantissa exponent
    .ofDigits negative whole places power

namespace Document

mutual

/-- The tree that the text of a value says. -/
def ofJson : Json → Document Number
  | .null => .null
  | .bool b => .bool b
  | .int n => .number (.int n)
  | .float x => .number (.ofBinary x)
  | .string s => .string s
  | .array items => .array (ofItems items)
  | .object members => .object (ofMembers members)

/-- The trees that the texts of items say. -/
def ofItems : List Json → List (Document Number)
  | [] => []
  | item :: items => ofJson item :: ofItems items

/-- The trees that the texts of members say. -/
def ofMembers : List (CodeUnits × Json) → List (CodeUnits × Document Number)
  | [] => []
  | (name, item) :: members => (name, ofJson item) :: ofMembers members

end

end Document

variable {s : CodeUnits} {t u r : Text}

/-! ### Space -/

theorem gap_newline (level : Nat) (t : Text) : Gap (newline level ++ t) t := by
  have fill : ∀ n, Gap (Text.fill n ' ' ++ t) t := by
    intro n
    induction n with
    | zero => exact .none t
    | succ n ih => exact .space rfl ih
  exact .space rfl (fill (2 * level))

/-! ### Strings -/

/-- The digits of an escape by number are read as the number. -/
theorem exists_hex4 {n : Nat} (h : n < 0x10000) :
    ∃ a b c d, Text.hex 4 n = [a, b, c, d] ∧ hex4? a b c d = some n := by
  refine ⟨_, _, _, _, Text.hex_four h, ?_⟩
  rw [hex4?, Text.hexValue?_digitChar (by omega), Text.hexValue?_digitChar (by omega),
    Text.hexValue?_digitChar (by omega), Text.hexValue?_digitChar (by omega), Option.some_inj]
  omega

theorem charsAt_hex {n : Nat} (hn : n < 0x10000) (h : CharsAt s t r) :
    CharsAt (.ofNat n :: s) ("\\u" ++ Text.hex 4 n ++ t) r := by
  obtain ⟨x, y, z, w, digits, number⟩ := exists_hex4 hn
  rw [digits]
  exact .code number h

theorem charsAt_escapeChar (c : Char) (h : CharsAt s t r) :
    CharsAt (Text.unitsOf c ++ s) (escapeChar c ++ t) r := by
  unfold escapeChar
  split_ifs with h1 h2 h3 h4 h5 h6 h7 h8
  · subst h1
    exact .letter (by decide) h
  · subst h2
    exact .letter (by decide) h
  · subst h3
    exact .letter (by decide) h
  · subst h4
    exact .letter (by decide) h
  · subst h5
    exact .letter (by decide) h
  · subst h6
    exact .letter (by decide) h
  · subst h7
    exact .letter (by decide) h
  · -- a control character is written by its number, and any other stands for itself
    rw [Text.unitsOf_of_lt (Nat.lt_trans h8 (by decide))]
    exact charsAt_hex (Nat.lt_trans h8 (by decide)) h
  · exact .plain h1 h2 (Nat.le_of_not_lt h8) h

theorem charsAt_escapePiece (p : Piece) (h : CharsAt s t r) :
    CharsAt (p.units ++ s) (escapePiece p ++ t) r := by
  cases p with
  | char c => exact charsAt_escapeChar c h
  | half u =>
    -- half a character is written by its number as well
    have written := charsAt_hex u.isLt h
    rwa [show CodeUnit.ofNat u.val = u from Fin.ext (CodeUnit.val_ofNat u.isLt)] at written

/-- A string is written behind its opening quote. -/
theorem charsAt_quoteUnits (s : CodeUnits) (r : Text) :
    CharsAt s ((pieces s).flatMap escapePiece ++ '"' :: r) r := by
  have written : ∀ ps : List Piece,
      CharsAt (ps.flatMap Piece.units) (ps.flatMap escapePiece ++ '"' :: r) r := by
    intro ps
    induction ps with
    | nil => exact .close r
    | cons p ps ih =>
      rw [List.flatMap_cons, List.flatMap_cons, List.append_assoc]
      exact charsAt_escapePiece p ih
  have all := written (pieces s)
  rwa [units_pieces] at all

/-! ### Numbers -/

theorem isDigits_natText (n : Nat) : IsDigits (natText n) :=
  ⟨natText_ne_nil n, fun _ h => isDigit_of_mem_natText h⟩

theorem isWhole_natText (n : Nat) : IsWhole (natText n) where
  toIsDigits := isDigits_natText n
  zero first := by
    by_cases hn : n = 0
    · subst hn
      rfl
    · obtain ⟨t, e⟩ := List.head?_eq_some_iff.1 first
      exact absurd e (natText_ne_zero_cons hn t)

theorem isWhole_cons {c : Char} {rest : Text} (hc : c ≠ '0') (all : ∀ d ∈ c :: rest, d.isDigit) :
    IsWhole (c :: rest) where
  ne_nil := List.cons_ne_nil c rest
  all := all
  zero first := absurd (Option.some.inj first) hc

theorem isDigits_zeros_append {digits : Text} (k : Nat) (h : IsDigits digits) :
    IsDigits (Text.fill k '0' ++ digits) where
  ne_nil e := h.ne_nil (List.append_eq_nil_iff.1 e).2
  all := List.forall_mem_append.2 ⟨fun c hc => by rw [List.eq_of_mem_replicate hc]; rfl, h.all⟩

/-- An integer is written with its sign and its digits. -/
theorem scalarAt_intText (n : Int) (r : Text) : ScalarAt (.number (.int n)) (intText n ++ r) r := by
  have written := ScalarAt.number (decide (n < 0)) (isWhole_natText n.natAbs) (.none r) (.none r)
  have number : Number.ofDigits (decide (n < 0)) (natText n.natAbs) [] none = .int n := by
    rw [Number.ofDigits, signed_natText]
  have text : intText n ++ r = minus (decide (n < 0)) ++ (natText n.natAbs ++ r) := by
    rw [intText]
    by_cases negative : n < 0
    · simp [negative, minus]
    · simp [negative, minus]
  rwa [number, ← text] at written

/-- An exponent is written with its sign and two digits at least. -/
theorem powerAt_exponentText (e : Int) (r : Text) :
    PowerAt (some e) ('e' :: (Binary64.exponentText e ++ r)) r := by
  have digits : IsDigits (Text.padLeft 2 '0' (natText e.natAbs)) :=
    isDigits_zeros_append _ (isDigits_natText e.natAbs)
  have value : signed (decide (e < 0)) (Text.padLeft 2 '0' (natText e.natAbs)) = e := by
    rw [signed, Text.padLeft, ofDigitChars_zeros_append, ← signed, signed_natText]
  have sign : (decide (e < 0), [if e < 0 then '-' else '+']) ∈ signs := by
    by_cases negative : e < 0
    · simp [signs, negative]
    · simp [signs, negative]
  have written := PowerAt.some r (.inl rfl) sign digits
  rwa [value] at written

/-- Digits near the point are written out, with a digit at least on both sides of it. -/
theorem exists_layout_near {c : Char} {rest : Text} (hc : c ≠ '0') (all : ∀ d ∈ c :: rest, d.isDigit)
    {point : Int} (near : (-4 < point && point ≤ 16) = true) :
    ∃ whole places, Binary64.layout (c :: rest) point = (whole, places, none) ∧
      Binary64.place (c :: rest) point = whole ++ '.' :: places ∧ IsWhole whole ∧ IsDigits places := by
  rw [Binary64.layout, Binary64.place, if_pos near, if_pos near]
  by_cases low : point ≤ 0
  · rw [if_pos low, if_pos low]
    have digits : IsDigits (c :: rest) := (isWhole_cons hc all).toIsDigits
    exact ⟨_, _, rfl, rfl, isWhole_natText 0, isDigits_zeros_append _ digits⟩
  · rw [if_neg low, if_neg low]
    by_cases long : ((c :: rest).length : Int) ≤ point
    · rw [if_pos long, if_pos long]
      refine ⟨_, _, rfl, rfl, ?_, isDigits_natText 0⟩
      refine isWhole_cons hc (List.forall_mem_append.2 ⟨all, fun d hd => ?_⟩)
      rw [List.eq_of_mem_replicate hd]
      rfl
    · rw [if_neg long, if_neg long]
      obtain ⟨k, hk⟩ : ∃ k : Nat, point.toNat = k + 1 := ⟨point.toNat - 1, by omega⟩
      refine ⟨_, _, rfl, by rw [List.append_assoc]; rfl, ?_, ?_, ?_⟩
      · rw [hk, List.take_succ_cons]
        exact isWhole_cons hc fun d hd => all d (List.mem_of_mem_take (i := k + 1) hd)
      · rw [Ne, List.drop_eq_nil_iff]
        omega
      · exact fun d hd => all d (List.mem_of_mem_drop hd)

/-- Digits with the point in them are written as the layout says. -/
theorem scalarAt_place (negative : Bool) {c : Char} {rest : Text} (hc : c ≠ '0')
    (all : ∀ d ∈ c :: rest, d.isDigit) (point : Int) (r : Text) :
    ScalarAt (.number (.ofDigits negative (Binary64.layout (c :: rest) point).1
        (Binary64.layout (c :: rest) point).2.1 (Binary64.layout (c :: rest) point).2.2))
      (minus negative ++ (Binary64.place (c :: rest) point ++ r)) r := by
  by_cases near : (-4 < point && point ≤ 16) = true
  · obtain ⟨whole, places, parts, text, hw, hp⟩ := exists_layout_near hc all near
    rw [parts, text, List.append_assoc]
    exact .number negative hw (.some r hp) (.none r)
  · -- the first digit stands before the point
    have first : IsWhole [c] := isWhole_cons hc (by simpa using all c)
    have power := powerAt_exponentText (point - 1) r
    rw [Binary64.layout, Binary64.place, if_neg near, if_neg near]
    cases rest with
    | nil =>
      have written := ScalarAt.number negative first (.none _) power
      simpa using written
    | cons d rest =>
      have places : IsDigits (d :: rest) := ⟨List.cons_ne_nil _ _, fun x hx => all x (by simp [hx])⟩
      have written := ScalarAt.number negative first (.some _ places) power
      simpa using written

/-- A binary number is written as a number or as a word. -/
theorem scalarAt_floatText (x : Binary64) (r : Text) :
    ScalarAt (.number (.ofBinary x)) (floatText x ++ r) r := by
  cases x with
  | nan =>
    have word : (("NaN" : Text), Document.number .nan) ∈ literals := by simp [literals]
    exact .word r word
  | infinity negative =>
    cases negative with
    | true =>
      have word : (("-Infinity" : Text), Document.number (.infinity true)) ∈ literals := by
        simp [literals]
      exact .word r word
    | false =>
      have word : (("Infinity" : Text), Document.number (.infinity false)) ∈ literals := by
        simp [literals]
      exact .word r word
  | finite negative mantissa exponent =>
    -- the digits of the shortest number, with the point where the layout says
    have text : floatText (.finite negative mantissa exponent) ++ r = minus negative ++
        ((if mantissa = 0 then ("0.0" : Text) else Binary64.magnitudeText mantissa exponent) ++ r) :=
      List.append_assoc _ _ _
    rw [text]
    by_cases zero : mantissa = 0
    · simp only [Number.ofBinary, Binary64.parts, zero, if_true]
      exact .number negative (isWhole_natText 0) (.some r (isDigits_natText 0)) (.none r)
    · have positive := RoundingInterval.shortest_pos exponent zero
      obtain ⟨c, rest, -, kept, first, all, -, -⟩ := Binary64.exists_dropZeros_natText positive
      simp only [Number.ofBinary, Binary64.parts, Binary64.magnitudeText, zero, kept, if_false]
      exact scalarAt_place negative first all _ r

/-- Digits with a point in them are laid out with digits behind it or with an exponent. -/
theorem places_or_power {digits : Text} (some : digits ≠ []) (point : Int) :
    (Binary64.layout digits point).2.1 ≠ [] ∨ (Binary64.layout digits point).2.2 ≠ none := by
  rw [Binary64.layout]
  split
  · left
    split
    · exact fun e => some (List.append_eq_nil_iff.1 e).2
    · split
      · exact List.cons_ne_nil _ _
      · rename_i short
        rw [Ne, List.drop_eq_nil_iff]
        omega
  · exact .inr (Option.some_ne_none _)

theorem Number.ofDigits_eq_decimal (negative : Bool) (whole : Text) {places : Text}
    {power : Option Int} (h : places ≠ [] ∨ power ≠ none) : Number.ofDigits negative whole places power =
      .decimal (Numeral.ofDigits negative whole places (power.getD 0)) := by
  unfold Number.ofDigits
  split
  · exact absurd h (by simp)
  · rfl

/-- The text of a finite number writes no integer. -/
theorem Number.ofBinary_finite (negative : Bool) (mantissa : Nat) (exponent : Int) :
    Number.ofBinary (.finite negative mantissa exponent) =
      .decimal (Numeral.ofDigits negative (Binary64.parts mantissa exponent).1
        (Binary64.parts mantissa exponent).2.1 ((Binary64.parts mantissa exponent).2.2.getD 0)) := by
  have shown : (Binary64.parts mantissa exponent).2.1 ≠ [] ∨
      (Binary64.parts mantissa exponent).2.2 ≠ none := by
    rw [Binary64.parts]
    split
    · exact .inl (List.cons_ne_nil _ _)
    · rename_i nonzero
      have positive := RoundingInterval.shortest_pos exponent nonzero
      obtain ⟨c, rest, -, kept, -⟩ := Binary64.exists_dropZeros_natText positive
      have digits : (Binary64.dropZeros (natText
          (RoundingInterval.ofBinary mantissa exponent).shortest.1)).1 ≠ [] := by
        rw [kept]
        exact List.cons_ne_nil _ _
      exact places_or_power digits _
  exact ofDigits_eq_decimal negative _ shown

/-- The text of a binary number shows that it is no integer. -/
theorem Number.ofBinary_ne_int (x : Binary64) (n : Int) : ofBinary x ≠ .int n := by
  cases x with
  | nan | infinity => exact Number.noConfusion
  | finite negative mantissa exponent =>
    rw [ofBinary_finite]
    exact Number.noConfusion

/-- Words and numbers have no control character in them. -/
theorem ScalarAt.control_notMem {tree : Document Number} {c : Char} (hc : c.toNat < 0x20)
    (h : ScalarAt tree t r) (hr : c ∉ r) : c ∉ t := by
  -- what stands in a text without such characters is another one
  have shown : ∀ {x : Text}, x.all (0x20 ≤ ·.toNat) → c ∉ x := fun all inside =>
    absurd (of_decide_eq_true (List.all_eq_true.1 all c inside)) (Nat.not_le.2 hc)
  have digits : ∀ {x : Text}, IsDigits x → c ∉ x := by
    refine fun h => shown (List.all_eq_true.2 fun d hd => decide_eq_true ?_)
    have digit := h.all d hd
    simp only [Char.isDigit, Bool.and_eq_true, decide_eq_true_eq, UInt32.le_iff_toNat_le] at digit
    exact Nat.le_trans (by decide) digit.1
  cases h with
  | word r mem =>
    have words : ∀ w ∈ literals, w.1.all (0x20 ≤ ·.toNat) := by decide
    exact fun inside => (List.mem_append.1 inside).elim (shown (words _ mem)) hr
  | number negative whole places power =>
    rename_i w p t u q
    have sign : c ∉ minus negative := shown (by cases negative <;> decide)
    have behind : c ∉ u := by
      cases power with
      | none => exact hr
      | some r mark sign ds =>
        rename_i letter _ _ _
        have letters : c ∉ [letter] := shown (by rcases mark with rfl | rfl <;> decide)
        have signs : ∀ s ∈ signs, s.2.all (0x20 ≤ ·.toNat) := by decide
        simp only [List.mem_cons, List.mem_append, not_or]
        exact ⟨fun e => letters (List.mem_singleton.2 e), shown (signs _ sign), digits ds, hr⟩
    have fraction : c ∉ t := by
      cases places with
      | none => exact behind
      | some r ds =>
        have point : c ∉ ['.'] := shown (by decide)
        simp only [List.mem_cons, List.mem_append, not_or]
        exact ⟨fun e => point (List.mem_singleton.2 e), digits ds, behind⟩
    simp only [List.mem_append, not_or]
    exact ⟨sign, digits whole.toIsDigits, fraction⟩

/-! ### Layout -/

theorem render_array (level : Nat) (item : Json) (l : List Json) :
    render level (.array (item :: l)) = '[' :: (newline (level + 1) ++ (render (level + 1) item
      ++ (renderItems (level + 1) l ++ (newline level ++ [']'])))) := by
  simp only [render, List.append_assoc, List.cons_append]

theorem render_object (level : Nat) (name : CodeUnits) (item : Json) (l : List (CodeUnits × Json)) :
    render level (.object ((name, item) :: l)) = '\x7b' :: (newline (level + 1) ++ (quoteUnits name
      ++ ": " ++ (render (level + 1) item
      ++ (renderMembers (level + 1) l ++ (newline level ++ ['\x7d']))))) := by
  simp only [render, List.append_assoc, List.cons_append]

theorem renderItems_cons (level : Nat) (item : Json) (l : List Json) :
    renderItems level (item :: l) =
      ',' :: (newline level ++ (render level item ++ renderItems level l)) := by
  simp only [renderItems, List.append_assoc, List.cons_append]

theorem renderMembers_cons (level : Nat) (name : CodeUnits) (item : Json) (l : List (CodeUnits × Json)) :
    renderMembers level ((name, item) :: l) =
      ',' :: (newline level ++ (quoteUnits name ++ ": " ++ (render level item
        ++ renderMembers level l))) := by
  simp only [renderMembers, List.append_assoc, List.cons_append]

/-! ### Values -/

-- By induction on the value.  What stands behind it is general, since the other items, the line breaks
-- and the closing brackets stand behind an item or a member.
mutual

/-- **The text of a value is JSON**, at any level and in front of anything. -/
theorem valueAt_render (level : Nat) (r : Text) : ∀ j : Json,
    ValueAt (.ofJson j) (render level j ++ r) r := by
  intro j
  match j with
  | .null => exact .scalar (.word r List.mem_cons_self)
  | .bool true =>
    have word : (("true" : Text), Document.bool true) ∈ literals := by simp [literals]
    exact .scalar (.word r word)
  | .bool false =>
    have word : (("false" : Text), Document.bool false) ∈ literals := by simp [literals]
    exact .scalar (.word r word)
  | .int n => exact .scalar (scalarAt_intText n r)
  | .float x => exact .scalar (scalarAt_floatText x r)
  | .string s =>
    have text : render level (.string s) ++ r =
        '"' :: ((pieces s).flatMap escapePiece ++ '"' :: r) := by
      simp [render, quoteUnits]
    rw [text]
    exact .string (charsAt_quoteUnits s r)
  | .array [] => exact .empty (.none _)
  | .array (item :: l) =>
    rw [render_array]
    simp only [List.cons_append, List.append_assoc, List.nil_append]
    exact .array (itemsAt_render (level + 1) level r l _ _ (valueAt_render (level + 1) _ item))
  | .object [] => exact .emptyObject (.none _)
  | .object ((name, item) :: l) =>
    rw [render_object]
    simp only [List.cons_append, List.append_assoc, List.nil_append]
    refine .object ?_
    exact membersAt_render (level + 1) level r l name _ _ (valueAt_render (level + 1) _ item)

/-- Items are written behind the first one. -/
theorem itemsAt_render (level outer : Nat) (r : Text) : ∀ (l : List Json) (tree : Document Number)
    (u : Text), ValueAt tree u (renderItems level l ++ (newline outer ++ ']' :: r)) →
    ItemsAt (tree :: Document.ofItems l) (newline level ++ u) r := by
  intro l tree u first
  match l with
  | [] => exact .last (gap_newline level u) first (gap_newline outer _)
  | next :: l =>
    rw [renderItems_cons] at first
    simp only [List.cons_append, List.append_assoc] at first
    refine .next (gap_newline level u) first (.none _) ?_
    exact itemsAt_render level outer r l _ _ (valueAt_render level _ next)

/-- Members are written behind the first one. -/
theorem membersAt_render (level outer : Nat) (r : Text) : ∀ (l : List (CodeUnits × Json))
    (name : CodeUnits) (tree : Document Number) (u : Text),
    ValueAt tree u (renderMembers level l ++ (newline outer ++ '\x7d' :: r)) →
    MembersAt ((name, tree) :: Document.ofMembers l)
      (newline level ++ (quoteUnits name ++ (": " ++ u))) r := by
  intro l name tree u first
  have text : quoteUnits name ++ (": " ++ u) =
      '"' :: ((pieces name).flatMap escapePiece ++ '"' :: ':' :: ' ' :: u) := by simp [quoteUnits]
  have chars := charsAt_quoteUnits name (':' :: ' ' :: u)
  have blank : Gap (' ' :: u) u := .space rfl (.none u)
  rw [text]
  match l with
  | [] => exact .last (gap_newline level _) chars (.none _) blank first (gap_newline outer _)
  | (name', next) :: l =>
    rw [renderMembers_cons] at first
    simp only [List.cons_append, List.append_assoc] at first
    refine .next (gap_newline level _) chars (.none _) blank first (.none _) ?_
    exact membersAt_render level outer r l name' _ _ (valueAt_render level _ next)

end

/-- What the text of a value says is the value as it is printed. -/
theorem Says.render (level : Nat) (j : Json) : Says (Json.render level j) (.ofJson j) := by
  have value := valueAt_render level [] j
  rw [List.append_nil] at value
  exact ⟨_, _, .none _, value, .none _⟩

/-! ### Values that are shown -/

/-- Digits are worth as much in an integer as in another number. -/
theorem Number.value?_ofDigits (negative : Bool) (whole places : Text) (power : Option Int) :
    (ofDigits negative whole places power).value? =
      some (Numeral.ofDigits negative whole places (power.getD 0)).value := by
  unfold ofDigits
  split
  · simp only [value?, Numeral.ofDigits, Numeral.value, signed, List.append_nil]
    cases negative <;> simp
  · rfl

/-- The number that the text of a binary number writes has the value that is shown. -/
theorem Number.value?_ofBinary (x : Binary64) : (ofBinary x).value? = x.shown? := by
  cases x with
  | nan => rfl
  | infinity => rfl
  | finite negative mantissa exponent =>
    rw [Binary64.shown?_finite]
    exact Number.value?_ofDigits _ _ _ _

/-! ### Lossless values -/

mutual

/-- A lossless value is what the tree of its text is read as. -/
theorem decode_ofJson : ∀ j : Json, Lossless j →
    (Document.ofJson j).Short ∧ (Document.ofJson j).decode = j := by
  intro j h
  match j with
  | .null => exact ⟨trivial, rfl⟩
  | .bool _ => exact ⟨trivial, rfl⟩
  | .int n => exact ⟨h.digits, rfl⟩
  | .float x => exact absurd .self (h.whole x)
  | .string _ => exact ⟨trivial, rfl⟩
  | .array items =>
    obtain ⟨short, same⟩ := decode_ofItems items h.item
    exact ⟨short, congrArg Json.array same⟩
  | .object members =>
    obtain ⟨short, same⟩ := decode_ofMembers members h.member
    refine ⟨⟨trivial, short⟩, ?_⟩
    -- names that are different stay in their order
    have new : Pairs.putAll members [] = members := Pairs.putAll_eq_append (by simpa using h.nodup)
    rw [Document.ofJson, Document.decode, same, new]

theorem decode_ofItems : ∀ items : List Json, (∀ item ∈ items, Lossless item) →
    Document.AllItems Number.Short (fun _ => True) (Document.ofItems items) ∧
      Document.decodeItems (Document.ofItems items) = items := by
  intro items h
  match items with
  | [] => exact ⟨trivial, rfl⟩
  | item :: items =>
    obtain ⟨short, same⟩ := decode_ofJson item (h item (by simp))
    obtain ⟨others, equal⟩ := decode_ofItems items fun x hx => h x (by simp [hx])
    refine ⟨⟨short, others⟩, ?_⟩
    rw [Document.ofItems, Document.decodeItems, same, equal]

theorem decode_ofMembers : ∀ members : List (CodeUnits × Json), (∀ p ∈ members, Lossless p.2) →
    Document.AllMembers Number.Short (fun _ => True) (Document.ofMembers members) ∧
      Document.decodeMembers (Document.ofMembers members) = members := by
  intro members h
  match members with
  | [] => exact ⟨trivial, rfl⟩
  | (name, item) :: members =>
    obtain ⟨short, same⟩ := decode_ofJson item (h (name, item) (by simp))
    obtain ⟨others, equal⟩ := decode_ofMembers members fun x hx => h x (by simp [hx])
    refine ⟨⟨short, others⟩, ?_⟩
    rw [Document.ofMembers, Document.decodeMembers, same, equal]

end

/-- **A lossless value is read from its text** at any level. -/
theorem read_render {j : Json} (h : Lossless j) (level : Nat) : read (render level j) = .ok j := by
  obtain ⟨short, same⟩ := decode_ofJson j h
  rw [(Says.render level j).read short, same]

end CurlSnippets.Json
