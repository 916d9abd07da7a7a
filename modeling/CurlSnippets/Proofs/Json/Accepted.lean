import CurlSnippets.Proofs.Json.Grammar

/-!
# JSON texts are read

A text of the grammar is read as what it says (`Says.read`), unless an integer in it is beyond the
digit limit.  Reading loses what a value cannot hold: a number with a fraction or an exponent becomes
the nearest binary number, and of members with the same name the last value counts (`Document.decode`).

The reader goes down into a value and along its items and members; as many steps as the text has
characters, twice over, are always enough.
-/

namespace CurlSnippets.Json

/-! ### What is read -/

/-- Whether a number is no integer beyond the digit limit. -/
def Number.Short : Number → Prop
  | .int n => digitCount n.natAbs ≤ digitLimit
  | _ => True

/-- The value that a number is read as. -/
def Number.decode : Number → Json
  | .int n => .int n
  | .decimal x => .float (Binary64.ofNumeral x)
  | .nan => .float .nan
  | .infinity negative => .float (.infinity negative)

namespace Document

/-- Whether no integer in a tree is beyond the digit limit. -/
def Short (tree : Document Number) : Prop := tree.All Number.Short fun _ => True

mutual

/-- The value that a tree is read as. -/
def decode : Document Number → Json
  | .null => .null
  | .bool b => .bool b
  | .number x => x.decode
  | .string s => .string s
  | .array items => .array (decodeItems items)
  | .object members => .object (Pairs.putAll (decodeMembers members) [])

/-- The values that items are read as. -/
def decodeItems : List (Document Number) → List Json
  | [] => []
  | item :: items => decode item :: decodeItems items

/-- The values that members are read as, repeated names included. -/
def decodeMembers : List (CodeUnits × Document Number) → List (CodeUnits × Json)
  | [] => []
  | (name, item) :: members => (name, decode item) :: decodeMembers members

end

end Document

/-! ### Words and numbers -/

variable {t u v w r : Text}

/-- A whole number has all the digits that it is written with. -/
theorem length_whole_le {whole : Text} (h : IsWhole whole) :
    whole.length ≤ digitCount (Nat.ofDigitChars 10 whole 0) := by
  obtain ⟨c, rest, rfl, digit⟩ := exists_whole_eq_cons h
  by_contra short
  have below : digitCount (Nat.ofDigitChars 10 (c :: rest) 0) ≤ rest.length := by
    rw [List.length_cons] at short
    omega
  have some : 0 < rest.length := (List.length_pos_iff.2 (natText_ne_nil _)).trans_le below
  rw [digitCount_le_iff some, Nat.ofDigitChars_cons, Nat.ofDigitChars_eq_ofDigitChars_zero] at below
  -- the first digit alone is worth as much as a further digit
  have first : 1 ≤ c.toNat - '0'.toNat := by
    have notZero : c ≠ '0' := by
      rintro rfl
      rw [(List.cons.inj (h.zero rfl)).2] at some
      exact absurd some (by decide)
    simp only [Char.isDigit, Bool.and_eq_true, decide_eq_true_eq, UInt32.le_iff_toNat_le] at digit
    have low : 48 ≤ c.toNat := digit.1
    have other : c.toNat ≠ 48 := fun e => notZero (Char.ext (UInt32.toNat_inj.1 e))
    have zero : '0'.toNat = 48 := rfl
    omega
  have large : 10 ^ rest.length ≤ 10 ^ rest.length * (10 * 0 + (c.toNat - '0'.toNat)) :=
    Nat.le_mul_of_pos_right _ (by omega)
  omega

/-- A minus sign in front of a digit begins a number and no word. -/
theorem scalar_minus {c : Char} (h : c.isDigit) (t : Text) :
    scalar ('-' :: c :: t) = number ('-' :: c :: t) := by
  have none : (words.findSome? fun w =>
      (Text.after? w.1 ('-' :: c :: t)).map fun behind => (w.2, behind)) = none := by
    have letter : 'I' ≠ c := by rintro rfl; exact absurd h (by decide)
    simp [words, Text.after?, letter]
  rw [scalar, none]

/-- A number is read part by part. -/
theorem number_append {whole places : Text} {power : Option Int} (negative : Bool)
    (hw : IsWhole whole) (hf : FractionAt places t u) (hp : PowerAt power u r) (ends : EndsNumber r)
    (short : (Number.ofDigits negative whole places power).Short) :
    number (minus negative ++ (whole ++ t)) =
      .ok ((Number.ofDigits negative whole places power).decode, r) := by
  have parts := whole?_append hw (hf.stops hp ends)
  have noSign : ∀ rest, whole ++ t ≠ '-' :: rest := by
    obtain ⟨c, digits, rfl, digit⟩ := exists_whole_eq_cons hw
    intro rest e
    rw [(List.cons.inj e).1] at digit
    exact absurd digit (by decide)
  unfold number
  split
  rename_i sign unsigned hs
  -- the sign is cut off, and a digit is none
  have cut : negative = sign ∧ unsigned = whole ++ t := by
    cases negative with
    | true =>
      obtain ⟨rfl, rfl⟩ := Prod.mk.inj hs
      exact ⟨rfl, rfl⟩
    | false =>
      split at hs
      · exact absurd ‹_› (noSign _)
      · obtain ⟨rfl, rfl⟩ := Prod.mk.inj hs
        exact ⟨rfl, rfl⟩
  obtain ⟨rfl, rfl⟩ := cut
  simp only [parts, fraction_of_fractionAt hf hp ends, exponent_of_powerAt hp ends]
  split
  · -- an integer
    have fits : ¬ whole.length > CurlSnippets.digitLimit := by
      have all : digitCount (signed negative whole).natAbs ≤ digitLimit := short
      rw [natAbs_signed] at all
      exact Nat.not_lt.2 ((length_whole_le hw).trans all)
    rw [if_neg fits]
    rfl
  · -- a number with a fraction or an exponent
    rename_i none
    rw [Number.ofDigits]
    · rfl
    · exact none

/-- A word or a number is read as what it is. -/
theorem scalar_of_scalarAt {tree : Document Number} (h : ScalarAt tree t r) (short : tree.Short)
    (ends : EndsNumber r) : scalar t = .ok (tree.decode, r) := by
  cases h with
  | word r mem =>
    simp only [literals, List.mem_cons, Prod.mk.injEq, List.not_mem_nil, or_false] at mem
    rcases mem with ⟨rfl, rfl⟩ | ⟨rfl, rfl⟩ | ⟨rfl, rfl⟩ | ⟨rfl, rfl⟩ | ⟨rfl, rfl⟩ | ⟨rfl, rfl⟩
    all_goals rfl
  | number negative whole places power =>
    have read := number_append negative whole places power ends short
    obtain ⟨c, rest, rfl, digit⟩ := exists_whole_eq_cons whole
    cases negative with
    | true => exact (scalar_minus digit _).trans read
    | false => exact (scalar_of_isDigit digit _).trans read

/-! ### Steps of the reader -/

section Steps

variable {depth : Nat} {name : CodeUnits} {item : Json} {items : List Json} {members : List (CodeUnits × Json)}

theorem value_scalar {c : Char} (h : startsScalar c) (t : Text) :
    value (depth + 1) (c :: t) = scalar (c :: t) := by
  have other : ∀ d, startsScalar d = false → c ≠ d := fun _ => Text.ne_of_holds h
  rw [value, if_neg (other _ rfl), if_neg (other _ rfl), if_neg (other _ rfl)]

theorem value_empty (close : skip t = ']' :: r) :
    value (depth + 1) ('[' :: t) = .ok (.array [], r) := by
  rw [value, if_neg (by decide), if_pos rfl, close]
  rfl

theorem value_array (some : ∀ v, skip t ≠ ']' :: v)
    (read : Json.items depth (skip t) = .ok (items, r)) :
    value (depth + 1) ('[' :: t) = .ok (.array items, r) := by
  rw [value, if_neg (by decide), if_pos rfl]
  split
  · exact absurd ‹_› (some _)
  · rw [read]
    rfl

theorem value_emptyObject (close : skip t = '\x7d' :: r) :
    value (depth + 1) ('\x7b' :: t) = .ok (.object [], r) := by
  rw [value, if_neg (by decide), if_neg (by decide), if_pos rfl, close]
  rfl

theorem value_object (some : ∀ v, skip t ≠ '\x7d' :: v)
    (read : Json.members depth (skip t) = .ok (members, r)) :
    value (depth + 1) ('\x7b' :: t) = .ok (.object (Pairs.putAll members []), r) := by
  rw [value, if_neg (by decide), if_neg (by decide), if_pos rfl]
  split
  · exact absurd ‹_› (some _)
  · rw [read]
    rfl

theorem items_last (first : value depth t = .ok (item, v)) (close : skip v = ']' :: r) :
    Json.items (depth + 1) t = .ok ([item], r) := by
  rw [Json.items, first]
  simp only [close]

theorem items_next (first : value depth t = .ok (item, v)) (comma : skip v = ',' :: w)
    (more : Json.items depth (skip w) = .ok (items, r)) :
    Json.items (depth + 1) t = .ok (item :: items, r) := by
  rw [Json.items, first]
  simp only [comma, more]
  rfl

theorem members_last (named : stringFrom t = .ok (name, u)) (colon : skip u = ':' :: v)
    (first : value depth (skip v) = .ok (item, w)) (close : skip w = '\x7d' :: r) :
    Json.members (depth + 1) ('"' :: t) = .ok ([(name, item)], r) := by
  rw [Json.members, named]
  simp only [colon, first, close]

theorem members_next {x : Text} (named : stringFrom t = .ok (name, u)) (colon : skip u = ':' :: v)
    (first : value depth (skip v) = .ok (item, w)) (comma : skip w = ',' :: x)
    (more : Json.members depth (skip x) = .ok (members, r)) :
    Json.members (depth + 1) ('"' :: t) = .ok ((name, item) :: members, r) := by
  rw [Json.members, named]
  simp only [colon, first, comma, more]
  rfl

end Steps

/-! ### Values -/

theorem length_le_of_gap (h : Gap t u) : u.length ≤ t.length := by
  induction h with
  | none => exact Nat.le_refl _
  | space _ _ ih => exact ih.trans (Nat.le_succ _)

/-- A reader leaves no more than it was given. -/
theorem length_le_of_value {depth : Nat} {item : Json} (h : value depth t = .ok (item, u)) :
    u.length ≤ t.length := by
  have within := (within_readers depth).1 t
  rw [h] at within
  exact within.length_le

theorem length_le_of_charsAt {s : CodeUnits} (h : CharsAt s t u) : u.length ≤ t.length := by
  have within := within_stringFrom t
  rw [stringFrom_of_charsAt h] at within
  exact within.length_le

-- By induction on what the text says.  An item or member has one step less than the array or object and
-- is one character shorter at least, so two steps for each character are left to it.
mutual

/-- A value of the grammar is read as what it says. -/
theorem value_of_valueAt : ∀ (depth : Nat) {tree : Document Number} {t r : Text}, ValueAt tree t r →
    tree.Short → EndsNumber r → 2 * t.length ≤ depth → value depth t = .ok (tree.decode, r) := by
  intro depth tree t r h short ends enough
  obtain ⟨d, rfl⟩ : ∃ d, depth = d + 1 := by
    obtain ⟨c, u, rfl, -⟩ := h.exists_eq_cons
    rw [List.length_cons] at enough
    exact ⟨depth - 1, by omega⟩
  match h with
  | .scalar h =>
    obtain ⟨c, u, rfl, start⟩ := h.exists_eq_cons
    exact (value_scalar start u).trans (scalar_of_scalarAt h short ends)
  | .string chars =>
    rw [value, if_pos rfl, stringFrom_of_charsAt chars]
    rfl
  | .empty gap => exact value_empty (skip_of_gap gap (by decide))
  | .array items =>
    rw [List.length_cons] at enough
    exact value_array items.skip_ne (items_of_itemsAt d items short (by omega))
  | .emptyObject gap => exact value_emptyObject (skip_of_gap gap (by decide))
  | .object members =>
    rw [List.length_cons] at enough
    exact value_object members.skip_ne (members_of_membersAt d members short.2 (by omega))

/-- Items of the grammar are read as what they say. -/
theorem items_of_itemsAt : ∀ (depth : Nat) {items : List (Document Number)} {t r : Text},
    ItemsAt items t r → Document.AllItems Number.Short (fun _ => True) items →
    2 * t.length < depth → Json.items depth (skip t) = .ok (Document.decodeItems items, r) := by
  intro depth items t r h short enough
  obtain ⟨d, rfl⟩ : ∃ d, depth = d + 1 := ⟨depth - 1, by omega⟩
  match h with
  | .last gap item close =>
    have before := length_le_of_gap gap
    rw [item.skip_eq gap]
    have first := value_of_valueAt d item short.1 (endsNumber_of_gap_cons close (by decide))
      (by omega)
    exact items_last first (skip_of_gap close (by decide))
  | .next gap item comma items =>
    -- the comma is one character, so the rest is shorter
    have before := length_le_of_gap gap
    have first := value_of_valueAt d item short.1 (endsNumber_of_gap_cons comma (by decide))
      (by omega)
    have behind := (length_le_of_gap comma).trans (length_le_of_value first)
    rw [List.length_cons] at behind
    rw [item.skip_eq gap]
    exact items_next first (skip_of_gap comma (by decide))
      (items_of_itemsAt d items short.2 (by omega))

/-- Members of the grammar are read as what they say. -/
theorem members_of_membersAt : ∀ (depth : Nat) {members : List (CodeUnits × Document Number)} {t r : Text},
    MembersAt members t r → Document.AllMembers Number.Short (fun _ => True) members →
    2 * t.length < depth → Json.members depth (skip t) = .ok (Document.decodeMembers members, r) := by
  intro depth members t r h short enough
  obtain ⟨d, rfl⟩ : ∃ d, depth = d + 1 := ⟨depth - 1, by omega⟩
  match h with
  | .last quote chars colon gap item close =>
    have before := length_le_of_gap quote
    have named := (length_le_of_gap colon).trans (length_le_of_charsAt chars)
    have inner := length_le_of_gap gap
    rw [List.length_cons] at before named
    have first := value_of_valueAt d item short.1 (endsNumber_of_gap_cons close (by decide))
      (by omega)
    rw [← item.skip_eq gap] at first
    rw [skip_of_gap quote (by decide)]
    exact members_last (stringFrom_of_charsAt chars) (skip_of_gap colon (by decide)) first
      (skip_of_gap close (by decide))
  | .next quote chars colon gap item comma members =>
    have before := length_le_of_gap quote
    have named := (length_le_of_gap colon).trans (length_le_of_charsAt chars)
    have inner := length_le_of_gap gap
    rw [List.length_cons] at before named
    have first := value_of_valueAt d item short.1 (endsNumber_of_gap_cons comma (by decide))
      (by omega)
    have behind := (length_le_of_gap comma).trans (length_le_of_value first)
    rw [List.length_cons] at behind
    rw [← item.skip_eq gap] at first
    rw [skip_of_gap quote (by decide)]
    exact members_next (stringFrom_of_charsAt chars) (skip_of_gap colon (by decide)) first
      (skip_of_gap comma (by decide)) (members_of_membersAt d members short.2 (by omega))

end

/-- **A text is read as what it says.** -/
theorem Says.read {tree : Document Number} (h : Says t tree) (short : tree.Short) :
    Json.read t = .ok tree.decode := by
  obtain ⟨u, v, before, item, behind⟩ := h
  have shorter := length_le_of_gap before
  have ends := endsNumber_of_gap behind endsNumber_nil
  rw [Json.read, item.skip_eq before, value_of_valueAt _ item short ends (by omega)]
  simp only [skip_of_gap_nil behind]
  rfl

end CurlSnippets.Json
