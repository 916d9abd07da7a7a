import CurlSnippets.Proofs.Json.Rewritten
import CurlSnippets.Proofs.Number.Overflow

/-!
# Floating point numbers in values

What holds of all floating point numbers in a value holds of those in its items and members.  The ones
that are read are of the format (`inRange_of_read`).  The words for the infinities and for what is no
number are beside the grammar of JSON, so that a value is printed as JSON exactly if all of them are
finite (`exists_isText_print_iff`).
-/

namespace CurlSnippets.Json

/-! ### All of them -/

section Parts

variable {p : Binary64 → Prop} {j : Json} {items : List Json} {members : List (CodeUnits × Json)}

theorem forall_float_of_simple (array : ∀ items, j ≠ .array items)
    (object : ∀ members, j ≠ .object members) (float : ∀ x, j ≠ .float x) :
    ∀ x, IsPart (.float x) j → p x :=
  fun x part => absurd (eq_of_isPart part array object).symm (float x)

theorem forall_float_float {x : Binary64} : (∀ y, IsPart (.float y) (.float x) → p y) ↔ p x := by
  refine ⟨fun h => h x .self, fun h y part => ?_⟩
  obtain rfl := Json.float.inj (eq_of_isPart part (by simp) (by simp))
  exact h

theorem forall_float_array : (∀ x, IsPart (.float x) (.array items) → p x) ↔
    ∀ item ∈ items, ∀ x, IsPart (.float x) item → p x := by
  refine ⟨fun h item hm x part => h x (.item hm part), fun h x part => ?_⟩
  cases part with
  | item hm part => exact h _ hm x part

theorem forall_float_object : (∀ x, IsPart (.float x) (.object members) → p x) ↔
    ∀ m ∈ members, ∀ x, IsPart (.float x) m.2 → p x := by
  refine ⟨fun h m hm x part => h x (.member hm part), fun h x part => ?_⟩
  cases part with
  | member hm part => exact h _ hm x part

end Parts

/-- All floating point numbers in a value are of the format. -/
def InRange (j : Json) : Prop := ∀ x, IsPart (.float x) j → x.InRange

theorem inRange_number (t : Text) : (number t).Yields InRange := by
  unfold number
  split
  split
  · exact .error
  · dsimp only
    split
    · split
      · exact .error
      · exact .ok (forall_float_of_simple (by simp) (by simp) (by simp))
    · exact .ok (forall_float_float.2 (Binary64.inRange_ofNumeral _))

theorem composed_inRange : Composed InRange where
  word w hw := by
    simp only [words, List.mem_cons, List.not_mem_nil, or_false] at hw
    rcases hw with rfl | rfl | rfl | rfl | rfl | rfl
    · exact forall_float_of_simple (by simp) (by simp) (by simp)
    · exact forall_float_of_simple (by simp) (by simp) (by simp)
    · exact forall_float_of_simple (by simp) (by simp) (by simp)
    -- the three words that are floating point numbers
    all_goals exact forall_float_float.2 trivial
  string _ := forall_float_of_simple (by simp) (by simp) (by simp)
  number := inRange_number
  array _ := forall_float_array.2
  object _ h _ := forall_float_object.2 h

/-- The floating point numbers that are read are of the format. -/
theorem inRange_of_read {t : Text} {j : Json} (h : read t = .ok j) : InRange j :=
  composed_inRange.of_read h

/-! ### Other ones -/

mutual

/-- A value with its floating point numbers changed. -/
def mapFloats (f : Binary64 → Binary64) : Json → Json
  | .float x => .float (f x)
  | .array items => .array (mapItems f items)
  | .object members => .object (mapMembers f members)
  | j => j

/-- Items with their floating point numbers changed. -/
def mapItems (f : Binary64 → Binary64) : List Json → List Json
  | [] => []
  | item :: items => mapFloats f item :: mapItems f items

/-- Members with their floating point numbers changed. -/
def mapMembers (f : Binary64 → Binary64) : List (CodeUnits × Json) → List (CodeUnits × Json)
  | [] => []
  | (name, item) :: members => (name, mapFloats f item) :: mapMembers f members

end

mutual

theorem mapFloats_id : ∀ j : Json, j.mapFloats id = j
  | .null | .bool _ | .int _ | .float _ | .string _ => rfl
  | .array items => congrArg Json.array (mapItems_id items)
  | .object members => congrArg Json.object (mapMembers_id members)

theorem mapItems_id : ∀ items : List Json, mapItems id items = items
  | [] => rfl
  | item :: items => congrArg₂ List.cons (mapFloats_id item) (mapItems_id items)

theorem mapMembers_id : ∀ members : List (CodeUnits × Json), mapMembers id members = members
  | [] => rfl
  | (name, item) :: members =>
    congrArg₂ List.cons (congrArg (Prod.mk name) (mapFloats_id item)) (mapMembers_id members)

end

/-! ### Finite ones -/

/-- All floating point numbers in a value are finite. -/
def IsFinite (j : Json) : Prop := ∀ x, IsPart (.float x) j → x.IsFinite

section Finite

variable {items : List Json} {members : List (CodeUnits × Json)} {f : Binary64 → Binary64}

theorem isFinite_null : IsFinite .null := forall_float_of_simple (by simp) (by simp) (by simp)

theorem isFinite_bool (b : Bool) : IsFinite (.bool b) :=
  forall_float_of_simple (by simp) (by simp) (by simp)

theorem isFinite_int (n : Int) : IsFinite (.int n) :=
  forall_float_of_simple (by simp) (by simp) (by simp)

theorem isFinite_string (s : CodeUnits) : IsFinite (.string s) :=
  forall_float_of_simple (by simp) (by simp) (by simp)

theorem isFinite_float {x : Binary64} : IsFinite (.float x) ↔ x.IsFinite := forall_float_float

theorem isFinite_array : IsFinite (.array items) ↔ ∀ item ∈ items, IsFinite item :=
  forall_float_array

theorem isFinite_object : IsFinite (.object members) ↔ ∀ p ∈ members, IsFinite p.2 :=
  forall_float_object

mutual

/-- A value stays finite, or not, if every floating point number in it does. -/
theorem isFinite_mapFloats_iff : ∀ j : Json,
    (∀ x, IsPart (.float x) j → ((f x).IsFinite ↔ x.IsFinite)) →
      ((j.mapFloats f).IsFinite ↔ j.IsFinite)
  | .null | .bool _ | .int _ | .string _ => fun _ => Iff.rfl
  | .float _ => fun h => isFinite_float.trans ((forall_float_float.1 h).trans isFinite_float.symm)
  | .array items => fun h => isFinite_array.trans
      ((isFinite_mapItems_iff items (forall_float_array.1 h)).trans isFinite_array.symm)
  | .object members => fun h => isFinite_object.trans
      ((isFinite_mapMembers_iff members (forall_float_object.1 h)).trans isFinite_object.symm)

theorem isFinite_mapItems_iff : ∀ items : List Json,
    (∀ item ∈ items, ∀ x, IsPart (.float x) item → ((f x).IsFinite ↔ x.IsFinite)) →
      ((∀ item ∈ mapItems f items, IsFinite item) ↔ ∀ item ∈ items, IsFinite item) := by
  intro items h
  match items with
  | [] => exact Iff.rfl
  | item :: items =>
    rw [List.forall_mem_cons] at h
    rw [mapItems, List.forall_mem_cons, List.forall_mem_cons]
    exact and_congr (isFinite_mapFloats_iff item h.1) (isFinite_mapItems_iff items h.2)

theorem isFinite_mapMembers_iff : ∀ members : List (CodeUnits × Json),
    (∀ p ∈ members, ∀ x, IsPart (.float x) p.2 → ((f x).IsFinite ↔ x.IsFinite)) →
      ((∀ p ∈ mapMembers f members, IsFinite p.2) ↔ ∀ p ∈ members, IsFinite p.2) := by
  intro members h
  match members with
  | [] => exact Iff.rfl
  | (name, item) :: members =>
    rw [List.forall_mem_cons] at h
    rw [mapMembers, List.forall_mem_cons, List.forall_mem_cons]
    exact and_congr (isFinite_mapFloats_iff item h.1) (isFinite_mapMembers_iff members h.2)

end

end Finite

/-! ### Printed values -/

/-- Whether every number of a tree has a value. -/
def Valued (tree : Document (Option ℚ)) : Prop := ∃ values : Document ℚ, tree = values.map some

theorem valued_number {x : Option ℚ} : Valued (.number x) ↔ x.isSome := by
  constructor
  · rintro ⟨values, same⟩
    cases values with
    | number q => exact Document.number.inj same ▸ rfl
    | null | bool | string | array | object => cases same
  · intro h
    obtain ⟨q, rfl⟩ := Option.isSome_iff_exists.1 h
    exact ⟨.number q, rfl⟩

theorem valued_array {trees : List (Document (Option ℚ))} : Valued (.array trees) ↔
    ∃ values : List (Document ℚ), trees = Document.mapItems some values := by
  constructor
  · rintro ⟨values, same⟩
    cases values with
    | array values => exact ⟨values, Document.array.inj same⟩
    | null | bool | string | number | object => cases same
  · rintro ⟨values, rfl⟩
    exact ⟨.array values, rfl⟩

theorem valued_object {trees : List (CodeUnits × Document (Option ℚ))} : Valued (.object trees) ↔
    ∃ values : List (CodeUnits × Document ℚ), trees = Document.mapMembers some values := by
  constructor
  · rintro ⟨values, same⟩
    cases values with
    | object values => exact ⟨values, Document.object.inj same⟩
    | null | bool | string | number | array => cases same
  · rintro ⟨values, rfl⟩
    exact ⟨.object values, rfl⟩

theorem isSome_shown? {x : Binary64} : x.shown?.isSome ↔ x.IsFinite := by
  cases x with
  | finite => exact iff_of_true rfl trivial
  | infinity | nan => exact iff_of_false Bool.noConfusion not_false

mutual

/-- The numbers of a value as it is printed have values exactly if they are finite. -/
theorem valued_ofJson_iff : ∀ j : Json,
    Valued ((Document.ofJson j).map Number.value?) ↔ j.IsFinite
  | .null => iff_of_true ⟨.null, rfl⟩ isFinite_null
  | .bool b => iff_of_true ⟨.bool b, rfl⟩ (isFinite_bool b)
  | .int n => iff_of_true ⟨.number n, rfl⟩ (isFinite_int n)
  | .string s => iff_of_true ⟨.string s, rfl⟩ (isFinite_string s)
  | .float x => by
    rw [isFinite_float, ← isSome_shown?, ← Number.value?_ofBinary]
    exact valued_number
  | .array items => by
    rw [isFinite_array, ← valued_ofItems_iff items]
    exact valued_array
  | .object members => by
    rw [isFinite_object, ← valued_ofMembers_iff members]
    exact valued_object

theorem valued_ofItems_iff : ∀ items : List Json,
    (∃ values, Document.mapItems Number.value? (Document.ofItems items) =
      Document.mapItems some values) ↔ ∀ item ∈ items, item.IsFinite
  | [] => iff_of_true ⟨[], rfl⟩ (List.forall_mem_nil _)
  | item :: items => by
    rw [List.forall_mem_cons, ← valued_ofJson_iff item, ← valued_ofItems_iff items]
    constructor
    · rintro ⟨values, same⟩
      cases values with
      | nil => cases same
      | cons value values =>
        obtain ⟨first, others⟩ := List.cons.inj same
        exact ⟨⟨value, first⟩, values, others⟩
    · rintro ⟨⟨value, first⟩, values, others⟩
      exact ⟨value :: values, congrArg₂ List.cons first others⟩

theorem valued_ofMembers_iff : ∀ members : List (CodeUnits × Json),
    (∃ values, Document.mapMembers Number.value? (Document.ofMembers members) =
      Document.mapMembers some values) ↔ ∀ p ∈ members, p.2.IsFinite
  | [] => iff_of_true ⟨[], rfl⟩ (List.forall_mem_nil _)
  | (name, item) :: members => by
    rw [List.forall_mem_cons, ← valued_ofJson_iff item, ← valued_ofMembers_iff members]
    constructor
    · rintro ⟨values, same⟩
      match values with
      | [] => cases same
      | (other, value) :: values =>
        obtain ⟨first, others⟩ := List.cons.inj same
        exact ⟨⟨value, (Prod.mk.inj first).2⟩, values, others⟩
    · rintro ⟨⟨value, first⟩, values, others⟩
      exact ⟨(name, value) :: values, congrArg₂ List.cons (congrArg (Prod.mk name) first) others⟩

end

/-- **A value is printed as JSON exactly if every number in it is finite.** -/
theorem exists_isText_print_iff (j : Json) : (∃ values, IsText j.print values) ↔ j.IsFinite := by
  have printed : Says j.print (.ofJson j) := Says.render 0 j
  rw [← valued_ofJson_iff]
  constructor
  · rintro ⟨values, exact, again, same⟩
    rw [← printed.unique again] at same
    exact ⟨values, same⟩
  · rintro ⟨values, same⟩
    exact ⟨values, _, printed, same⟩

end CurlSnippets.Json
