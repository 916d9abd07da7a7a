import CurlSnippets.Proofs.Json.Printed
import CurlSnippets.Proofs.Json.Unambiguous

/-!
# Texts that are written anew

A text that is read and printed again says the same as before exactly if no name is repeated in an
object and every number with a fraction or an exponent is kept (`isText_print_iff`): the digits that are
shown of the nearest binary number are worth as much as its own.  Integers, strings and the order of
items and members are never changed.
-/

namespace CurlSnippets.Json

/-- Whether the text of the nearest binary number has the value of a number; integers are exact. -/
def Number.Kept : Number → Prop
  | .decimal x => (Binary64.ofNumeral x).shown? = some x.value
  | _ => True

/-! ### Names -/

theorem names_mapMembers {ν μ : Type} (f : ν → μ) : ∀ members : List (CodeUnits × Document ν),
    (Document.mapMembers f members).map Prod.fst = members.map Prod.fst
  | [] => rfl
  | (name, _) :: members => congrArg (name :: ·) (names_mapMembers f members)

theorem names_ofMembers : ∀ members : List (CodeUnits × Json),
    (Document.ofMembers members).map Prod.fst = members.map Prod.fst
  | [] => rfl
  | (name, _) :: members => congrArg (name :: ·) (names_ofMembers members)

theorem names_decodeMembers : ∀ members : List (CodeUnits × Document Number),
    (Document.decodeMembers members).map Prod.fst = members.map Prod.fst
  | [] => rfl
  | (name, _) :: members => congrArg (name :: ·) (names_decodeMembers members)

/-! ### Trees -/

theorem number_kept_iff (x : Number) :
    (Document.ofJson x.decode).map Number.value? = .number x.value? ↔ x.Kept := by
  cases x with
  | int n => exact ⟨fun _ => trivial, fun _ => rfl⟩
  | decimal x =>
    show Document.number (Number.ofBinary (Binary64.ofNumeral x)).value? = _ ↔ _
    rw [Number.value?_ofBinary, Document.number.injEq]
    exact Iff.rfl
  | nan => exact ⟨fun _ => trivial, fun _ => rfl⟩
  | infinity => exact ⟨fun _ => trivial, fun _ => rfl⟩

-- Both halves of each equivalence go along the tree at once: a node is the same if its parts are.
mutual

/-- Two views of a tree are the same exactly if they are the same of each number. -/
theorem map_eq_map_iff {ν μ : Type} {f g : ν → μ} : ∀ tree : Document ν,
    tree.map f = tree.map g ↔ tree.All (fun x => f x = g x) fun _ => True
  | .null => ⟨fun _ => trivial, fun _ => rfl⟩
  | .bool _ => ⟨fun _ => trivial, fun _ => rfl⟩
  | .string _ => ⟨fun _ => trivial, fun _ => rfl⟩
  | .number _ => iff_of_eq (Document.number.injEq _ _)
  | .array items => (iff_of_eq (Document.array.injEq _ _)).trans (mapItems_eq_iff items)
  | .object members =>
    (iff_of_eq (Document.object.injEq _ _)).trans <|
      (mapMembers_eq_iff members).trans (and_iff_right trivial).symm

theorem mapItems_eq_iff {ν μ : Type} {f g : ν → μ} : ∀ items : List (Document ν),
    Document.mapItems f items = Document.mapItems g items ↔
      Document.AllItems (fun x => f x = g x) (fun _ => True) items
  | [] => ⟨fun _ => trivial, fun _ => rfl⟩
  | item :: items => by
    rw [Document.mapItems, Document.mapItems, List.cons.injEq]
    exact and_congr (map_eq_map_iff item) (mapItems_eq_iff items)

theorem mapMembers_eq_iff {ν μ : Type} {f g : ν → μ} : ∀ members : List (CodeUnits × Document ν),
    Document.mapMembers f members = Document.mapMembers g members ↔
      Document.AllMembers (fun x => f x = g x) (fun _ => True) members
  | [] => ⟨fun _ => trivial, fun _ => rfl⟩
  | (name, item) :: members => by
    rw [Document.mapMembers, Document.mapMembers, List.cons.injEq, Prod.mk.injEq]
    exact and_congr ((and_iff_right rfl).trans (map_eq_map_iff item)) (mapMembers_eq_iff members)

end

section Views

variable {β : Type} (f g : Number → β)

/-- Members that are read one after another lose the repeated names, if there are any. -/
theorem object_again_iff (members : List (CodeUnits × Document Number)) :
    (Document.ofJson (Document.object members).decode).map f = (Document.object members).map g ↔
      (members.map Prod.fst).Nodup ∧
        Document.mapMembers f (Document.ofMembers (Document.decodeMembers members)) =
          Document.mapMembers g members := by
  have all : ∀ {l}, Pairs.putAll (Document.decodeMembers members) [] = l →
      ((Document.ofJson (Document.object members).decode).map f = (Document.object members).map g ↔
        Document.mapMembers f (Document.ofMembers l) = Document.mapMembers g members) := by
    rintro l rfl
    exact iff_of_eq (Document.object.injEq _ _)
  have new : (members.map Prod.fst).Nodup →
      Pairs.putAll (Document.decodeMembers members) [] = Document.decodeMembers members :=
    fun nodup => Pairs.putAll_eq_append (by simpa [names_decodeMembers] using nodup)
  constructor
  · -- dictionaries hold no name twice, so neither did the members
    intro same
    have names := congrArg (List.map Prod.fst) ((all rfl).1 same)
    rw [names_mapMembers, names_mapMembers, names_ofMembers] at names
    have nodup : (members.map Prod.fst).Nodup := by
      rw [← names]
      exact Pairs.nodup_names_putAll _ (by simp)
    exact ⟨nodup, (all (new nodup)).1 same⟩
  · rintro ⟨nodup, same⟩
    exact (all (new nodup)).2 same

mutual

/-- Of a tree that is read and printed again `f` sees what `g` saw of it before exactly if this holds of
each number, and no name is repeated. -/
theorem tree_again_iff : ∀ tree : Document Number,
    (Document.ofJson tree.decode).map f = tree.map g ↔
      tree.All (fun x => (Document.ofJson x.decode).map f = .number (g x)) List.Nodup
  | .null => ⟨fun _ => trivial, fun _ => rfl⟩
  | .bool _ => ⟨fun _ => trivial, fun _ => rfl⟩
  | .string _ => ⟨fun _ => trivial, fun _ => rfl⟩
  | .number _ => Iff.rfl
  | .array items => (iff_of_eq (Document.array.injEq _ _)).trans (items_again_iff items)
  | .object members =>
    (object_again_iff f g members).trans (and_congr_right fun _ => members_again_iff members)

theorem items_again_iff : ∀ items : List (Document Number),
    Document.mapItems f (Document.ofItems (Document.decodeItems items)) = Document.mapItems g items ↔
      Document.AllItems (fun x => (Document.ofJson x.decode).map f = .number (g x)) List.Nodup items
  | [] => ⟨fun _ => trivial, fun _ => rfl⟩
  | item :: items => by
    rw [Document.decodeItems, Document.ofItems, Document.mapItems, Document.mapItems, List.cons.injEq]
    exact and_congr (tree_again_iff item) (items_again_iff items)

theorem members_again_iff : ∀ members : List (CodeUnits × Document Number),
    Document.mapMembers f (Document.ofMembers (Document.decodeMembers members)) =
        Document.mapMembers g members ↔
      Document.AllMembers (fun x => (Document.ofJson x.decode).map f = .number (g x)) List.Nodup members
  | [] => ⟨fun _ => trivial, fun _ => rfl⟩
  | (name, item) :: members => by
    rw [Document.decodeMembers, Document.ofMembers, Document.mapMembers, Document.mapMembers,
      List.cons.injEq, Prod.mk.injEq]
    exact and_congr ((and_iff_right rfl).trans (tree_again_iff item)) (members_again_iff members)

end

end Views

/-- A tree is printed again with the same values exactly if nothing in it is lost. -/
theorem tree_kept_iff (tree : Document Number) :
    (Document.ofJson tree.decode).map Number.value? = tree.map Number.value? ↔
      tree.All Number.Kept List.Nodup := by
  simp only [tree_again_iff, number_kept_iff]

/-- **What a text says is printed again without loss exactly if nothing in it is lost.** -/
theorem isText_print_iff {tree : Document Number} {values : Document ℚ}
    (valued : tree.map Number.value? = values.map some) :
    IsText tree.decode.print values ↔ tree.All Number.Kept List.Nodup := by
  have printed : Says tree.decode.print (.ofJson tree.decode) := Says.render 0 _
  rw [← tree_kept_iff, valued]
  constructor
  · rintro ⟨exact, again, same⟩
    rwa [printed.unique again]
  · exact fun same => ⟨_, printed, same⟩

-- A number beyond all finite ones becomes a word, which is no JSON.
example : (Document.number (.decimal ⟨false, 1, 400⟩)).decode.print = "Infinity" := by decide +kernel

end CurlSnippets.Json
