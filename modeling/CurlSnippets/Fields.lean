import CurlSnippets.Text.Basic

/-!
# Fields

Named values in the order in which the names were first written.  Writing a name again replaces its
value and keeps its place.  Headers, query parameters and form fields are of this kind; members of
a JSON object are kept by the same operation on plain lists of pairs.

The names of a `Fields` are pairwise different by construction, and `names_put` says what writing
does to them.
-/

namespace CurlSnippets

namespace Pairs

variable {α β : Type} [DecidableEq α]

/-- The pairs with `value` under `name`: in the place of the earlier value, or else at the end. -/
def put (name : α) (value : β) : List (α × β) → List (α × β)
  | [] => [(name, value)]
  | (n, v) :: rest => if n = name then (n, value) :: rest else (n, v) :: put name value rest

/-- Pairs written one after another onto those already there. -/
def putAll (pairs : List (α × β)) (onto : List (α × β)) : List (α × β) :=
  pairs.foldl (fun acc p => put p.1 p.2 acc) onto

/-- Writing adds a name at the end if it is new and changes no name otherwise. -/
theorem names_put (name : α) (value : β) (pairs : List (α × β)) :
    (put name value pairs).map Prod.fst =
      if name ∈ pairs.map Prod.fst then pairs.map Prod.fst else pairs.map Prod.fst ++ [name] := by
  induction pairs with
  | nil => simp [put]
  | cons p rest ih =>
    obtain ⟨n, v⟩ := p
    by_cases h : n = name
    · simp [put, h]
    · have h' : name ≠ n := fun e => h e.symm
      by_cases hm : name ∈ rest.map Prod.fst
      · simp only [put, h, if_false, List.map_cons, ih, hm, if_true, List.mem_cons, h', false_or]
      · simp only [put, h, if_false, List.map_cons, ih, hm, List.mem_cons, h', or_self,
          List.cons_append]

theorem nodup_names_put {name : α} {value : β} {pairs : List (α × β)}
    (h : (pairs.map Prod.fst).Nodup) : ((put name value pairs).map Prod.fst).Nodup := by
  rw [names_put]
  split
  · exact h
  · rename_i hm
    rw [List.nodup_append]
    refine ⟨h, by simp, ?_⟩
    intro a ha b hb
    simp only [List.mem_singleton] at hb
    exact fun e => hm (hb ▸ e ▸ ha)

theorem nodup_names_putAll (pairs : List (α × β)) {onto : List (α × β)}
    (h : (onto.map Prod.fst).Nodup) : ((putAll pairs onto).map Prod.fst).Nodup := by
  induction pairs generalizing onto with
  | nil => exact h
  | cons p pairs ih => exact ih (nodup_names_put h)

end Pairs

/-- Named values in the order in which the names were first written. -/
structure Fields where
  /-- The names with their values, in order. -/
  entries : List (Text × Text)
  /-- No name stands twice. -/
  nodup : (entries.map Prod.fst).Nodup
deriving DecidableEq

namespace Fields

/-- No fields. -/
def empty : Fields := ⟨[], List.nodup_nil⟩

instance : EmptyCollection Fields := ⟨empty⟩
instance : Inhabited Fields := ⟨empty⟩

/-- The names in order. -/
def names (f : Fields) : List Text := f.entries.map Prod.fst

/-- Whether there is no field. -/
def isEmpty (f : Fields) : Bool := f.entries.isEmpty

/-- The fields with `value` under `name`. -/
def put (name value : Text) (f : Fields) : Fields :=
  ⟨Pairs.put name value f.entries, Pairs.nodup_names_put f.nodup⟩

/-- The fields with pairs written onto them one after another. -/
def putAll (pairs : List (Text × Text)) (f : Fields) : Fields :=
  ⟨Pairs.putAll pairs f.entries, Pairs.nodup_names_putAll pairs f.nodup⟩

/-- The fields written by a list of pairs, of which a later one replaces an earlier one of the same
name. -/
def ofList (pairs : List (Text × Text)) : Fields := empty.putAll pairs

/-- The fields of `f` overridden by those of `g`. -/
def override (f g : Fields) : Fields := f.putAll g.entries

/-- The fields whose value `keep` holds of. -/
def filterValues (keep : Text → Bool) (f : Fields) : Fields :=
  ⟨f.entries.filter fun p => keep p.2,
    f.nodup.sublist ((List.filter_sublist (p := fun p : Text × Text => keep p.2)).map Prod.fst)⟩

@[simp] theorem entries_empty : (∅ : Fields).entries = [] := rfl

@[simp] theorem entries_put (name value : Text) (f : Fields) :
    (f.put name value).entries = Pairs.put name value f.entries := rfl

@[simp] theorem entries_filterValues (keep : Text → Bool) (f : Fields) :
    (f.filterValues keep).entries = f.entries.filter fun p => keep p.2 := rfl

theorem ext_entries {f g : Fields} (h : f.entries = g.entries) : f = g := by
  cases f
  cases g
  simp_all

end Fields

end CurlSnippets
