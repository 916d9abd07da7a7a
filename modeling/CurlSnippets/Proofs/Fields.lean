import CurlSnippets.Fields
import Mathlib.Data.List.Basic

/-!
# Laws of fields

Pairs with new names are written behind those already there (`putAll_eq_append`), so fields are the
fields that their own entries write (`ofList_entries`).  Fields that override others keep the places
of the names that are there, put new names behind them (`names_override`), and win on values
(`get?_override`).
-/

namespace CurlSnippets

namespace Pairs

variable {α β : Type} [DecidableEq α]

theorem put_of_notMem {name : α} {value : β} :
    ∀ {pairs : List (α × β)}, name ∉ pairs.map Prod.fst →
      put name value pairs = pairs ++ [(name, value)]
  | [], _ => rfl
  | (n, v) :: pairs, h => by
    rw [List.map_cons, List.mem_cons, not_or] at h
    obtain ⟨hn, hrest⟩ := h
    have tail : put name value pairs = pairs ++ [(name, value)] := put_of_notMem hrest
    rw [put, if_neg (Ne.symm hn), tail, List.cons_append]

theorem putAll_eq_append {pairs : List (α × β)} :
    ∀ {onto : List (α × β)}, ((onto ++ pairs).map Prod.fst).Nodup →
      putAll pairs onto = onto ++ pairs := by
  induction pairs with
  | nil => intro onto _; simp [putAll]
  | cons p pairs ih =>
    intro onto h
    -- the first name is none of those that are there, so it is written behind them
    have new : p.1 ∉ onto.map Prod.fst := by
      intro hp
      rw [List.map_append, List.nodup_append] at h
      exact h.2.2 p.1 hp p.1 (by simp) rfl
    have step : putAll (p :: pairs) onto = putAll pairs (put p.1 p.2 onto) := rfl
    rw [step, put_of_notMem new, ih (by simpa using h), List.append_assoc, List.singleton_append]

theorem mem_names_put {name n : α} {value : β} {pairs : List (α × β)} :
    n ∈ (put name value pairs).map Prod.fst ↔ n ∈ pairs.map Prod.fst ∨ n = name := by
  rw [names_put]
  split
  · rename_i h
    exact ⟨Or.inl, fun hn => hn.elim id fun e => e ▸ h⟩
  · rw [List.mem_append, List.mem_singleton]

/-- A name is there if it was there before or is that of a written pair. -/
theorem mem_names_putAll {n : α} :
    ∀ {pairs onto : List (α × β)}, n ∈ (putAll pairs onto).map Prod.fst ↔
      n ∈ onto.map Prod.fst ∨ n ∈ pairs.map Prod.fst
  | [], onto => by simp [putAll]
  | p :: pairs, onto => by
    have step : putAll (p :: pairs) onto = putAll pairs (put p.1 p.2 onto) := rfl
    rw [step, mem_names_putAll, mem_names_put, List.map_cons, List.mem_cons, or_assoc]

/-- Written names keep their places if they are there, and follow in order if they are new. -/
theorem names_putAll {pairs : List (α × β)} (h : (pairs.map Prod.fst).Nodup) :
    ∀ {onto : List (α × β)}, (putAll pairs onto).map Prod.fst =
      onto.map Prod.fst ++ (pairs.map Prod.fst).filter fun n => n ∉ onto.map Prod.fst := by
  induction pairs with
  | nil => intro onto; simp [putAll]
  | cons p pairs ih =>
    intro onto
    obtain ⟨first, rest⟩ := List.nodup_cons.1 h
    have step : putAll (p :: pairs) onto = putAll pairs (put p.1 p.2 onto) := rfl
    rw [step, ih rest, names_put, List.map_cons, List.filter_cons]
    -- the first name is there, or is new and none of the others
    by_cases hp : p.1 ∈ onto.map Prod.fst
    · simp only [hp, if_true, not_true_eq_false, decide_false, Bool.false_eq_true, if_false]
    · have same : (pairs.map Prod.fst).filter (fun n => n ∉ onto.map Prod.fst ++ [p.1]) =
          (pairs.map Prod.fst).filter fun n => n ∉ onto.map Prod.fst := by
        refine List.filter_congr fun n hn => ?_
        have other : n ≠ p.1 := fun e => first (e ▸ hn)
        simp [other]
      simp only [hp, if_false, not_false_eq_true, decide_true, if_true, same, List.append_assoc,
        List.singleton_append]

/-- The value under a name. -/
def get? (name : α) (pairs : List (α × β)) : Option β :=
  (pairs.find? fun p => p.1 = name).map Prod.snd

theorem get?_cons (n : α) (p : α × β) (pairs : List (α × β)) :
    get? n (p :: pairs) = if p.1 = n then some p.2 else get? n pairs := by
  by_cases h : p.1 = n <;> simp [get?, h]

theorem get?_cons_self (n : α) (value : β) (pairs : List (α × β)) :
    get? n ((n, value) :: pairs) = some value := by
  rw [get?_cons, if_pos rfl]

theorem get?_put (name n : α) (value : β) (pairs : List (α × β)) :
    get? n (put name value pairs) = if name = n then some value else get? n pairs := by
  induction pairs with
  | nil => exact get?_cons n (name, value) []
  | cons p pairs ih =>
    obtain ⟨m, v⟩ := p
    by_cases hm : m = name
    · subst hm
      rw [put, if_pos rfl, get?_cons, get?_cons]
      by_cases hn : m = n
      · rw [if_pos hn, if_pos hn]
      · rw [if_neg hn, if_neg hn, if_neg hn]
    · -- the pair stays where it is, and is not the one that is written
      rw [put, if_neg hm, get?_cons, get?_cons, ih]
      by_cases hn : name = n
      · subst hn
        simp only [hm, if_true, if_false]
      · simp only [hn, if_false]

theorem get?_of_notMem {n : α} {pairs : List (α × β)} (h : n ∉ pairs.map Prod.fst) :
    get? n pairs = none := by
  rw [get?, Option.map_eq_none_iff, List.find?_eq_none]
  intro p hp e
  exact h (List.mem_map.2 ⟨p, hp, of_decide_eq_true e⟩)

/-- Where no name stands twice, a pair is found by its name. -/
theorem get?_of_mem {n : α} {value : β} :
    ∀ {pairs : List (α × β)}, (pairs.map Prod.fst).Nodup → (n, value) ∈ pairs →
      get? n pairs = some value
  | p :: pairs, h, hp => by
    obtain ⟨first, rest⟩ := List.nodup_cons.1 h
    rcases List.mem_cons.1 hp with rfl | hp
    · exact get?_cons_self n value pairs
    · have other : p.1 ≠ n := fun e => first (e ▸ List.mem_map_of_mem hp)
      rw [get?_cons, if_neg other, get?_of_mem rest hp]

/-- A written value counts, and what was there before where none is written. -/
theorem get?_putAll {n : α} {pairs : List (α × β)} (h : (pairs.map Prod.fst).Nodup) :
    ∀ {onto : List (α × β)}, get? n (putAll pairs onto) = (get? n pairs).or (get? n onto) := by
  induction pairs with
  | nil => intro onto; rfl
  | cons p pairs ih =>
    intro onto
    obtain ⟨first, rest⟩ := List.nodup_cons.1 h
    have step : putAll (p :: pairs) onto = putAll pairs (put p.1 p.2 onto) := rfl
    rw [step, ih rest, get?_put, get?_cons]
    -- no later pair has the name of the first
    by_cases hn : p.1 = n
    · subst hn
      rw [get?_of_notMem first, if_pos rfl, if_pos rfl]
      rfl
    · rw [if_neg hn, if_neg hn]

theorem eq_or_mem_of_mem_put {name : α} {value : β} {pairs : List (α × β)} {p : α × β}
    (h : p ∈ put name value pairs) : p = (name, value) ∨ p ∈ pairs := by
  induction pairs with
  | nil => exact .inl (List.mem_singleton.1 h)
  | cons q pairs ih =>
    obtain ⟨n, v⟩ := q
    rw [put] at h
    split at h
    · rename_i same
      rcases List.mem_cons.1 h with rfl | h
      · exact .inl (congrArg (·, value) same)
      · exact .inr (List.mem_cons_of_mem _ h)
    · rcases List.mem_cons.1 h with rfl | h
      · exact .inr List.mem_cons_self
      · exact (ih h).imp_right (List.mem_cons_of_mem _)

/-- Pairs are among those that are written and those that stood there. -/
theorem mem_or_mem_of_mem_putAll {pairs : List (α × β)} {p : α × β} :
    ∀ {onto : List (α × β)}, p ∈ putAll pairs onto → p ∈ pairs ∨ p ∈ onto := by
  induction pairs with
  | nil => exact fun h => .inr h
  | cons q pairs ih =>
    intro onto h
    have step : putAll (q :: pairs) onto = putAll pairs (put q.1 q.2 onto) := rfl
    rw [step] at h
    rcases ih h with h | h
    · exact .inl (List.mem_cons_of_mem q h)
    · rcases eq_or_mem_of_mem_put h with rfl | h
      · exact .inl List.mem_cons_self
      · exact .inr h

/-- Values are among those that stood there and those that are written. -/
theorem forall_values_putAll {P : β → Prop} {pairs onto : List (α × β)} (h : ∀ p ∈ pairs, P p.2)
    (honto : ∀ p ∈ onto, P p.2) : ∀ p ∈ putAll pairs onto, P p.2 :=
  fun p hp => (mem_or_mem_of_mem_putAll hp).elim (h p) (honto p)

end Pairs

namespace Fields

theorem putAll_cons (p : Text × Text) (pairs : List (Text × Text)) (f : Fields) :
    f.putAll (p :: pairs) = (f.put p.1 p.2).putAll pairs := rfl

/-- Fields without a common name stand one behind the other. -/
theorem entries_override {f g : Fields} (h : ((f.entries ++ g.entries).map Prod.fst).Nodup) :
    (f.override g).entries = f.entries ++ g.entries := Pairs.putAll_eq_append h

/-- The value under a name. -/
def get? (f : Fields) (name : Text) : Option Text := Pairs.get? name f.entries

theorem get?_of_mem {f : Fields} {name value : Text} (h : (name, value) ∈ f.entries) :
    f.get? name = some value :=
  Pairs.get?_of_mem f.nodup h

theorem names_override (f g : Fields) :
    (f.override g).names = f.names ++ g.names.filter fun n => n ∉ f.names := by
  -- the two tests for membership compare names by different instances
  refine (Pairs.names_putAll g.nodup).trans (congrArg _ (List.filter_congr fun n _ => ?_))
  exact decide_eq_decide.2 Iff.rfl

theorem get?_override (f g : Fields) (name : Text) :
    (f.override g).get? name = (g.get? name).or (f.get? name) :=
  Pairs.get?_putAll g.nodup

theorem empty_override (f : Fields) : (∅ : Fields).override f = f :=
  ext_entries (entries_override (f := ∅) f.nodup)

theorem ofList_entries (f : Fields) : ofList f.entries = f := empty_override f

end Fields

end CurlSnippets
