import CurlSnippets.Proofs.Fields
import CurlSnippets.Proofs.Json.DigitLimit
import CurlSnippets.Proofs.Number.Numeral

/-!
# Values that a text holds without loss

A value is lossless if every part of it is: no floating point number, integers within the digit
limit, and objects whose names are pairwise different.  What is read has the last two properties
(`readable_of_read`), so it is lossless if all its numbers are whole.
-/

namespace CurlSnippets

namespace Json

/-! ### Parts -/

/-- A value is a part of itself, and so are the parts of its items and members. -/
inductive IsPart (part : Json) : Json → Prop where
  | self : IsPart part part
  | item {item : Json} {items : List Json} :
      item ∈ items → IsPart part item → IsPart part (.array items)
  | member {p : CodeUnits × Json} {members : List (CodeUnits × Json)} :
      p ∈ members → IsPart part p.2 → IsPart part (.object members)

/-- A value as it may be read: integers are within the limit, and no name stands twice in an
object. -/
structure Readable (j : Json) : Prop where
  integers : ∀ n, IsPart (.int n) j → digitCount n.natAbs ≤ digitLimit
  names : ∀ members, IsPart (.object members) j → (members.map Prod.fst).Nodup

/-- All numbers in a value are integers. -/
def Whole (j : Json) : Prop := ∀ x, ¬ IsPart (.float x) j

/-- A value that its text holds without loss. -/
structure Lossless (j : Json) : Prop where
  readable : Readable j
  whole : Whole j

variable {j : Json} {items : List Json} {members : List (CodeUnits × Json)}

/-- A value without items and members is its only part. -/
theorem eq_of_isPart {part : Json} (h : IsPart part j) (array : ∀ items, j ≠ .array items)
    (object : ∀ members, j ≠ .object members) : part = j := by
  cases h with
  | self => rfl
  | item => exact absurd rfl (array _)
  | member => exact absurd rfl (object _)

theorem readable_of_simple (array : ∀ items, j ≠ .array items)
    (object : ∀ members, j ≠ .object members)
    (int : ∀ n, j = .int n → digitCount n.natAbs ≤ digitLimit) : Readable j where
  integers n h := int n (eq_of_isPart h array object).symm
  names members h := absurd (eq_of_isPart h array object).symm (object members)

theorem readable_array (h : ∀ item ∈ items, Readable item) : Readable (.array items) where
  integers n part := by
    cases part with
    | item hm part => exact (h _ hm).integers n part
  names members part := by
    cases part with
    | item hm part => exact (h _ hm).names members part

theorem readable_object (h : ∀ p ∈ members, Readable p.2) (nodup : (members.map Prod.fst).Nodup) :
    Readable (.object members) where
  integers n part := by
    cases part with
    | member hm part => exact (h _ hm).integers n part
  names ms part := by
    cases part with
    | self => exact nodup
    | member hm part => exact (h _ hm).names ms part

theorem Readable.item (h : Readable (.array items)) : ∀ item ∈ items, Readable item := fun _ hm =>
  ⟨fun n part => h.integers n (.item hm part), fun ms part => h.names ms (.item hm part)⟩

theorem Readable.member (h : Readable (.object members)) : ∀ p ∈ members, Readable p.2 := fun _ hm =>
  ⟨fun n part => h.integers n (.member hm part), fun ms part => h.names ms (.member hm part)⟩

namespace Lossless

theorem of_simple (array : ∀ items, j ≠ .array items) (object : ∀ members, j ≠ .object members)
    (int : ∀ n, j = .int n → digitCount n.natAbs ≤ digitLimit) (float : ∀ x, j ≠ .float x) :
    Lossless j where
  readable := readable_of_simple array object int
  whole x part := float x (eq_of_isPart part array object).symm

theorem array (h : ∀ item ∈ items, Lossless item) : Lossless (.array items) where
  readable := readable_array fun item hm => (h item hm).readable
  whole x part := by
    cases part with
    | item hm part => exact (h _ hm).whole x part

theorem object (h : ∀ p ∈ members, Lossless p.2) (nodup : (members.map Prod.fst).Nodup) :
    Lossless (.object members) where
  readable := readable_object (fun p hm => (h p hm).readable) nodup
  whole x part := by
    cases part with
    | member hm part => exact (h _ hm).whole x part

theorem item (h : Lossless (.array items)) : ∀ item ∈ items, Lossless item := fun _ hm =>
  ⟨h.readable.item _ hm, fun x part => h.whole x (.item hm part)⟩

theorem member (h : Lossless (.object members)) : ∀ p ∈ members, Lossless p.2 := fun _ hm =>
  ⟨h.readable.member _ hm, fun x part => h.whole x (.member hm part)⟩

theorem nodup (h : Lossless (.object members)) : (members.map Prod.fst).Nodup :=
  h.readable.names members .self

theorem digits {n : Int} (h : Lossless (.int n)) : digitCount n.natAbs ≤ digitLimit :=
  h.readable.integers n .self

end Lossless

/-! ### What is read -/

variable {α β : Type} {t : Text}

/-- Whatever a reader reads has a property. -/
def Reading.Yields (P : α → Prop) (r : Reading α) : Prop := ∀ a behind, r = .ok (a, behind) → P a

namespace Reading.Yields

variable {P : α → Prop} {r : Reading α}

theorem ok {a : α} {behind : Text} (h : P a) : Reading.Yields P (.ok (a, behind)) := by
  intro b rest e
  obtain ⟨rfl, -⟩ := Prod.mk.inj (Except.ok.inj e)
  exact h

theorem error {e : ReadError} : Reading.Yields P (.error e) := by
  intro b rest h
  exact absurd h (by simp)

theorem map {Q : β → Prop} {f : α → β} (h : r.Yields P) (hf : ∀ a, P a → Q (f a)) :
    (r.map f).Yields Q := by
  cases r with
  | error e => exact error
  | ok found => exact ok (hf _ (h found.1 found.2 rfl))

end Reading.Yields

theorem yields_items_succ {P : Json → Prop} {depth : Nat} (ihValue : ∀ t, (value depth t).Yields P)
    (ihItems : ∀ t, (Json.items depth t).Yields fun items => ∀ item ∈ items, P item)
    (t : Text) : (Json.items (depth + 1) t).Yields fun items => ∀ item ∈ items, P item := by
  rw [Json.items]
  split
  · exact .error
  · rename_i item behind hv
    have here := ihValue t item behind hv
    split
    · exact .ok (by simpa using here)
    · exact (ihItems _).map fun _ h => List.forall_mem_cons.2 ⟨here, h⟩
    · exact .error

theorem yields_members_succ {P : Json → Prop} {depth : Nat} (ihValue : ∀ t, (value depth t).Yields P)
    (ihMembers : ∀ t, (Json.members depth t).Yields fun members => ∀ p ∈ members, P p.2)
    (t : Text) : (Json.members (depth + 1) t).Yields fun members => ∀ p ∈ members, P p.2 := by
  unfold Json.members
  split
  · exact .error
  · rename_i d rest hd
    obtain rfl := Nat.succ.inj hd
    split
    · exact .error
    · split
      · split
        · exact .error
        · rename_i j behind hv
          have here := ihValue _ j behind hv
          split
          · exact .ok (by simpa using here)
          · exact (ihMembers _).map fun _ h => List.forall_mem_cons.2 ⟨here, h⟩
          · exact .error
      · exact .error
  · exact .error

/-- What holds of every value that is read: of the words, the strings and the numbers, of an array if it
holds of its items, and of an object of different names if it holds of its members. -/
structure Composed (P : Json → Prop) : Prop where
  word : ∀ w ∈ words, P w.2
  string : ∀ s, P (.string s)
  number : ∀ t, (number t).Yields P
  array : ∀ items, (∀ item ∈ items, P item) → P (.array items)
  object : ∀ members : List (CodeUnits × Json), (∀ p ∈ members, P p.2) → (members.map Prod.fst).Nodup →
    P (.object members)

namespace Composed

variable {P : Json → Prop} (h : Composed P)

include h

theorem yields_scalar (t : Text) : (scalar t).Yields P := by
  unfold scalar
  split
  · rename_i found hf
    obtain ⟨w, hw, hr⟩ := List.exists_of_findSome?_eq_some hf
    obtain ⟨rest, -, rfl⟩ := Option.map_eq_some_iff.1 hr
    exact .ok (h.word w hw)
  · exact h.number t

theorem yields_value_succ {depth : Nat}
    (ihItems : ∀ t, (Json.items depth t).Yields fun items => ∀ item ∈ items, P item)
    (ihMembers : ∀ t, (Json.members depth t).Yields fun members => ∀ p ∈ members, P p.2)
    (t : Text) : (value (depth + 1) t).Yields P := by
  cases t with
  | nil => exact .error
  | cons c rest =>
    rw [value]
    split
    · exact Reading.Yields.map (P := fun _ => True) (fun _ _ _ => trivial) fun s _ => h.string s
    · split
      · split
        · exact .ok (h.array [] (by simp))
        · exact (ihItems _).map h.array
      · split
        · split
          · exact .ok (h.object [] (by simp) (by simp))
          · -- the last value of a name counts, so that no name stands twice
            refine (ihMembers _).map fun ms hms => h.object _ ?_ ?_
            · exact Pairs.forall_values_putAll hms (by simp)
            · exact Pairs.nodup_names_putAll ms (by simp)
        · exact h.yields_scalar _

/-- What holds of every reader of values, by induction on their common depth. -/
theorem yields_readers (depth : Nat) : (∀ t, (value depth t).Yields P) ∧
    (∀ t, (Json.items depth t).Yields fun items => ∀ item ∈ items, P item) ∧
    ∀ t, (Json.members depth t).Yields fun members => ∀ p ∈ members, P p.2 := by
  induction depth with
  | zero => exact ⟨fun _ => .error, fun _ => .error, fun _ => .error⟩
  | succ depth ih =>
    obtain ⟨ihValue, ihItems, ihMembers⟩ := ih
    exact ⟨h.yields_value_succ ihItems ihMembers, yields_items_succ ihValue ihItems,
      yields_members_succ ihValue ihMembers⟩

theorem of_read (hread : read t = .ok j) : P j := by
  rw [read] at hread
  split at hread
  · exact absurd hread (by simp)
  · rename_i k behind hv
    split at hread
    · obtain rfl := Except.ok.inj hread
      exact (h.yields_readers _).1 _ k behind hv
    · exact absurd hread (by simp)

end Composed

theorem whole?_ne_nil {digits rest : Text} (h : whole? t = some (digits, rest)) : digits ≠ [] := by
  unfold whole? at h
  split at h
  · obtain ⟨rfl, -⟩ := Prod.mk.inj (Option.some.inj h)
    exact List.cons_ne_nil _ _
  · split at h
    · exact absurd h (by simp)
    · rename_i hne
      obtain ⟨rfl, -⟩ := Prod.mk.inj (Option.some.inj h)
      exact hne

theorem readable_number (t : Text) : (number t).Yields Readable := by
  unfold number
  split
  rename_i negative unsigned hs
  split
  · exact .error
  · rename_i digits rest hw
    dsimp only
    split
    · split
      · exact .error
      · -- leading zeros aside, an integer has the digits it is written with
        rename_i short
        refine .ok (readable_of_simple (by simp) (by simp) fun n hn => ?_)
        rw [← Json.int.inj hn, natAbs_signed]
        have count := digitCount_ofDigitChars_le (whole?_ne_nil hw) (whole?_eq_some hw).2
        exact count.trans (Nat.le_of_not_lt short)
    · exact .ok (readable_of_simple (by simp) (by simp) (by simp))

theorem composed_readable : Composed Readable where
  word w hw := by
    have simple : ∀ w ∈ words, (∀ l, w.2 ≠ .array l) ∧ (∀ l, w.2 ≠ .object l) ∧ ∀ n, w.2 ≠ .int n := by
      simp [words]
    obtain ⟨array, object, int⟩ := simple w hw
    exact readable_of_simple array object fun n hn => absurd hn (int n)
  string s := readable_of_simple (by simp) (by simp) (by simp)
  number := readable_number
  array _ := readable_array
  object _ := readable_object

/-- What is read is readable. -/
theorem readable_of_read (h : read t = .ok j) : Readable j := composed_readable.of_read h

end Json

end CurlSnippets
