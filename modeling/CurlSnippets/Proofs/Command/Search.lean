import CurlSnippets.Proofs.Command.Layout

/-!
# Searching a command in pieces

A pattern that matches only at places of some kind passes over every text without such a place
(`firstAfter_append`, `allAfter_append`).  In a command of pieces that have such a place at their
beginning at most, a search is a search among the pieces: for the first match `findSome?`
(`firstAfter_spread`), for all matches `filterMap` (`allAfter_spread`).
-/

namespace CurlSnippets.Pattern

open Command

variable {α : Type} {p : Pattern α} {g : Place}

/-- The pattern matches nowhere but at places of a kind. -/
def OnlyAt (p : Pattern α) (g : Place) : Prop :=
  ∀ before t, g before t = false → p before t = none

theorem firstAfter_cons_of_none {before : Option Char} {c : Char} {t : Text}
    (h : p before (c :: t) = none) : p.firstAfter before (c :: t) = p.firstAfter (some c) t := by
  rw [firstAfter, h]

theorem allAfter_cons_of_none {before : Option Char} {c : Char} {t : Text}
    (h : p before (c :: t) = none) : p.allAfter before 0 (c :: t) = p.allAfter (some c) 0 t := by
  rw [allAfter, h]

/-! ### Passing over a text -/

theorem firstAfter_append (hp : p.OnlyAt g) {x rest : Text} {before : Option Char}
    (h : g.occurs rest before x = false) :
    p.firstAfter before (x ++ rest) = p.firstAfter (x.getLast?.or before) rest := by
  induction x generalizing before with
  | nil => rfl
  | cons c x ih =>
    rw [Place.occurs_cons, Bool.or_eq_false_iff] at h
    have step : p.firstAfter before (c :: (x ++ rest)) = p.firstAfter (some c) (x ++ rest) :=
      firstAfter_cons_of_none (hp _ _ h.1)
    rw [List.cons_append, step, ih h.2, List.getLast?_cons]
    cases x.getLast? <;> rfl

theorem allAfter_append (hp : p.OnlyAt g) {x rest : Text} {before : Option Char}
    (h : g.occurs rest before x = false) :
    p.allAfter before 0 (x ++ rest) = p.allAfter (x.getLast?.or before) 0 rest := by
  induction x generalizing before with
  | nil => rfl
  | cons c x ih =>
    rw [Place.occurs_cons, Bool.or_eq_false_iff] at h
    have step : p.allAfter before 0 (c :: (x ++ rest)) = p.allAfter (some c) 0 (x ++ rest) :=
      allAfter_cons_of_none (hp _ _ h.1)
    rw [List.cons_append, step, ih h.2, List.getLast?_cons]
    cases x.getLast? <;> rfl

/-- Nothing is found in a text without a place of the kind. -/
theorem firstAfter_eq_none (hp : p.OnlyAt g) (nil : ∀ b, g b [] = false) {x : Text}
    {before : Option Char} (h : g.occurs [] before x = false) : p.firstAfter before x = none := by
  have pass := @firstAfter_append _ p g hp x [] before h
  rw [List.append_nil] at pass
  rw [pass, firstAfter, hp _ _ (nil _), Option.map_none]

/-- What is found is captured at some place of the text. -/
theorem exists_of_firstAfter {before : Option Char} {t : Text} {a : α}
    (h : p.firstAfter before t = some a) : ∃ b u behind, u <:+ t ∧ p b u = some (a, behind) := by
  induction t generalizing before with
  | nil =>
    obtain ⟨⟨_, behind⟩, hp, rfl⟩ := Option.map_eq_some_iff.1 h
    exact ⟨before, [], behind, List.suffix_rfl, hp⟩
  | cons c t ih =>
    rw [firstAfter] at h
    split at h
    · -- the match is here
      rename_i found behind hp
      obtain rfl := Option.some.inj h
      exact ⟨before, c :: t, behind, List.suffix_rfl, hp⟩
    · -- it is further on
      obtain ⟨b, u, behind, hu, hp⟩ := ih h
      exact ⟨b, u, behind, hu.trans (List.suffix_cons c t), hp⟩

/-- What belongs to the previous match is passed over unseen. -/
theorem allAfter_taken (x rest : Text) (before : Option Char) :
    p.allAfter before x.length (x ++ rest) = p.allAfter (x.getLast?.or before) 0 rest := by
  induction x generalizing before with
  | nil => rfl
  | cons c x ih =>
    rw [List.length_cons, List.cons_append, allAfter, ih, List.getLast?_cons]
    cases x.getLast? <;> rfl

/-- A match that takes the rest of a command is the only one, if there is no place before it. -/
theorem all_append_last (hp : p.OnlyAt g) {head piece : Text} {a : α} {c : Char} {x : Text}
    (hhead : g.occurs (' ' :: piece) none head = false) (space : ∀ b t, g b (' ' :: t) = false)
    (hx : piece = c :: x) (last : p (some ' ') piece = some (a, [])) :
    p.all (head ++ ' ' :: piece) = [(piece, a)] := by
  subst hx
  -- everything behind the first character of the match belongs to it
  have behind : ∀ b, p.allAfter b x.length x = [] := by
    intro b
    have taken := allAfter_taken (p := p) x [] b
    rwa [List.append_nil] at taken
  rw [all, allAfter_append hp hhead, allAfter_cons_of_none (hp _ _ (space _ _)), allAfter, last]
  simp [behind]

/-! ### Commands in pieces -/

/-- A piece that has a place of a kind at its beginning at most, whatever piece or end follows. -/
def Headed (g : Place) (piece : Text) : Prop :=
  ∃ c x, piece = c :: x ∧ ∀ rest, Parted rest → g.occurs rest (some c) x = false

variable {ι : Type} {items : List ι} {text : ι → Text} {read : ι → Option α}

theorem parted_spread (pieces : List Text) : Parted (spread pieces) := by
  cases pieces with
  | nil => exact parted_nil
  | cons piece pieces => exact parted_cons (by decide) _

/-- The first match in a command of pieces is that of the first piece that has one, whatever it leaves of
the piece. -/
theorem firstAfter_spread (hp : p.OnlyAt g) (nil : ∀ b, g b [] = false)
    (space : ∀ b t, g b (' ' :: t) = false) (headed : ∀ i ∈ items, Headed g (text i))
    (reads : ∀ i ∈ items, ∀ rest, Parted rest →
      (p (some ' ') (text i ++ rest)).map Prod.fst = read i)
    (before : Option Char) :
    p.firstAfter before (spread (items.map text)) = items.findSome? read := by
  induction items generalizing before with
  | nil => simp [firstAfter, hp _ _ (nil before)]
  | cons i items ih =>
    obtain ⟨c, x, hi, hx⟩ := headed i (by simp)
    have parted := parted_spread (items.map text)
    have here := reads i (by simp) _ parted
    have tail := ih (fun j hj => headed j (List.mem_cons_of_mem _ hj))
      fun j hj => reads j (List.mem_cons_of_mem _ hj)
    rw [List.map_cons, spread_cons, firstAfter_cons_of_none (hp _ _ (space _ _)), List.findSome?_cons,
      ← here, hi, List.cons_append, firstAfter]
    -- a piece without a match at its beginning has none at all, and is passed over
    cases p (some ' ') (c :: (x ++ spread (items.map text))) with
    | none => exact (firstAfter_append hp (hx _ parted)).trans (tail _)
    | some found => rfl

/-- The matches in a command of pieces are those of its pieces. -/
theorem allAfter_spread (hp : p.OnlyAt g) (space : ∀ b t, g b (' ' :: t) = false)
    (headed : ∀ i ∈ items, Headed g (text i))
    (reads : ∀ i ∈ items, ∀ rest, Parted rest →
      p (some ' ') (text i ++ rest) = (read i).map fun a => (a, rest))
    (before : Option Char) :
    p.allAfter before 0 (spread (items.map text)) =
      items.filterMap fun i => (read i).map (text i, ·) := by
  induction items generalizing before with
  | nil => rfl
  | cons i items ih =>
    obtain ⟨c, x, hi, hx⟩ := headed i (by simp)
    have parted := parted_spread (items.map text)
    have here := reads i (by simp) _ parted
    have tail := ih (fun j hj => headed j (List.mem_cons_of_mem _ hj))
      fun j hj => reads j (List.mem_cons_of_mem _ hj)
    rw [hi, List.cons_append] at here
    rw [List.map_cons, spread_cons, allAfter_cons_of_none (hp _ _ (space _ _)), hi, List.cons_append,
      allAfter, here, List.filterMap_cons, hi]
    cases read i with
    | none => exact (allAfter_append hp (hx _ parted)).trans (tail _)
    | some a =>
      -- the match takes the piece and nothing of what follows it
      generalize spread (items.map text) = rest at parted tail
      have taken : (x ++ rest).length - rest.length = x.length := by simp
      have written : (c :: (x ++ rest)).take ((x ++ rest).length + 1 - rest.length) = c :: x := by
        rw [show (x ++ rest).length + 1 - rest.length = x.length + 1 by simp; omega]
        simp
      simp only [Option.map_some, taken, written, allAfter_taken, tail]

end CurlSnippets.Pattern
