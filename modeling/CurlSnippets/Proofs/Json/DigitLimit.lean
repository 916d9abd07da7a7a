import CurlSnippets.Json.Reader
import CurlSnippets.Proofs.Text.Laws
import Mathlib.Data.List.Infix
import Mathlib.Data.List.TakeWhile

/-!
# Integers beyond the digit limit

Reading JSON goes through a text from left to right: whatever a reader leaves is an end of what it was
given, and an integer that it refuses for its length is a run of digits in it (`Reading.Within`).  So
only a text with a run of digits beyond the limit is refused for its length (`hasLongRun_of_read`), and
an integer of that kind alone is (`read_digits`).
-/

namespace CurlSnippets.Json

variable {α β : Type} {t u : Text}

/-- A run of digits that is longer than the limit stands somewhere in a text. -/
def HasLongRun (digits : Nat) (t : Text) : Prop :=
  digitLimit < digits ∧ ∃ run, run <:+: t ∧ run.length = digits ∧ ∀ c ∈ run, c.isDigit

theorem HasLongRun.mono {digits : Nat} (h : HasLongRun digits u) (hu : u <:+ t) :
    HasLongRun digits t := by
  obtain ⟨long, run, inside, length, all⟩ := h
  exact ⟨long, run, inside.trans hu.isInfix, length, all⟩

/-- What a reader may say about a text: it leaves an end of it, and refuses an integer only if there
is a long run of digits. -/
def Reading.Within (t : Text) : Reading α → Prop
  | .ok (_, behind) => behind <:+ t
  | .error .syntaxError => True
  | .error (.digitLimit digits) => HasLongRun digits t

namespace Reading

theorem Within.mono {r : Reading α} (h : r.Within u) (hu : u <:+ t) : r.Within t := by
  match r, h with
  | .ok _, h => exact List.IsSuffix.trans h hu
  | .error .syntaxError, _ => trivial
  | .error (.digitLimit _), h => exact HasLongRun.mono h hu

theorem Within.map {r : Reading α} (h : r.Within t) (f : α → β) : (r.map f).Within t := by
  match r, h with
  | .ok _, h => exact h
  | .error .syntaxError, _ => trivial
  | .error (.digitLimit _), h => exact h

/-- An error says the same of a text whatever was to be read. -/
theorem Within.error {e : ReadError} (h : Within t (.error e : Reading α)) :
    Within t (.error e : Reading β) := by
  cases e <;> exact h

end Reading

theorem suffix_cons_of_suffix {c : Char} (h : u <:+ t) : u <:+ c :: t :=
  h.trans (List.suffix_cons c t)

theorem skip_suffix (t : Text) : skip t <:+ t := List.dropWhile_suffix _

theorem suffix_of_skip_eq {c : Char} (h : skip t = c :: u) : u <:+ t :=
  (List.suffix_cons c u).trans (h ▸ skip_suffix t)

/-! ### Strings and numbers -/

theorem within_stringFrom (t : Text) : (stringFrom t).Within t := by
  fun_induction stringFrom t with
  | case1 => trivial
  | case2 rest => exact List.suffix_cons _ rest
  | case3 => trivial
  | case4 a b c d rest code hcode ih =>
    exact (ih.map _).mono ⟨['\\', 'u', a, b, c, d], rfl⟩
  | case5 => trivial
  | case6 c rest _ e he ih => exact (ih.map _).mono ⟨['\\', c], rfl⟩
  | case7 => trivial
  | case8 c rest _ _ _ _ ih => exact (ih.map _).mono (List.suffix_cons c rest)

/-- The digits before the point are digits, at the front of the text. -/
theorem whole?_eq_some {digits rest : Text} (h : whole? t = some (digits, rest)) :
    t = digits ++ rest ∧ ∀ c ∈ digits, c.isDigit := by
  unfold whole? at h
  split at h
  · obtain ⟨rfl, rfl⟩ := Prod.mk.inj (Option.some.inj h)
    exact ⟨rfl, by simp⟩
  · split at h
    · exact absurd h (by simp)
    · obtain ⟨rfl, rfl⟩ := Prod.mk.inj (Option.some.inj h)
      refine ⟨List.takeWhile_append_dropWhile.symm, fun c hc => List.mem_takeWhile_imp hc⟩

theorem fraction_suffix (t : Text) : (fraction t).2 <:+ t := by
  unfold fraction
  split
  · split
    · exact List.suffix_rfl
    · exact suffix_cons_of_suffix (List.dropWhile_suffix _)
  · exact List.suffix_rfl

theorem cutSign_suffix (t : Text) : (Numeral.cutSign t).2 <:+ t := by
  unfold Numeral.cutSign
  split
  · exact List.suffix_cons _ _
  · exact List.suffix_cons _ _
  · exact List.suffix_rfl

theorem exponent_suffix (t : Text) : (exponent t).2 <:+ t := by
  unfold exponent
  split
  · exact List.suffix_rfl
  · rename_i c rest
    split
    · rcases hs : Numeral.cutSign rest with ⟨negative, unsigned⟩
      -- with no digit behind the sign it is no exponent
      have signless : unsigned <:+ rest := by
        have := cutSign_suffix rest
        rwa [hs] at this
      dsimp only
      split
      · exact List.suffix_rfl
      · exact suffix_cons_of_suffix ((List.dropWhile_suffix _).trans signless)
    · exact List.suffix_rfl

theorem within_number (t : Text) : (number t).Within t := by
  unfold number
  split
  rename_i negative unsigned hs
  have signless : unsigned <:+ t := by
    split at hs
    · obtain ⟨-, rfl⟩ := Prod.mk.inj hs
      exact List.suffix_cons _ _
    · obtain ⟨-, rfl⟩ := Prod.mk.inj hs
      exact List.suffix_rfl
  split
  · trivial
  · rename_i digits rest hw
    obtain ⟨rfl, all⟩ := whole?_eq_some hw
    have behind : (exponent (fraction rest).2).2 <:+ t :=
      (exponent_suffix _).trans ((fraction_suffix rest).trans
        ((List.suffix_append digits rest).trans signless))
    dsimp only
    split
    · split
      · -- the digits before the point are the run
        rename_i long
        exact HasLongRun.mono ⟨long, digits, (List.prefix_append digits rest).isInfix, rfl, all⟩
          signless
      · exact behind
    · exact behind

/-! ### Values -/

theorem within_scalar (t : Text) : (scalar t).Within t := by
  unfold scalar
  split
  · rename_i found hf
    obtain ⟨w, -, hw⟩ := List.exists_of_findSome?_eq_some hf
    obtain ⟨rest, hr, rfl⟩ := Option.map_eq_some_iff.1 hw
    rw [Text.eq_append_of_after? hr]
    exact List.suffix_append _ _
  · exact within_number t

theorem within_value_succ {depth : Nat} (ihItems : ∀ t, (items depth t).Within t)
    (ihMembers : ∀ t, (members depth t).Within t) (t : Text) : (value (depth + 1) t).Within t := by
  cases t with
  | nil => trivial
  | cons c rest =>
    rw [value]
    split
    · exact ((within_stringFrom rest).map _).mono (List.suffix_cons c rest)
    · split
      · split
        · rename_i behind hs
          exact suffix_cons_of_suffix (suffix_of_skip_eq hs)
        · exact ((ihItems _).map _).mono (suffix_cons_of_suffix (skip_suffix rest))
      · split
        · split
          · rename_i behind hs
            exact suffix_cons_of_suffix (suffix_of_skip_eq hs)
          · exact ((ihMembers _).map _).mono (suffix_cons_of_suffix (skip_suffix rest))
        · exact within_scalar _

theorem within_items_succ {depth : Nat} (ihValue : ∀ t, (value depth t).Within t)
    (ihItems : ∀ t, (items depth t).Within t) (t : Text) : (items (depth + 1) t).Within t := by
  have first := ihValue t
  rw [items]
  split
  · rename_i e he
    rw [he] at first
    exact Reading.Within.error first
  · rename_i item behind hv
    rw [hv] at first
    split
    · rename_i rest hs
      exact (suffix_of_skip_eq hs).trans first
    · rename_i rest hs
      exact ((ihItems _).map _).mono ((skip_suffix rest).trans ((suffix_of_skip_eq hs).trans first))
    · trivial

theorem within_members_succ {depth : Nat} (ihValue : ∀ t, (value depth t).Within t)
    (ihMembers : ∀ t, (members depth t).Within t) (t : Text) :
    (members (depth + 1) t).Within t := by
  unfold members
  split
  · trivial
  · rename_i d rest hd
    obtain rfl := Nat.succ.inj hd
    -- the name, the colon, the value, and then a comma or the closing brace
    have name := (within_stringFrom rest).mono (List.suffix_cons '"' rest)
    split
    · rename_i e he
      rw [he] at name
      exact Reading.Within.error name
    · rename_i n behind hn
      rw [hn] at name
      split
      · rename_i afterColon hc
        have colon : skip afterColon <:+ '"' :: rest :=
          (skip_suffix _).trans ((suffix_of_skip_eq hc).trans name)
        have member := (ihValue (skip afterColon)).mono colon
        split
        · rename_i e he
          rw [he] at member
          exact Reading.Within.error member
        · rename_i j behindMember hm
          rw [hm] at member
          split
          · rename_i closed hs
            exact (suffix_of_skip_eq hs).trans member
          · rename_i next hs
            exact ((ihMembers _).map _).mono
              ((skip_suffix next).trans ((suffix_of_skip_eq hs).trans member))
          · trivial
      · trivial
  · trivial

/-- What holds of every reader of values, by induction on their common depth. -/
theorem within_readers (depth : Nat) : (∀ t, (value depth t).Within t) ∧
    (∀ t, (items depth t).Within t) ∧ ∀ t, (members depth t).Within t := by
  induction depth with
  | zero => exact ⟨fun _ => trivial, fun _ => trivial, fun _ => trivial⟩
  | succ depth ih =>
    obtain ⟨ihValue, ihItems, ihMembers⟩ := ih
    exact ⟨within_value_succ ihItems ihMembers, within_items_succ ihValue ihItems,
      within_members_succ ihValue ihMembers⟩

/-- Only a text with a long run of digits is refused for its length. -/
theorem hasLongRun_of_read {digits : Nat} (h : read t = .error (.digitLimit digits)) :
    HasLongRun digits t := by
  have within := (within_readers (2 * t.length + 2)).1 (skip t)
  rw [read] at h
  split at h
  · rename_i e he
    rw [he, Except.error.inj h] at within
    exact within.mono (skip_suffix t)
  · split at h <;> exact absurd h (by simp)

/-! ### Digits alone -/

/-- A digit begins none of the words, and neither space nor anything with brackets or quotes. -/
theorem startsNumber_of_isDigit {c : Char} (h : c.isDigit) : isSpace c = false ∧ c ≠ '"' ∧ c ≠ '[' ∧
    c ≠ '\x7b' ∧ c ≠ '-' ∧ ∀ w ∈ words, w.1.head? ≠ some c := by
  have other : ∀ d : Char, d.isDigit = false → c ≠ d := fun _ => Text.ne_of_holds h
  refine ⟨?_, other _ (by decide), other _ (by decide), other _ (by decide), other _ (by decide), ?_⟩
  · simp [isSpace, other ' ' (by decide), other '\t' (by decide), other '\n' (by decide),
      other '\r' (by decide)]
  · -- every word begins with a letter
    have letters : ∀ w ∈ words, w.1.head?.any Char.isDigit = false := by decide
    intro w hw e
    have first := letters w hw
    rw [e, Option.any_some, h] at first
    exact Bool.noConfusion first

theorem scalar_of_isDigit {c : Char} (h : c.isDigit) (rest : Text) :
    scalar (c :: rest) = number (c :: rest) := by
  have none : (words.findSome? fun w =>
      (Text.after? w.1 (c :: rest)).map fun behind => (w.2, behind)) = none := by
    refine List.findSome?_eq_none_iff.2 fun w hw => ?_
    have first := (startsNumber_of_isDigit h).2.2.2.2.2 w hw
    have nonempty : w.1 ≠ [] := (by decide : ∀ w ∈ words.map Prod.fst, w ≠ []) w.1
      (List.mem_map_of_mem hw)
    cases hw1 : w.1 with
    | nil => exact absurd hw1 nonempty
    | cons d word =>
      rw [hw1] at first
      have differs : d ≠ c := fun e => first (by rw [e]; rfl)
      rw [Text.after?, if_neg differs]
      rfl
  rw [scalar, none]

/-- An integer beyond the limit is refused where nothing else stands in the text. -/
theorem read_digits {c : Char} {rest : Text} (hc : c ≠ '0') (all : ∀ d ∈ c :: rest, d.isDigit)
    (long : digitLimit < (c :: rest).length) :
    read (c :: rest) = .error (.digitLimit (c :: rest).length) := by
  have digit : c.isDigit := all c (by simp)
  obtain ⟨space, quote, bracket, brace, minus, -⟩ := startsNumber_of_isDigit digit
  have start : skip (c :: rest) = c :: rest := by rw [skip, List.dropWhile_cons, space]; rfl
  have taken : (c :: rest).takeWhile Char.isDigit = c :: rest := List.takeWhile_eq_self_iff.2 all
  have left : (c :: rest).dropWhile Char.isDigit = [] := List.dropWhile_eq_nil_iff.2 all
  have whole : whole? (c :: rest) = some (c :: rest, []) := by
    unfold whole?
    split
    · rename_i e
      exact absurd (List.cons.inj e).1 hc
    · rw [taken, left]
  have number : number (c :: rest) = .error (.digitLimit (c :: rest).length) := by
    unfold Json.number
    split
    rename_i negative unsigned hs
    split at hs
    · rename_i e
      exact absurd (List.cons.inj e).1 minus
    · obtain ⟨rfl, rfl⟩ := Prod.mk.inj hs
      rw [whole]
      exact if_pos long
  have steps : 2 * (c :: rest).length + 2 = (2 * (c :: rest).length + 1) + 1 := rfl
  rw [read, start, steps, value, if_neg quote, if_neg bracket, if_neg brace,
    scalar_of_isDigit digit, number]

end CurlSnippets.Json
