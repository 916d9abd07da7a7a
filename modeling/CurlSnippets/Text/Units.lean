import CurlSnippets.Text.Basic

/-!
# Code units

A text in code units of sixteen bits.  A character beyond the first plane is two of them, a high half
and a low half.  Not every list of code units is a text: a half can stand alone.  Read in order
(`pieces`), code units are characters and such halves, and nothing of them is lost.
-/

namespace CurlSnippets

/-- A code unit of sixteen bits. -/
abbrev CodeUnit := Fin 0x10000

namespace CodeUnit

/-- The code unit of a number. -/
def ofNat (n : Nat) : CodeUnit := Fin.ofNat 0x10000 n

/-- Whether a code unit is the first half of a character. -/
def isHigh (u : CodeUnit) : Bool := 0xD800 ≤ u.val && u.val ≤ 0xDBFF

/-- Whether a code unit is the second half of a character. -/
def isLow (u : CodeUnit) : Bool := 0xDC00 ≤ u.val && u.val ≤ 0xDFFF

/-- The character of two halves. -/
def join (high low : CodeUnit) : Char :=
  Char.ofNat (0x10000 + (high.val - 0xD800) * 0x400 + (low.val - 0xDC00))

end CodeUnit

/-- A text in code units, or what is none for the halves in it that stand alone. -/
abbrev CodeUnits := List CodeUnit

namespace Text

/-- The code units of one character. -/
def unitsOf (c : Char) : CodeUnits :=
  if c.toNat < 0x10000 then [.ofNat c.toNat]
  else [.ofNat (0xD800 + (c.toNat - 0x10000) / 0x400), .ofNat (0xDC00 + (c.toNat - 0x10000) % 0x400)]

/-- The code units of a text. -/
def units (t : Text) : CodeUnits := t.flatMap unitsOf

instance : Coe Text CodeUnits := ⟨units⟩

end Text

/-- What code units stand for, one after another. -/
inductive Piece where
  | char (c : Char)
  /-- Half a character that stands alone. -/
  | half (u : CodeUnit)
deriving DecidableEq

namespace Piece

/-- A code unit that belongs to no other one. -/
def single (u : CodeUnit) : Piece :=
  if u.isHigh || u.isLow then .half u else .char (Char.ofNat u.val)

/-- The code units of a piece. -/
def units : Piece → CodeUnits
  | .char c => Text.unitsOf c
  | .half u => [u]

/-- The character that a piece is, if it is a whole one. -/
def char? : Piece → Option Char
  | .char c => some c
  | .half _ => none

end Piece

/-- What a list of code units stands for.  A high half with a low half behind it is one character. -/
def pieces : CodeUnits → List Piece
  | [] => []
  | [u] => [Piece.single u]
  | u :: v :: rest =>
    if u.isHigh && v.isLow then .char (CodeUnit.join u v) :: pieces rest
    else Piece.single u :: pieces (v :: rest)

/-! ### Small laws -/

namespace Text

@[simp] theorem units_nil : units [] = [] := rfl

@[simp] theorem units_cons (c : Char) (t : Text) : units (c :: t) = unitsOf c ++ units t := rfl

/-- A character of the first plane is one code unit. -/
theorem unitsOf_of_lt {c : Char} (h : c.toNat < 0x10000) :
    unitsOf c = [.ofNat c.toNat] := if_pos h

/-- Reading a number as a character and taking the number of that gives it back. -/
theorem toNat_ofNat {n : Nat} (h : n.isValidChar) : (Char.ofNat n).toNat = n := by
  rw [Char.ofNat, dif_pos h]
  rfl

end Text

theorem CodeUnit.val_ofNat {n : Nat} (h : n < 0x10000) : (ofNat n).val = n :=
  Nat.mod_eq_of_lt h

/-- The code units of a single piece are the one that it was made of. -/
theorem Piece.units_single (u : CodeUnit) : (Piece.single u).units = [u] := by
  rw [single]
  split
  · rfl
  · rename_i whole
    have bounds : ¬ (0xD800 ≤ u.val ∧ u.val ≤ 0xDFFF) := by
      simp only [CodeUnit.isHigh, CodeUnit.isLow, Bool.or_eq_true, Bool.and_eq_true,
        decide_eq_true_eq] at whole
      omega
    have number : (Char.ofNat u.val).toNat = u.val := by
      refine Text.toNat_ofNat ?_
      show u.val < 0xD800 ∨ 0xDFFF < u.val ∧ u.val < 0x110000
      omega
    rw [units, Text.unitsOf_of_lt (by omega), number]
    exact congrArg (· :: []) (Fin.ext (CodeUnit.val_ofNat u.isLt) : CodeUnit.ofNat u.val = u)

/-- The code units of a character are the two halves that it was joined of. -/
theorem CodeUnit.unitsOf_join {u v : CodeUnit} (high : u.isHigh) (low : v.isLow) :
    Text.unitsOf (join u v) = [u, v] := by
  simp only [isHigh, isLow, Bool.and_eq_true, decide_eq_true_eq] at high low
  have number : (join u v).toNat = 0x10000 + (u.val - 0xD800) * 0x400 + (v.val - 0xDC00) := by
    refine Text.toNat_ofNat ?_
    show _ < 0xD800 ∨ 0xDFFF < _ ∧ _ < 0x110000
    omega
  have first : ofNat (0xD800 + ((join u v).toNat - 0x10000) / 0x400) = u :=
    Fin.ext ((val_ofNat (by omega)).trans (by omega))
  have second : ofNat (0xDC00 + ((join u v).toNat - 0x10000) % 0x400) = v :=
    Fin.ext ((val_ofNat (by omega)).trans (by omega))
  rw [Text.unitsOf, if_neg (by omega), first, second]

/-- Nothing is lost where code units are read. -/
theorem units_pieces (us : CodeUnits) : (pieces us).flatMap Piece.units = us := by
  fun_induction pieces us with
  | case1 => rfl
  | case2 u => simp [Piece.units_single]
  | case3 u v rest halves ih =>
    rw [Bool.and_eq_true] at halves
    rw [List.flatMap_cons, ih]
    exact congrArg (· ++ rest) (CodeUnit.unitsOf_join halves.1 halves.2)
  | case4 u v rest _ ih => rw [List.flatMap_cons, ih, Piece.units_single]; rfl

/-- Only a half stands alone as one. -/
theorem half_of_mem_pieces {u : CodeUnit} {us : CodeUnits} (h : .half u ∈ pieces us) :
    u.isHigh || u.isLow := by
  have single : ∀ {v : CodeUnit}, .half u = Piece.single v → u.isHigh || u.isLow := by
    intro v e
    rw [Piece.single] at e
    split at e
    · rename_i half
      rwa [Piece.half.inj e]
    · cases e
  fun_induction pieces us with
  | case1 => cases h
  | case2 v => exact single (List.mem_singleton.1 h)
  | case3 v w rest _ ih => exact ih ((List.mem_cons.1 h).resolve_left Piece.noConfusion)
  | case4 v w rest _ ih =>
    rcases List.mem_cons.1 h with here | behind
    · exact single here
    · exact ih behind

/-- The code units of a character are read as the character in front of any others. -/
theorem pieces_unitsOf (c : Char) (us : CodeUnits) :
    pieces (Text.unitsOf c ++ us) = .char c :: pieces us := by
  have valid : c.toNat < 0xD800 ∨ 0xDFFF < c.toNat ∧ c.toNat < 0x110000 := c.valid
  rw [Text.unitsOf]
  split
  · rename_i first
    have value := CodeUnit.val_ofNat first
    have whole : (CodeUnit.ofNat c.toNat).isHigh = false ∧ (CodeUnit.ofNat c.toNat).isLow = false := by
      simp only [CodeUnit.isHigh, CodeUnit.isLow, value, Bool.and_eq_false_iff,
        decide_eq_false_iff_not]
      omega
    have single : Piece.single (.ofNat c.toNat) = .char c := by
      simp only [Piece.single, whole, value, Char.ofNat_toNat, Bool.or_self, Bool.false_eq_true,
        if_false]
    cases us with
    | nil => exact congrArg (· :: []) single
    | cons v us =>
      show pieces (_ :: v :: us) = _
      rw [pieces, whole.1, single]
      rfl
  · -- beyond the first plane the two halves make the character again
    rename_i beyond
    have high : (CodeUnit.ofNat (0xD800 + (c.toNat - 0x10000) / 0x400)).val =
        0xD800 + (c.toNat - 0x10000) / 0x400 := CodeUnit.val_ofNat (by omega)
    have low : (CodeUnit.ofNat (0xDC00 + (c.toNat - 0x10000) % 0x400)).val =
        0xDC00 + (c.toNat - 0x10000) % 0x400 := CodeUnit.val_ofNat (by omega)
    have number : 0x10000 + (0xD800 + (c.toNat - 0x10000) / 0x400 - 0xD800) * 0x400 +
        (0xDC00 + (c.toNat - 0x10000) % 0x400 - 0xDC00) = c.toNat := by omega
    show pieces (_ :: _ :: us) = _
    rw [pieces, if_pos, CodeUnit.join, high, low, number, Char.ofNat_toNat]
    simp only [CodeUnit.isHigh, CodeUnit.isLow, high, low, Bool.and_eq_true, decide_eq_true_eq]
    omega

/-- The code units of a text are read as its characters. -/
theorem pieces_units (t : Text) : pieces (Text.units t) = t.map .char := by
  induction t with
  | nil => rfl
  | cons c t ih => rw [Text.units_cons, pieces_unitsOf, ih, List.map_cons]

/-- The characters of a text are whole ones. -/
theorem Piece.mapM_char? (t : Text) : (t.map Piece.char).mapM char? = some t := by
  induction t with
  | nil => rfl
  | cons c t ih => rw [List.map_cons, List.mapM_cons, ih]; rfl

/-- Different texts have different code units. -/
theorem Text.units_inj {t u : Text} : units t = units u ↔ t = u := by
  refine ⟨fun h => ?_, congrArg units⟩
  have same : t.map Piece.char = u.map Piece.char := by rw [← pieces_units, h, pieces_units]
  exact (List.map_inj_right fun _ _ => Piece.char.inj).1 same

end CurlSnippets
