import CurlSnippets.Text.Blank
import CurlSnippets.Text.Quoted
import CurlSnippets.Text.Word
import Mathlib.Data.List.Basic
import Mathlib.Data.List.DropRight
import Mathlib.Data.List.TakeWhile

/-!
# Laws of texts

What cutting, trimming and looking inside do to texts that are put together by appending, and that
no character of a word separates words (`isBlank_of_isWord`); and which digits a number has in
hexadecimal (`hex_succ`).
-/

namespace CurlSnippets.Text

/-! ### Cutting at a separator -/

theorem cut_append {sep : Char} {t : Text} (h : sep ∉ t) (rest : Text) :
    cut sep (t ++ sep :: rest) = (t, some rest) := by
  induction t with
  | nil => simp [cut]
  | cons c t ih =>
    obtain ⟨hc, ht⟩ := not_or.1 fun h' => h (List.mem_cons.2 h')
    simp [cut, Ne.symm hc, ih ht]

theorem cut_of_notMem {sep : Char} {t : Text} (h : sep ∉ t) : cut sep t = (t, none) := by
  induction t with
  | nil => rfl
  | cons c t ih =>
    obtain ⟨hc, ht⟩ := not_or.1 fun h' => h (List.mem_cons.2 h')
    simp [cut, Ne.symm hc, ih ht]

/-- Cutting adds no character. -/
theorem notMem_cut {sep c : Char} {t : Text} (h : c ∉ t) :
    c ∉ (cut sep t).1 ++ (cut sep t).2.getD [] := by
  intro inside
  refine h ?_
  rw [cut_eq sep t]
  rcases List.mem_append.1 inside with before | behind
  · exact List.mem_append_left _ before
  · refine List.mem_append_right _ ?_
    cases hr : (cut sep t).2 with
    | none => rw [hr] at behind; exact absurd behind List.not_mem_nil
    | some rest => rw [hr] at behind; exact List.mem_cons_of_mem sep behind

/-! ### Joining -/

theorem join_cons (sep piece : Text) (pieces : List Text) :
    join sep (piece :: pieces) = piece ++ pieces.flatMap (sep ++ ·) := by
  induction pieces generalizing piece with
  | nil => simp [join]
  | cons next pieces ih =>
    have step : join sep (piece :: next :: pieces) = piece ++ sep ++ join sep (next :: pieces) := rfl
    rw [step, ih, List.flatMap_cons, List.append_assoc, List.append_assoc]

/-- What stands behind a separator may as well be counted to the next piece. -/
theorem join_cons_gap (sep : Char) (gap piece : Text) (pieces : List Text) :
    join (sep :: gap) (piece :: pieces) = join [sep] (piece :: pieces.map (gap ++ ·)) := by
  rw [join_cons, join_cons, List.flatMap_map]
  simp only [List.cons_append, List.nil_append]

theorem notMem_join {sep : Text} {c : Char} (hsep : c ∉ sep) {pieces : List Text}
    (h : ∀ p ∈ pieces, c ∉ p) : c ∉ join sep pieces := by
  cases pieces with
  | nil => exact List.not_mem_nil
  | cons piece pieces =>
    obtain ⟨first, rest⟩ := List.forall_mem_cons.1 h
    rw [join_cons, List.mem_append, List.mem_flatMap]
    rintro (inside | ⟨p, hp, inside⟩)
    · exact first inside
    · exact (List.mem_append.1 inside).elim hsep (rest p hp)

/-! ### Splitting -/

/-- Splitting adds no character. -/
theorem notMem_of_mem_split {sep c : Char} {t : Text} (h : c ∉ t) :
    ∀ p ∈ split sep t, c ∉ p := by
  induction t with
  | nil => simp [split]
  | cons d t ih =>
    obtain ⟨hd, ht⟩ := not_or.1 fun h' => h (List.mem_cons.2 h')
    have tail := ih ht
    rw [split]
    split
    · exact List.forall_mem_cons.2 ⟨List.not_mem_nil, tail⟩
    · split
      · exact List.forall_mem_singleton.2 (by simpa using hd)
      · -- the character goes to the first of the pieces behind it
        rename_i piece pieces hs
        rw [hs] at tail
        obtain ⟨first, rest⟩ := List.forall_mem_cons.1 tail
        exact List.forall_mem_cons.2 ⟨by simp [hd, first], rest⟩

theorem split_of_notMem {sep : Char} {t : Text} (h : sep ∉ t) : split sep t = [t] := by
  induction t with
  | nil => rfl
  | cons c t ih =>
    obtain ⟨hc, ht⟩ := not_or.1 fun h' => h (List.mem_cons.2 h')
    rw [split, if_neg (Ne.symm hc), ih ht]

theorem split_append {sep : Char} {t : Text} (h : sep ∉ t) (rest : Text) :
    split sep (t ++ sep :: rest) = t :: split sep rest := by
  induction t with
  | nil => simp [split]
  | cons c t ih =>
    obtain ⟨hc, ht⟩ := not_or.1 fun h' => h (List.mem_cons.2 h')
    rw [List.cons_append, split, if_neg (Ne.symm hc), ih ht]

/-- Pieces without the separator that is put between them are the pieces of what they are joined to. -/
theorem split_join {sep : Char} : ∀ {pieces : List Text}, pieces ≠ [] → (∀ p ∈ pieces, sep ∉ p) →
    split sep (join [sep] pieces) = pieces
  | [], ne, _ => absurd rfl ne
  | [piece], _, h => split_of_notMem (h piece List.mem_cons_self)
  | piece :: next :: pieces, _, h => by
    have step : join [sep] (piece :: next :: pieces) =
        piece ++ sep :: join [sep] (next :: pieces) := by simp [join]
    have others : ∀ p ∈ next :: pieces, sep ∉ p := fun p hp => h p (List.mem_cons_of_mem _ hp)
    have rest := split_join (List.cons_ne_nil next pieces) others
    rw [step, split_append (h piece List.mem_cons_self), rest]

/-! ### Runs of characters -/

section Runs

variable {p : Char → Bool} {c : Char} (stop : p c = false)

include stop

/-- A run ends at a character that does not belong to it. -/
theorem takeWhile_append_cons (t rest : Text) :
    (t ++ c :: rest).takeWhile p = t.takeWhile p := by
  induction t with
  | nil => simp [stop]
  | cons d t ih => rw [List.cons_append, List.takeWhile_cons, List.takeWhile_cons, ih]

theorem dropWhile_append_cons (t rest : Text) :
    (t ++ c :: rest).dropWhile p = t.dropWhile p ++ c :: rest := by
  induction t with
  | nil => simp [stop]
  | cons d t ih =>
    rw [List.cons_append, List.dropWhile_cons, List.dropWhile_cons, ih]
    split <;> rfl

/-- A whole run and what follows it. -/
theorem run_append {t : Text} (all : ∀ d ∈ t, p d) (rest : Text) :
    (t ++ c :: rest).takeWhile p = t ∧ (t ++ c :: rest).dropWhile p = c :: rest := by
  rw [takeWhile_append_cons stop, List.takeWhile_eq_self_iff.2 all, dropWhile_append_cons stop,
    List.dropWhile_eq_nil_iff.2 all, List.nil_append]
  exact ⟨rfl, rfl⟩

end Runs

/-- A whole run and what follows it, if that does not go on with the run. -/
theorem run_append_of_head? {p : Char → Bool} {t rest : Text} (all : ∀ d ∈ t, p d)
    (stop : ∀ c ∈ rest.head?, p c = false) :
    (t ++ rest).takeWhile p = t ∧ (t ++ rest).dropWhile p = rest := by
  cases rest with
  | nil =>
    rw [List.append_nil]
    exact ⟨List.takeWhile_eq_self_iff.2 all, List.dropWhile_eq_nil_iff.2 all⟩
  | cons c rest => exact run_append (stop c rfl) all rest

/-- Characters that a test tells apart are two. -/
theorem ne_of_holds {p : Char → Bool} {c d : Char} (h : p c) (hd : p d = false) : c ≠ d := by
  rintro rfl
  exact Bool.noConfusion (h.symm.trans hd)

/-! ### Looking inside -/

theorem after?_cons (s : Char) (start : Text) (c : Char) (t : Text) :
    after? (s :: start) (c :: t) = if s = c then after? start t else none := rfl

/-- What a text begins with ends before a character that does not occur in it. -/
theorem after?_append_of_notMem {start : Text} {c : Char} (h : c ∉ start) (x y : Text) :
    after? start (x ++ c :: y) = (after? start x).map (· ++ c :: y) := by
  induction start generalizing x with
  | nil => rfl
  | cons s start ih =>
    obtain ⟨hc, hs⟩ := not_or.1 fun h' => h (List.mem_cons.2 h')
    cases x with
    | nil =>
      -- nothing is left but the character, which the start does not have
      simp [after?_cons, after?, Ne.symm hc]
    | cons d x =>
      by_cases hd : s = d
      · simp [after?_cons, hd, ih hs]
      · simp [after?_cons, hd]

theorem beginsWith_append_of_notMem {start : Text} {c : Char} (h : c ∉ start) (x y : Text) :
    beginsWith start (x ++ c :: y) = beginsWith start x := by
  rw [beginsWith, after?_append_of_notMem h, Option.isSome_map, beginsWith]

theorem beginsWith_iff {start t : Text} : beginsWith start t ↔ start <+: t := by
  rw [beginsWith, Option.isSome_iff_exists]
  constructor
  · rintro ⟨rest, h⟩
    exact ⟨rest, (eq_append_of_after? h).symm⟩
  · rintro ⟨rest, rfl⟩
    exact ⟨rest, after?_append start rest⟩

theorem occursIn_iff {part t : Text} : occursIn part t ↔ part <:+: t := by
  induction t with
  | nil => rw [occursIn, List.isEmpty_iff, List.infix_nil]
  | cons c t ih => rw [occursIn, Bool.or_eq_true, beginsWith_iff, ih, List.infix_cons_iff]

/-! ### Trimming -/

theorem trim_eq (t : Text) : trim t = (t.dropWhile isBlank).rdropWhile isBlank := rfl

/-- Whether a character that may be there is not blank can be decided. -/
theorem all_not_isBlank_iff {o : Option Char} :
    o.all (fun c => !isBlank c) ↔ ∀ c ∈ o, isBlank c = false := by
  cases o <;> simp

/-- A text with no blank at either end is trimmed already. -/
theorem trim_eq_self {t : Text} (first : ∀ c ∈ t.head?, isBlank c = false)
    (last : ∀ c ∈ t.getLast?, isBlank c = false) : trim t = t := by
  have front : t.dropWhile isBlank = t := by
    cases t with
    | nil => rfl
    | cons c t => simp [first c (by simp)]
  have back : t.rdropWhile isBlank = t := by
    refine List.rdropWhile_eq_self_iff.2 fun hne => ?_
    simpa using last _ (List.getLast?_eq_some_getLast hne)
  rw [trim_eq, front, back]

section Blanks

variable {blanks : Text} (h : ∀ c ∈ blanks, isBlank c)

include h

theorem trim_blanks_append (t : Text) : trim (blanks ++ t) = trim t := by
  rw [trim_eq, List.dropWhile_append_of_pos h, trim_eq]

theorem trim_append_blanks (t : Text) : trim (t ++ blanks) = trim t := by
  have back : ∀ c ∈ blanks.reverse, isBlank c := fun c hc => h c (List.mem_reverse.1 hc)
  rw [trim_eq, trim_eq, List.dropWhile_append]
  split
  · -- nothing but blanks
    rename_i none
    rw [List.isEmpty_iff.1 none, List.dropWhile_eq_nil_iff.2 h]
  · rw [List.rdropWhile, List.reverse_append, List.dropWhile_append_of_pos back, List.rdropWhile]

end Blanks

/-- Blanks at either end are all that is dropped. -/
theorem exists_trim (t : Text) : ∃ x y, (∀ c ∈ x, isBlank c) ∧ (∀ c ∈ y, isBlank c) ∧
    t = x ++ (trim t ++ y) := by
  have front : t.takeWhile isBlank ++ t.dropWhile isBlank = t := List.takeWhile_append_dropWhile
  have back : trim t ++ (t.dropWhile isBlank).rtakeWhile isBlank = t.dropWhile isBlank :=
    List.rdropWhile_append_rtakeWhile
  refine ⟨t.takeWhile isBlank, (t.dropWhile isBlank).rtakeWhile isBlank,
    fun c => List.mem_takeWhile_imp, fun c => List.mem_rtakeWhile_imp, ?_⟩
  rw [back, front]

theorem trim_infix (t : Text) : trim t <:+: t := by
  obtain ⟨x, y, -, -, split⟩ := exists_trim t
  exact ⟨x, y, by rw [List.append_assoc, ← split]⟩

/-- No blank is left in front. -/
theorem isBlank_head?_trim (t : Text) : ∀ c ∈ (trim t).head?, isBlank c = false := by
  intro c hc
  obtain ⟨u, hu⟩ : trim t <+: t.dropWhile isBlank := List.rdropWhile_prefix _ _
  have first : (t.dropWhile isBlank).head? = some c := by
    rw [← hu, List.head?_append, Option.mem_def.1 hc, Option.some_or]
  rw [← List.find?_not_eq_head?_dropWhile] at first
  simpa using List.find?_some first

/-- No blank is left at the end. -/
theorem isBlank_getLast?_trim (t : Text) : ∀ c ∈ (trim t).getLast?, isBlank c = false := by
  intro c hc
  -- there is a last character
  have hne : trim t ≠ [] := by
    intro e
    rw [e] at hc
    exact absurd hc (by simp)
  rw [List.getLast?_eq_some_getLast hne, Option.mem_some_iff] at hc
  subst hc
  exact Bool.eq_false_iff.2 (List.rdropWhile_last_not isBlank (t.dropWhile isBlank) hne)

@[simp] theorem trim_space_cons (t : Text) : trim (' ' :: t) = trim t := by
  have space : ∀ c ∈ [' '], isBlank c := List.forall_mem_singleton.2 (by decide)
  exact trim_blanks_append space t

/-! ### Blanks and words -/

/-- The code points of the blanks. -/
def blankCodes : List Nat :=
  [9, 10, 11, 12, 13, 28, 29, 30, 31, 32, 0x85, 0xA0, 0x1680, 0x2000, 0x2001, 0x2002, 0x2003,
    0x2004, 0x2005, 0x2006, 0x2007, 0x2008, 0x2009, 0x200A, 0x2028, 0x2029, 0x202F, 0x205F, 0x3000]

theorem toNat_mem_blankCodes {c : Char} (h : isBlank c) : c.toNat ∈ blankCodes := by
  simp only [isBlank, Bool.or_eq_true, Bool.and_eq_true, decide_eq_true_eq] at h
  simp only [blankCodes, List.mem_cons, List.not_mem_nil, or_false]
  omega

theorem isWord_eq_false_of_mem_blankCodes :
    ∀ n ∈ blankCodes, isWord (Char.ofNat n) = false := by decide +kernel

/-- No character of a word is blank. -/
theorem isBlank_of_isWord {c : Char} (h : isWord c) : isBlank c = false := by
  by_contra hb
  have hw := isWord_eq_false_of_mem_blankCodes _ (toNat_mem_blankCodes (by simpa using hb))
  rw [Char.ofNat_toNat, h] at hw
  exact Bool.noConfusion hw

/-! ### Hexadecimal digits -/

theorem hex_one {n : Nat} (h : n < 16) : hex 1 n = [n.digitChar] := by
  rw [hex, Nat.toDigits_of_lt_base h]
  rfl

/-- The last digit is the rest by sixteen; the digits before it, and the zeros, are those of the
quotient. -/
theorem hex_succ (width n : Nat) :
    hex (width + 2) n = hex (width + 1) (n / 16) ++ [(n % 16).digitChar] := by
  simp only [hex, padLeft, fill]
  by_cases small : n < 16
  · -- one digit, and zeros for all others
    rw [Nat.toDigits_of_lt_base small, Nat.div_eq_of_lt small, Nat.mod_eq_of_lt small,
      Nat.toDigits_of_lt_base (by decide)]
    show List.replicate (width + 1) '0' ++ _ = (List.replicate width '0' ++ ['0']) ++ _
    rw [List.replicate_succ']
  · have zeros : width + 2 - ((Nat.toDigits 16 (n / 16)).length + 1) =
        width + 1 - (Nat.toDigits 16 (n / 16)).length := by omega
    rw [Nat.toDigits_of_base_le (by decide) (Nat.le_of_not_lt small), List.length_append,
      List.length_singleton, zeros, List.append_assoc]

theorem hex_four {n : Nat} (h : n < 0x10000) : hex 4 n =
    [(n / 16 / 16 / 16).digitChar, (n / 16 / 16 % 16).digitChar, (n / 16 % 16).digitChar,
      (n % 16).digitChar] := by
  rw [hex_succ, hex_succ, hex_succ, hex_one (by omega)]
  rfl

theorem hexValue?_digitChar {n : Nat} (h : n < 16) : hexValue? n.digitChar = some n := by
  have all : ∀ n < 16, hexValue? (Nat.digitChar n) = some n := by decide
  exact all n h

end CurlSnippets.Text
