import CurlSnippets.Proofs.Text.Laws
import Mathlib.Data.List.Infix

/-!
# Written forms that say where they end

A written form shows something of what it is written from if that can be told from the form whatever
text follows it, together with the text that follows (`Shows`).  Forms of this kind stay so side by
side, as alternatives that begin differently, and as items of a list that ends differently from how an
item begins.  A program that is put together from them shows all that they show.
-/

namespace CurlSnippets.Text

variable {α β γ δ : Type}

/-- In front of any text, `write a` shows `view a` and where it ends. -/
def Shows (write : α → Text) (view : α → β) : Prop :=
  ∀ ⦃a b : α⦄ ⦃x y : Text⦄, write a ++ x = write b ++ y → view a = view b ∧ x = y

/-! ### Texts that begin differently -/

/-- Neither text begins with the other. -/
def Apart (s t : Text) : Prop := ¬ s <+: t ∧ ¬ t <+: s

instance (s t : Text) : Decidable (Apart s t) := inferInstanceAs (Decidable (_ ∧ _))

theorem Apart.ne {s t : Text} (h : Apart s t) (x y : Text) : s ++ x ≠ t ++ y := by
  intro e
  have hs : s <+: t ++ y := e ▸ List.prefix_append s x
  rcases List.prefix_or_prefix_of_prefix hs (List.prefix_append t y) with h' | h'
  · exact h.1 h'
  · exact h.2 h'

/-- What begins with one of two such texts is nothing that begins with the other. -/
theorem Apart.ne_of_begins {s t u : Text} (h : Apart s t) (hu : s <+: u) (x y : Text) :
    u ++ x ≠ t ++ y := by
  obtain ⟨v, rfl⟩ := hu
  rw [List.append_assoc]
  exact h.ne _ _

/-- The text begins with one of `starts`. -/
def StartsIn (starts : List Text) (t : Text) : Prop := ∃ s ∈ starts, s <+: t

theorem startsIn_append (s x : Text) : StartsIn [s] (s ++ x) :=
  ⟨s, List.mem_singleton_self s, List.prefix_append s x⟩

theorem startsIn_self (s : Text) : StartsIn [s] s := ⟨s, List.mem_singleton_self s, List.prefix_rfl⟩

theorem StartsIn.ne {starts stops : List Text} {t x : Text} (h : StartsIn starts t)
    (hx : StartsIn stops x) (apart : ∀ s ∈ starts, ∀ s' ∈ stops, Apart s s') (u : Text) : t ++ u ≠ x := by
  obtain ⟨s, hs, hst⟩ := h
  obtain ⟨s', hs', v, rfl⟩ := hx
  exact (apart s hs s' hs').ne_of_begins hst u v

/-- In front of a text may stand items, or none. -/
theorem startsIn_flatMap_append {starts stops : List Text} {write : α → Text} {x : Text}
    (h : ∀ a, StartsIn starts (write a)) (hx : StartsIn stops x) (l : List α) :
    StartsIn (starts ++ stops) (l.flatMap write ++ x) := by
  cases l with
  | nil =>
    obtain ⟨s, hs, hp⟩ := hx
    exact ⟨s, List.mem_append_right starts hs, hp⟩
  | cons a l =>
    obtain ⟨s, hs, hp⟩ := h a
    rw [List.flatMap_cons, List.append_assoc]
    exact ⟨s, List.mem_append_left stops hs, hp.trans (List.prefix_append _ _)⟩

/-! ### Forms side by side -/

namespace Shows

variable {write : α → Text} {view : α → β}

theorem of_view {view' : α → γ} (h : Shows write view)
    (hv : ∀ a b, view a = view b → view' a = view' b) : Shows write view' := by
  intro a b x y e
  obtain ⟨same, rest⟩ := h e
  exact ⟨hv a b same, rest⟩

theorem comp (h : Shows write view) (k : γ → α) : Shows (fun c => write (k c)) fun c => view (k c) :=
  fun _ _ _ _ e => h e

/-- A fixed text shows nothing but where it ends. -/
theorem const (t : Text) : Shows (fun _ : α => t) fun _ => () :=
  fun _ _ _ _ e => ⟨rfl, List.append_cancel_left e⟩

theorem const_append (h : Shows write view) (t : Text) : Shows (fun a => t ++ write a) view := by
  intro a b x y e
  rw [List.append_assoc, List.append_assoc] at e
  exact h (List.append_cancel_left e)

theorem append_const (h : Shows write view) (t : Text) : Shows (fun a => write a ++ t) view := by
  intro a b x y e
  rw [List.append_assoc, List.append_assoc] at e
  obtain ⟨same, e⟩ := h e
  exact ⟨same, List.append_cancel_left e⟩

theorem append {write' : α → Text} {view' : α → γ} (h : Shows write view)
    (h' : Shows write' view') :
    Shows (fun a => write a ++ write' a) fun a => (view a, view' a) := by
  intro a b x y e
  rw [List.append_assoc, List.append_assoc] at e
  obtain ⟨same, e⟩ := h e
  obtain ⟨same', e⟩ := h' e
  exact ⟨Prod.ext same same', e⟩

/-- Of finitely many fixed texts, none of which begins with another, each shows which it is. -/
theorem of_apart {write : α → Text} (h : ∀ a b, a ≠ b → Apart (write a) (write b)) :
    Shows write id := by
  intro a b x y e
  by_cases hab : a = b
  · subst hab
    exact ⟨rfl, List.append_cancel_left e⟩
  · exact absurd e ((h a b hab).ne x y)

/-- A form that may be absent, where a fixed text stands in its place. -/
theorem elim {starts : List Text} {absent : Text} (h : Shows write view)
    (hs : ∀ a, StartsIn starts (write a)) (apart : ∀ s ∈ starts, Apart s absent) :
    Shows (fun o : Option α => o.elim absent write) (Option.map view) := by
  have differ : ∀ a x y, write a ++ x ≠ absent ++ y := by
    intro a
    obtain ⟨s, mem, hs⟩ := hs a
    exact (apart s mem).ne_of_begins hs
  intro o o' x y e
  cases o with
  | none =>
    cases o' with
    | none => exact ⟨rfl, List.append_cancel_left e⟩
    | some b => exact absurd e.symm (differ b y x)
  | some a =>
    cases o' with
    | none => exact absurd e (differ a x y)
    | some b =>
      obtain ⟨same, rest⟩ := h e
      exact ⟨congrArg some same, rest⟩

/-! ### Items up to something else -/

/-- Items show their list in front of texts that no item begins. -/
theorem items_of_ne (h : Shows write view) : ∀ {l l' : List α} {x y : Text},
    (∀ a u, write a ++ u ≠ x) → (∀ a u, write a ++ u ≠ y) →
      l.flatMap write ++ x = l'.flatMap write ++ y → l.map view = l'.map view ∧ x = y
  | [], [], _, _, _, _, e => ⟨rfl, e⟩
  | [], b :: l', x, y, hx, _, e => by
    rw [List.flatMap_cons, List.append_assoc] at e
    exact absurd e.symm (hx b _)
  | a :: l, [], x, y, _, hy, e => by
    rw [List.flatMap_cons, List.append_assoc] at e
    exact absurd e (hy a _)
  | a :: l, b :: l', x, y, hx, hy, e => by
    rw [List.flatMap_cons, List.flatMap_cons, List.append_assoc, List.append_assoc] at e
    obtain ⟨first, e⟩ := h e
    obtain ⟨rest, e⟩ := items_of_ne h hx hy e
    exact ⟨by rw [List.map_cons, List.map_cons, first, rest], e⟩

variable {starts stops : List Text} {x y : Text}

/-- Items show their list in front of texts that begin differently. -/
theorem items (h : Shows write view) (hs : ∀ a, StartsIn starts (write a)) (hx : StartsIn stops x)
    (hy : StartsIn stops y) (apart : ∀ s ∈ starts, ∀ s' ∈ stops, Apart s s') {l l' : List α}
    (e : l.flatMap write ++ x = l'.flatMap write ++ y) : l.map view = l'.map view ∧ x = y :=
  h.items_of_ne (fun a => (hs a).ne hx apart) (fun a => (hs a).ne hy apart) e

/-- So does an item that may be absent. -/
theorem optional (h : Shows write view) (hs : ∀ a, StartsIn starts (write a))
    (hx : StartsIn stops x) (hy : StartsIn stops y)
    (apart : ∀ s ∈ starts, ∀ s' ∈ stops, Apart s s') {o o' : Option α}
    (e : o.toList.flatMap write ++ x = o'.toList.flatMap write ++ y) :
    o.map view = o'.map view ∧ x = y := by
  obtain ⟨items, e⟩ := h.items hs hx hy apart e
  rw [← Option.toList_map, ← Option.toList_map] at items
  have option := congrArg List.head? items
  rw [Option.head?_toList, Option.head?_toList] at option
  exact ⟨option, e⟩

end Shows

/-! ### Pieces in brackets -/

/-- Pieces between an opening and a closing text with a separator between them, and a text of its own
if there are none. -/
def bracketed (opening sep closing empty : Text) (pieces : List Text) : Text :=
  if pieces.isEmpty then empty else opening ++ join sep pieces ++ closing

theorem bracketed_cons (opening sep closing empty piece : Text) (pieces : List Text) :
    bracketed opening sep closing empty (piece :: pieces) =
      opening ++ (piece ++ (pieces.flatMap (sep ++ ·) ++ closing)) := by
  rw [bracketed, List.isEmpty_cons, if_neg Bool.false_ne_true, join_cons, List.append_assoc,
    List.append_assoc]

/-- Behind a separator items begin differently from what closes the list. -/
theorem Shows.bracketed {write : α → Text} {view : α → β} (h : Shows write view)
    {opening sep start closing empty : Text} (hs : ∀ a, StartsIn [start] (sep ++ write a))
    (apart : Apart start closing) (some_none : Apart opening empty) :
    Shows (fun l => bracketed opening sep closing empty (l.map write)) (List.map view) := by
  have others : ∀ s ∈ [start], ∀ s' ∈ [closing], Apart s s' := by simpa using apart
  intro l l' x y e
  -- an empty list is written in a form of its own
  cases l with
  | nil =>
    cases l' with
    | nil => exact ⟨rfl, List.append_cancel_left e⟩
    | cons b l' =>
      simp only [List.map_cons, bracketed_cons, List.append_assoc] at e
      exact absurd e.symm (some_none.ne _ _)
  | cons a l =>
    cases l' with
    | nil =>
      simp only [List.map_cons, bracketed_cons, List.append_assoc] at e
      exact absurd e (some_none.ne _ _)
    | cons b l' =>
      simp only [List.map_cons, bracketed_cons, List.flatMap_map, List.append_assoc] at e
      obtain ⟨first, e⟩ := h (List.append_cancel_left e)
      obtain ⟨rest, e⟩ := (h.const_append sep).items hs (startsIn_append closing x)
        (startsIn_append closing y) others e
      exact ⟨by rw [List.map_cons, List.map_cons, first, rest], List.append_cancel_left e⟩

/-! ### Texts up to a mark -/

/-- Whether `stop` begins nowhere in the text, even if another `stop` follows it. -/
def free (stop : Text) : Text → Bool
  | [] => true
  | c :: t => !beginsWith stop (c :: (t ++ stop)) && free stop t

theorem free_cons {stop : Text} {c : Char} {t : Text} :
    free stop (c :: t) ↔ ¬ stop <+: c :: (t ++ stop) ∧ free stop t := by
  rw [free, Bool.and_eq_true, Bool.not_eq_true', Bool.eq_false_iff, Ne, beginsWith_iff]

theorem not_prefix_of_free {stop : Text} {c : Char} {t : Text} (h : free stop (c :: t)) (x : Text) :
    ¬ stop <+: c :: t ++ (stop ++ x) := by
  intro hp
  have short : stop.length ≤ (c :: (t ++ stop)).length := by
    rw [List.length_cons, List.length_append]
    omega
  have split : c :: t ++ (stop ++ x) = c :: (t ++ stop) ++ x := by simp
  rw [split] at hp
  exact (free_cons.1 h).1 (List.prefix_of_prefix_length_le hp (List.prefix_append _ x) short)

/-- What stands in front of the first `stop`, and what is left behind it. -/
def upTo (stop : Text) : Text → Option (Text × Text)
  | [] => (after? stop []).map fun rest => ([], rest)
  | c :: t =>
    match after? stop (c :: t) with
    | some rest => some ([], rest)
    | none => (upTo stop t).map fun found => (c :: found.1, found.2)

theorem upTo_of_after? {stop t rest : Text} (h : after? stop t = some rest) :
    upTo stop t = some ([], rest) := by
  cases t with
  | nil => rw [upTo, h, Option.map_some]
  | cons c t => rw [upTo, h]

/-- What holds no `stop` is what stands in front of the first `stop` behind it. -/
theorem upTo_append {stop t : Text} (h : free stop t) (x : Text) :
    upTo stop (t ++ (stop ++ x)) = some (t, x) := by
  induction t with
  | nil => exact upTo_of_after? (after?_append stop x)
  | cons c t ih =>
    have later : after? stop (c :: (t ++ (stop ++ x))) = none := by
      rw [Option.eq_none_iff_forall_ne_some]
      intro rest found
      exact not_prefix_of_free h x ⟨rest, (eq_append_of_after? found).symm⟩
    rw [List.cons_append, upTo, later, ih (free_cons.1 h).2]
    rfl

/-- What holds no `stop` is known from the first `stop` behind it. -/
theorem free_append_inj {stop t t' : Text} (h : free stop t) (h' : free stop t') {x y : Text}
    (e : t ++ (stop ++ x) = t' ++ (stop ++ y)) : t = t' ∧ x = y := by
  -- both are what is read up to the mark
  have found := upTo_append h x
  rw [e, upTo_append h' y, Option.some_inj] at found
  exact ⟨(congrArg Prod.fst found).symm, (congrArg Prod.snd found).symm⟩

/-- A text is written raw, between an opening and the first mark behind it, or else encoded in a form
that begins differently. -/
def RawOr (encode : Text → Text) (opening stop value written : Text) : Prop :=
  (written = opening ++ value ++ stop ∧ free stop value) ∨
    (written = encode value ∧ ∀ x y, encode value ++ x ≠ opening ++ y)

theorem Shows.of_rawOr {write : α → Text} {value : α → Text} {encode : Text → Text}
    {opening stop : Text} (encoded : Shows encode id)
    (forms : ∀ a, RawOr encode opening stop (value a) (write a)) : Shows write value := by
  intro a b x y e
  rcases forms a with ⟨ha, free_a⟩ | ⟨ha, other_a⟩ <;>
    rcases forms b with ⟨hb, free_b⟩ | ⟨hb, other_b⟩ <;> rw [ha, hb] at e
  · -- both are raw
    simp only [List.append_assoc] at e
    exact free_append_inj free_a free_b (List.append_cancel_left e)
  · -- one is raw and the other is not
    simp only [List.append_assoc] at e
    exact absurd e.symm (other_b _ _)
  · simp only [List.append_assoc] at e
    exact absurd e (other_a _ _)
  · exact encoded e

end CurlSnippets.Text
