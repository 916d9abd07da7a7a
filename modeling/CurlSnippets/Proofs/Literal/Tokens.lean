import CurlSnippets.Text.Basic

/-!
# Reading token by token

An expression of several literals is read from left to right: the next token is cut off, and takes the
reader from one state to the next, or is not allowed where it stands.  Which tokens there are, and what
they do, is a matter of the language.

What a text does to the state is put together from what its tokens do to it (`run_token`), and layout
does nothing to it (`run_stay`).
-/

namespace CurlSnippets.Literal

/-- How a language reads an expression: its tokens, and what they do to the state of the reader. -/
structure TokenReader (σ τ : Type) where
  /-- The token that begins with a character, and how many of the characters behind it belong to it. -/
  token? : Char → Text → Option (τ × Nat)
  /-- The state behind a token that is allowed in a state. -/
  step : σ → τ → Option σ

namespace TokenReader

variable {σ τ : Type} (r : TokenReader σ τ)

/-- The state behind a text, if all of it is tokens that are allowed where they stand; `skipped`
characters were already read as part of one. -/
def runFrom : (skipped : Nat) → σ → Text → Option σ
  | _, state, [] => some state
  | skipped + 1, state, _ :: t => runFrom skipped state t
  | 0, state, c :: t =>
    match r.token? c t with
    | none => none
    | some (token, n) =>
      match r.step state token with
      | none => none
      | some next => runFrom n next t

/-- The state behind a text that begins with a token. -/
def run (state : σ) (t : Text) : Option σ := r.runFrom 0 state t

variable {r} {state next : σ}

theorem runFrom_skipped (x s : Text) : r.runFrom x.length state (x ++ s) = r.run state s := by
  induction x with
  | nil => rfl
  | cons c x ih => exact ih

/-- A token that is allowed takes the reader to its next state. -/
theorem run_token {c : Char} {x s : Text} {token : τ}
    (found : r.token? c (x ++ s) = some (token, x.length))
    (allowed : r.step state token = some next) :
    r.run state (c :: (x ++ s)) = r.run next s := by
  rw [run, runFrom, found]
  simp only [allowed]
  exact runFrom_skipped x s

/-- A token of one character. -/
theorem run_mark {c : Char} {s : Text} {token : τ} (found : r.token? c s = some (token, 0))
    (allowed : r.step state token = some next) : r.run state (c :: s) = r.run next s :=
  run_token (x := []) found allowed

/-- Characters that keep the state are passed over. -/
theorem run_stay {x : Text} (stay : ∀ c ∈ x, ∀ t, ∃ token, r.token? c t = some (token, 0) ∧
    r.step state token = some state) (s : Text) : r.run state (x ++ s) = r.run state s := by
  induction x with
  | nil => rfl
  | cons c x ih =>
    obtain ⟨token, found, allowed⟩ := stay c List.mem_cons_self (x ++ s)
    rw [List.cons_append, run_mark found allowed]
    exact ih fun d hd => stay d (List.mem_cons_of_mem c hd)

end TokenReader

/-! ### Literals as tokens -/

section

variable {α : Type} (read : Text → Option (α × Text))

/-- The value of the literal that begins with a character, and how many of the characters behind it
belong to it. -/
def literal? (c : Char) (t : Text) : Option (α × Nat) :=
  (read (c :: t)).map fun found => (found.1, t.length - found.2.length)

variable {read}

/-- A literal has the characters that stand in front of what is left. -/
theorem literal?_append {c : Char} {x s : Text} {value : α}
    (h : read (c :: (x ++ s)) = some (value, s)) :
    literal? read c (x ++ s) = some (value, x.length) := by
  rw [literal?, h, Option.map_some, List.length_append, Nat.add_sub_cancel]

end

end CurlSnippets.Literal
