import CurlSnippets.Json.Reader
import CurlSnippets.Proofs.Literal.Reader
import CurlSnippets.Proofs.Snippet.Literals

/-!
# Rust literals read back

A Rust string literal may hold line feeds, but no carriage return, and an escape by number has its
digits in braces.  A raw literal begins with `r`, number signs and a quote, and ends at the first quote
with as many number signs behind it; it may hold no carriage return either.

A literal is read back in either form (`rust_read_back`): the end of a raw literal is not begun by its
text, even if that ends with quotes.
-/

namespace CurlSnippets.Literal.Rust

open Text

/-- Whether a character is a hexadecimal digit. -/
def isHex (c : Char) : Bool := (Text.hexValue? c).isSome

/-- The number of hexadecimal digits. -/
def hexNumber (digits : Text) : Nat :=
  digits.foldl (fun n c => 16 * n + (Text.hexValue? c).getD 0) 0

/-- The character of an escape in braces behind its backslash: one of up to six digits. -/
def braced? : Text → Option (Text × Nat)
  | 'u' :: '\x7b' :: t =>
    match t.takeWhile isHex, t.dropWhile isHex with
    | digits, '\x7d' :: _ =>
      if 1 ≤ digits.length && digits.length ≤ 6 && (hexNumber digits).isValidChar then
        some ([Char.ofNat (hexNumber digits)], digits.length + 3)
      else none
    | _, _ => none
  | _ => none

/-- How Rust reads a string literal. -/
def reader : Reader Char where
  quote := '"'
  units c := [c]
  plain c := c ≠ '\r'
  letters := [('\\', '\\'), ('"', '"'), ('n', '\n'), ('r', '\r'), ('t', '\t'), ('0', '\x00')]
  other := braced?

/-- The value of a raw literal behind its `r`, and what is left. -/
def raw? (t : Text) : Option (Text × Text) :=
  match t.takeWhile (· = '#'), t.dropWhile (· = '#') with
  | signs, '"' :: inside =>
    match upTo ('"' :: signs) inside with
    | some (value, rest) => if value.contains '\r' then none else some (value, rest)
    | none => none
  | _, _ => none

/-- The value of the literal of either form that a text begins with, and what is left behind it. -/
def read (t : Text) : Option (Text × Text) :=
  if t.head? = some 'r' then raw? t.tail else reader.read t

/-- An escape in braces is read to its brace, whatever follows. -/
theorem escape_braced {digits : Text} (all : ∀ c ∈ digits, isHex c) (some_digit : 1 ≤ digits.length)
    (few : digits.length ≤ 6) (valid : (hexNumber digits).isValidChar) (s : Text) :
    reader.escape ('u' :: '\x7b' :: (digits ++ '\x7d' :: s)) =
      some ([Char.ofNat (hexNumber digits)], digits.length + 3) := by
  obtain ⟨taken, left⟩ := run_append (c := '\x7d') (p := isHex) (by decide) all s
  have found : braced? ('u' :: '\x7b' :: (digits ++ '\x7d' :: s)) =
      some ([Char.ofNat (hexNumber digits)], digits.length + 3) := by
    rw [braced?, taken, left]
    simp [some_digit, few, valid]
  exact (Reader.escape_other rfl _).trans found

theorem digits_hex {n : Nat} (h : n < 128) : (∀ c ∈ hex 1 n, isHex c) ∧ 1 ≤ (hex 1 n).length ∧
    (hex 1 n).length ≤ 6 ∧ hexNumber (hex 1 n) = n := by
  have all : ∀ n < 128, (∀ c ∈ hex 1 n, isHex c) ∧ 1 ≤ (hex 1 n).length ∧ (hex 1 n).length ≤ 6 ∧
      hexNumber (hex 1 n) = n := by decide
  exact all n h

theorem undoes_rustEscape : reader.Undoes rustEscape isControl
    fun c => 'u' :: '\x7b' :: (hex 1 c.toNat ++ ['\x7d']) where
  differ := by decide
  quote := by decide
  backslash := by decide
  letters := by decide
  others c h := by
    simp only [reader, List.map_cons, List.map_nil, List.mem_cons, List.not_mem_nil, or_false,
      not_or] at h
    simp only [rustEscape, h, if_false]
    rfl
  plain c h _ := by
    have carriage : c ≠ '\r' := fun e => h (e ▸ by decide)
    simp [reader, carriage]
  codes c h s := by
    obtain ⟨all, some_digit, few, number⟩ := digits_hex (ascii_of_isControl h)
    have valid : (hexNumber (hex 1 c.toNat)).isValidChar := by
      rw [number]
      exact c.valid
    have found := escape_braced all some_digit few valid s
    rw [number, Char.ofNat_toNat] at found
    simpa [reader] using found

theorem read_rust (v s : Text) : reader.read (rust v ++ s) = some (v, s) :=
  undoes_rustEscape.read_text (fun _ => rfl) v s

/-- A text without the end of a raw literal and without carriage returns is the value of its raw
literal. -/
theorem raw?_append {v : Text} (mark : free rustMark v) (carriage : '\r' ∉ v) (s : Text) :
    raw? ('#' :: '"' :: (v ++ (rustMark ++ s))) = some (v, s) := by
  have inside : upTo ['"', '#'] (v ++ (rustMark ++ s)) = some (v, s) := upTo_append mark s
  simp [raw?, inside, carriage]

/-- **A Rust literal is read back** in front of any text, to its end and as the text that was written: a
quoted one, and one in the form that is chosen for a body. -/
theorem rust_read_back (v s : Text) :
    reader.read (rust v ++ s) = some (v, s) ∧ read (rustRaw v ++ s) = some (v, s) := by
  refine ⟨read_rust v s, ?_⟩
  rw [rustRaw]
  split
  · have first : (rust v ++ s).head? ≠ some 'r' := by simp [rust, enclose]
    rw [read, if_neg first, read_rust]
  · rename_i h
    simp only [Bool.or_eq_true, List.contains_iff_mem, not_or, Bool.not_eq_true] at h
    have shape : ("r#\"" : Text) ++ v ++ "\"#" ++ s = 'r' :: '#' :: '"' :: (v ++ (rustMark ++ s)) := by
      simp [rustMark]
    rw [shape, read, List.head?_cons, if_pos rfl, List.tail_cons, raw?_append (free_rustMark h.1) h.2]

end CurlSnippets.Literal.Rust
