import CurlSnippets.Form.Percent
import CurlSnippets.Proofs.Literal.Reader
import CurlSnippets.Proofs.Text.Laws

/-!
# Go literals read back

A Go string is a list of octets.  An interpreted literal, in double quotes, has the octets of its
characters, and an escape of two digits adds one octet, which need not be a character.  A raw literal,
in back quotes, has the octets of what stands between them, but for carriage returns.

A literal is read back as the octets of its text in either form (`go_read_back`).
-/

namespace CurlSnippets.Literal.Go

/-- The octet of an escape of two digits behind its backslash. -/
def octet? : Text → Option (Bytes × Nat)
  | 'x' :: high :: low :: _ => (Percent.escaped? high low).map fun b => ([b], 3)
  | _ => none

/-- How Go reads an interpreted literal: no line feed may stand in it. -/
def reader : Reader UInt8 where
  quote := '"'
  units := Utf8.encodeChar
  plain c := c ≠ '\n'
  letters := [('\\', '\\'), ('"', '"'), ('n', '\n'), ('r', '\r'), ('t', '\t')]
  other := octet?

/-- The value of a raw literal behind its opening quote, and what is left. -/
def raw? (t : Text) : Option (Bytes × Text) :=
  match Text.cut backquote t with
  | (inside, some rest) => some (Utf8.encode (inside.filter (· ≠ '\r')), rest)
  | (_, none) => none

/-- The value of the literal of either form that a text begins with, and what is left behind it. -/
def read (t : Text) : Option (Bytes × Text) :=
  if t.head? = some backquote then raw? t.tail else reader.read t

/-- The digits of a code below 128 are two, and are read as its octet. -/
theorem exists_octet {n : Nat} (h : n < 128) :
    ∃ high low, Text.hex 2 n = [high, low] ∧ Percent.escaped? high low = some (UInt8.ofNat n) := by
  have all : ∀ n < 128, Text.hex 2 n = [(n / 16).digitChar, (n % 16).digitChar] ∧
      Percent.escaped? (n / 16).digitChar (n % 16).digitChar = some (UInt8.ofNat n) := by decide
  exact ⟨_, _, all n h⟩

theorem undoes_goEscape : reader.Undoes goEscape isControl fun c => 'x' :: Text.hex 2 c.toNat where
  differ := by decide
  quote := by decide
  backslash := by decide
  letters := by decide
  others c h := by
    simp only [reader, List.map_cons, List.map_nil, List.mem_cons, List.not_mem_nil, or_false,
      not_or] at h
    simp only [goEscape, h, if_false, List.cons_append, List.nil_append]
  plain c h _ := by
    have feed : c ≠ '\n' := fun e => h (e ▸ by decide)
    simp [reader, feed]
  codes c h s := by
    have ascii := ascii_of_isControl h
    obtain ⟨high, low, digits, octet⟩ := exists_octet ascii
    have one : reader.units c = [UInt8.ofNat c.toNat] := if_pos ascii
    have found : octet? ('x' :: high :: low :: s) = some ([UInt8.ofNat c.toNat], 3) := by
      rw [octet?, octet, Option.map_some]
    rw [digits, one]
    exact (Reader.escape_other rfl _).trans found

theorem read_go (v s : Text) : reader.read (go v ++ s) = some (Utf8.encode v, s) :=
  undoes_goEscape.read_enclose v s

/-- A text without carriage returns is the value of its raw literal. -/
theorem raw?_append {v : Text} (quote : backquote ∉ v) (carriage : '\r' ∉ v) (s : Text) :
    raw? (v ++ backquote :: s) = some (Utf8.encode v, s) := by
  have kept : v.filter (· ≠ '\r') = v := by
    refine List.filter_eq_self.2 fun c hc => ?_
    have other : c ≠ '\r' := fun e => carriage (e ▸ hc)
    simpa using other
  rw [raw?, Text.cut_append quote]
  show some (Utf8.encode (v.filter (· ≠ '\r')), s) = _
  rw [kept]

/-- **A Go literal is read back** in front of any text, to its end and as the octets of the text that was
written: an interpreted one, and one in the form that is chosen for a body. -/
theorem go_read_back (v s : Text) :
    reader.read (go v ++ s) = some (Utf8.encode v, s) ∧
      read (goRaw v ++ s) = some (Utf8.encode v, s) := by
  refine ⟨read_go v s, ?_⟩
  rw [goRaw]
  split
  · -- an interpreted literal does not begin with a back quote
    have first : (go v ++ s).head? ≠ some backquote := by simp [go, enclose, backquote]
    rw [read, if_neg first, read_go]
  · -- the raw form is chosen only without back quotes and carriage returns
    rename_i h
    simp only [Bool.or_eq_true, List.contains_iff_mem, not_or] at h
    have shape : [backquote] ++ v ++ [backquote] ++ s = backquote :: (v ++ backquote :: s) := by simp
    rw [shape, read, List.head?_cons, if_pos rfl, List.tail_cons, raw?_append h.1 h.2]

end CurlSnippets.Literal.Go
