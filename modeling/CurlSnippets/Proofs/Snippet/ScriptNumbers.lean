import CurlSnippets.Proofs.Json.Rewritten
import CurlSnippets.Proofs.Number.Exact
import CurlSnippets.Proofs.Snippet.JsonPayload

/-!
# Integers in a call of fetch

A payload that is declared as JSON, and is JSON, becomes an expression of the script.  Its text says
what the payload says, but a script has no integers of any size: each literal stands for the nearest
binary number.  So an integer of the payload is sent as it is exactly if it is of the format
(`fetch_integers_iff`), and the others are sent as their neighbours without notice.
-/

namespace CurlSnippets

namespace Json.Number

/-- The integer that a text has in a place, if there is one. -/
def int? : Number → Option Int
  | .int n => some n
  | _ => none

/-- The integer that a script reads such a literal as, if it reads an integer. -/
def inScript? : Number → Option Int
  | .int n => (Binary64.ofInteger n).toInt?
  | _ => none

/-- Whether a number, if it is an integer, is a mantissa of fifty-three bits with a power of two that is
not above the greatest. -/
def Exact : Number → Prop
  | .int n => ∃ mantissa exponent : ℕ, mantissa < 2 ^ 53 ∧ exponent ≤ 971 ∧
      n.natAbs = mantissa * 2 ^ exponent
  | _ => True

theorem inScript?_eq_iff (x : Number) : x.inScript? = x.int? ↔ x.Exact := by
  cases x with
  | int n => exact Binary64.toInt?_ofInteger_iff n
  | decimal | nan | infinity => exact iff_of_true rfl trivial

/-- The integers that are printed are those that were read, and no number that is none becomes one. -/
theorem map_ofJson_decode (x : Number) :
    (Document.ofJson x.decode).map inScript? = .number x.int? ↔ x.Exact := by
  -- a binary number is never printed as an integer
  have other : ∀ y : Binary64, (ofBinary y).inScript? = none := by
    intro y
    cases h : ofBinary y with
    | int n => exact absurd h (ofBinary_ne_int y n)
    | decimal | nan | infinity => rfl
  cases x with
  | int n => exact (iff_of_eq (Document.number.injEq _ _)).trans (inScript?_eq_iff (.int n))
  | decimal | nan | infinity => exact iff_of_true (congrArg Document.number (other _)) trivial

end Json.Number

namespace Snippet

open Json

variable {r : Request} {content : Text} {contentType : Option Text} {tree : Document Number}

/-- **Integers in a call of fetch.**  The argument of a payload that is JSON says what the payload is read
as.  A script reads each integer in it as itself exactly if it is of the binary format; and it reads every
integer of the payload in its place exactly if moreover no object repeats a name. -/
theorem fetch_integers_iff (hbody : r.body = .raw content contentType) (declared : namesJson contentType)
    (text : Says content tree) (short : tree.Short) :
    ∃ argument, fetch r = .ok (Text.lines [
        "fetch(" ++ Literal.javascript r.url ++ ", \x7b",
        "  method: " ++ Literal.javascript r.method.name ++ ",",
        "  headers: " ++ indented (Json.ofFields (r.effectiveHeaders true)).print ++ ",",
        "  body: " ++ ("JSON.stringify(" ++ argument ++ ")"),
        "\x7d);"]) ∧
      Says argument (.ofJson tree.decode) ∧
      ((Document.ofJson tree.decode).map Number.inScript? =
          (Document.ofJson tree.decode).map Number.int? ↔
        (Document.ofJson tree.decode).All Number.Exact fun _ => True) ∧
      ((Document.ofJson tree.decode).map Number.inScript? = tree.map Number.int? ↔
        tree.All Number.Exact List.Nodup) := by
  refine ⟨indented tree.decode.print, (embeds_value hbody declared (text.read short)).call, ?_, ?_, ?_⟩
  · rw [Json.print, indented_render]
    exact Says.render 1 tree.decode
  · -- of the integers that are written, in the tree that is written
    simp only [map_eq_map_iff, Number.inScript?_eq_iff]
  · -- of those of the payload, which may lose members to repeated names
    simp only [tree_again_iff, Number.map_ofJson_decode]

/-- A request with great integers in its payload that are powers of two. -/
def numbered : Request where
  url := "https://h"
  method := .post
  body := .raw "[\n  18446744073709551616,\n  \x7b\n    \"id\": -9007199254740992\n  \x7d\n]"
    (some "application/json")

/-- What the payload says. -/
def numberedTree : Document Number :=
  .array [.number (.int 18446744073709551616), .object [("id", .number (.int (-9007199254740992)))]]

theorem fetch_integers_kept : ∃ argument, fetch numbered = .ok (Text.lines [
      "fetch('https://h', \x7b",
      "  method: 'POST',",
      "  headers: " ++ indented (Json.ofFields (numbered.effectiveHeaders true)).print ++ ",",
      "  body: " ++ ("JSON.stringify(" ++ argument ++ ")"),
      "\x7d);"]) ∧
    Says argument (.ofJson numberedTree.decode) ∧
    (Document.ofJson numberedTree.decode).map Number.inScript? = .array [
      .number (some 18446744073709551616), .object [("id", .number (some (-9007199254740992)))]] := by
  have text : Says "[\n  18446744073709551616,\n  \x7b\n    \"id\": -9007199254740992\n  \x7d\n]"
      numberedTree := by
    have printed : numberedTree.decode.print =
        "[\n  18446744073709551616,\n  \x7b\n    \"id\": -9007199254740992\n  \x7d\n]" := by
      decide +kernel
    exact printed ▸ Says.render 0 numberedTree.decode
  have short : numberedTree.Short :=
    ⟨(by decide +kernel : digitCount 18446744073709551616 ≤ digitLimit),
      ⟨trivial, (by decide +kernel : digitCount 9007199254740992 ≤ digitLimit), trivial⟩, trivial⟩
  have exact : numberedTree.All Number.Exact List.Nodup :=
    ⟨⟨1, 64, by decide, by decide, by decide⟩,
      ⟨by simp, ⟨1, 53, by decide, by decide, by decide⟩, trivial⟩, trivial⟩
  obtain ⟨argument, call, written, -, kept⟩ :=
    fetch_integers_iff (r := numbered) rfl (by decide +kernel) text short
  exact ⟨argument, call, written, kept.2 exact⟩

/-- A request with an integer as its payload that is no binary number. -/
def counted : Request where
  url := "https://h"
  method := .post
  body := .raw "9007199254740993" (some "application/json")

/-- The script sends the neighbour of such an integer. -/
theorem fetch_integer_lost :
    Says "9007199254740993" (.number (.int 9007199254740993)) ∧
      fetch counted = .ok (Text.lines [
        "fetch('https://h', \x7b",
        "  method: 'POST',",
        "  headers: \x7b\n    \"Content-Type\": \"application/json\"\n  \x7d,",
        "  body: JSON.stringify(9007199254740993)",
        "\x7d);"]) ∧
      (Number.int 9007199254740993).inScript? = some 9007199254740992 := by
  have text : Says "9007199254740993" (.number (.int 9007199254740993)) :=
    Says.render 0 (.int 9007199254740993)
  have short : (Document.number (.int 9007199254740993)).Short :=
    (by decide +kernel : digitCount 9007199254740993 ≤ digitLimit)
  have call := (embeds_value (r := counted) rfl (by decide +kernel) (text.read short)).call
  exact ⟨text, call.trans (by decide +kernel), by decide +kernel⟩

end Snippet

end CurlSnippets
