import CurlSnippets.Proofs.Json.Rewritten
import CurlSnippets.Proofs.Snippet.JsonPayload

/-!
# The layout of a payload

A curl command sends a payload that is declared as JSON in a layout of its own.  The new text says
what the payload says exactly if no object repeats a name and every number with a fraction or an exponent
has the value of the digits that are shown of the nearest binary number (`json_data_iff`).
-/

namespace CurlSnippets.Snippet

open Json

variable {r : Request} {content : Text} {contentType : Option Text} {tree : Document Number}
  {values : Document ℚ}

/-- **The command sends what a payload says**, in a layout of its own, exactly if nothing in it is
lost: no object repeats a name, and every number is kept. -/
theorem json_data_iff (hbody : r.body = .raw content contentType) (declared : namesJson contentType)
    (text : Says content tree) (valued : tree.map Number.value? = values.map some)
    (short : tree.Short) :
    curl r = .ok (Text.join " \\\n  "
        ("curl" :: (curlOptions r none ++ ["--data " ++ Literal.shell tree.decode.print]))) ∧
      Shell.words ("--data " ++ Literal.shell tree.decode.print) =
        some [("--data" : Text), tree.decode.print] ∧
      (IsText tree.decode.print values ↔ tree.All Number.Kept List.Nodup) :=
  ⟨(embeds_value hbody declared (text.read short)).command, words_curlData _, isText_print_iff valued⟩

/-- A request with a list as its payload, in one line. -/
def spaced : Request where
  url := "https://h"
  method := .post
  body := .raw "[1.50, \x7b\"a\":1\x7d]" (some "application/json")

/-- What the payload says. -/
def spacedTree : Document Number :=
  .array [.number (.decimal ⟨false, 150, -2⟩), .object [("a", .number (.int 1))]]

theorem json_data_iff_spaced :
    curl spaced = .ok (Text.join " \\\n  " ("curl" :: (curlOptions spaced none ++
        ["--data " ++ Literal.shell "[\n  1.5,\n  \x7b\n    \"a\": 1\n  \x7d\n]"]))) ∧
      IsText "[\n  1.5,\n  \x7b\n    \"a\": 1\n  \x7d\n]"
        (.array [.number (3 / 2), .object [("a", .number 1)]]) := by
  have one : IsWhole ['1'] := isWhole_natText 1
  have places : IsDigits ['5', '0'] := isDigits_natText 50
  have half : ValueAt (.number (.decimal ⟨false, 150, -2⟩)) "1.50, \x7b\"a\":1\x7d]"
      ", \x7b\"a\":1\x7d]" := .scalar (.number false one (.some _ places) (.none _))
  have name : CharsAt "a" "a\":1\x7d]" ":1\x7d]" :=
    .plain (by decide) (by decide) (by decide) (.close _)
  have inner : ValueAt (.object [("a", .number (.int 1))]) "\x7b\"a\":1\x7d]" "]" :=
    .object (.last (.none _) name (.none _) (.none _)
      (.scalar (.number false one (.none _) (.none _))) (.none _))
  have text : Says "[1.50, \x7b\"a\":1\x7d]" spacedTree :=
    ⟨_, [], .none _, .array (.next (.none _) half (.none _)
      (.last (.space rfl (.none _)) inner (.none _))), .none _⟩
  have value : Numeral.value ⟨false, 150, -2⟩ = 3 / 2 := by norm_num [Numeral.value]
  have valued : spacedTree.map Number.value? =
      (Document.array [.number (3 / 2), .object [("a", .number 1)]]).map some := by
    simp [spacedTree, Document.map, Document.mapItems, Document.mapMembers, Number.value?, value]
  have short : spacedTree.Short :=
    ⟨trivial, ⟨trivial, (by decide : digitCount 1 ≤ digitLimit), trivial⟩, trivial⟩
  have nearest : Binary64.ofNumeral ⟨false, 150, -2⟩ = .finite false 6755399441055744 (-52) := by
    decide +kernel
  have shown : (RoundingInterval.ofBinary 6755399441055744 (-52)).shortest = (15, -1) := by
    decide +kernel
  have kept : spacedTree.All Number.Kept List.Nodup := by
    refine ⟨?_, ⟨by simp, trivial, trivial⟩, trivial⟩
    show Binary64.shown? _ = some _
    rw [nearest, value]
    norm_num [Binary64.shown?, shown, Numeral.value]
  have data : spacedTree.decode.print = "[\n  1.5,\n  \x7b\n    \"a\": 1\n  \x7d\n]" := by
    decide +kernel
  obtain ⟨command, -, lossless⟩ := json_data_iff (r := spaced) rfl (by decide +kernel) text valued short
  rw [data] at command lossless
  exact ⟨command, lossless.2 kept⟩

/-- A request with an object as its payload that has two members with the same name. -/
def repeating : Request where
  url := "https://h"
  method := .post
  body := .raw "\x7b\"a\":1,\"a\":2\x7d" (some "application/json")

/-- One of two members with the same name is not sent. -/
theorem json_data_repeating :
    IsText "\x7b\"a\":1,\"a\":2\x7d" (.object [("a", .number 1), ("a", .number 2)]) ∧
      curl repeating = .ok (Text.join " \\\n  " ("curl" :: (curlOptions repeating none ++
        ["--data " ++ Literal.shell "\x7b\n  \"a\": 2\n\x7d"]))) ∧
      ¬ IsText "\x7b\n  \"a\": 2\n\x7d" (.object [("a", .number 1), ("a", .number 2)]) := by
  have name : ∀ t, CharsAt "a" ('a' :: '"' :: t) t := fun t =>
    .plain (by decide) (by decide) (by decide) (.close t)
  have digit : ∀ n r, ValueAt (.number (.int n)) (intText n ++ r) r := fun n r =>
    .scalar (scalarAt_intText n r)
  have text : Says "\x7b\"a\":1,\"a\":2\x7d"
      (.object [("a", .number (.int 1)), ("a", .number (.int 2))]) :=
    ⟨_, [], .none _, .object (.next (.none _) (name _) (.none _) (.none _) (digit 1 _) (.none _)
      (.last (.none _) (name _) (.none _) (.none _) (digit 2 _) (.none _))), .none _⟩
  have valued : (Document.object [("a", .number (.int 1)), ("a", .number (.int 2))]).map Number.value? =
      (Document.object [("a", .number 1), ("a", .number 2)]).map some := by
    simp [Document.map, Document.mapMembers, Number.value?]
  have short : (Document.object [("a", .number (.int 1)), ("a", .number (.int 2))]).Short :=
    ⟨trivial, (by decide : digitCount 1 ≤ digitLimit), (by decide : digitCount 2 ≤ digitLimit), trivial⟩
  have data : (Document.object [("a", .number (.int 1)), ("a", .number (.int 2))]).decode.print =
      "\x7b\n  \"a\": 2\n\x7d" := by decide +kernel
  have command := (embeds_value (r := repeating) rfl (by decide +kernel) (text.read short)).command
  have lossless := isText_print_iff valued
  rw [data] at command lossless
  refine ⟨⟨_, text, valued⟩, command, fun same => ?_⟩
  have nodup := (lossless.1 same).1
  exact absurd nodup (by simp)

end CurlSnippets.Snippet
