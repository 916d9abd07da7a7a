import CurlSnippets.Proofs.Literal.Expression
import CurlSnippets.Proofs.Snippet.JsonPayload

/-!
# Payloads that requests sends

A script gives requests a payload by one of two arguments.  By `data` a text is sent if it is not empty.
By `json` a value is sent as JSON, unless it is `None`, which stands for no body; a number in it that is
not finite is refused (`SendsBody`).  So a script sends a payload that is declared as JSON unless it is
the word `null` alone or has a number in it that is beyond the finite ones (`sends_body_iff`).
-/

namespace CurlSnippets.Snippet

open CommandLine (withLineFeeds withLineFeeds_of_not_mem)
open Literal (pythonRaw pythonValue)
open Literal.Python (carriage_notMem_pythonValue read_pythonRaw value? value?_pythonValue)

/-- Whether requests sends a body for a payload, as it stands in a source, and the argument that passes
it on. -/
inductive SendsBody : (payload argument : Text) → Prop where
  | json {payload : Text} {j : Json} :
      value? (withLineFeeds payload) = some j → j ≠ .null → j.IsFinite →
        SendsBody payload "json=payload"
  | data {payload content : Text} :
      Literal.Python.read (withLineFeeds payload) = some (content, []) → content ≠ [] →
        SendsBody payload "data=payload"

/-- The script for a request gives requests a payload by an argument. -/
structure Passes (r : Request) (payload argument : Text) : Prop where
  chosen : requestsPayload? r = .ok (some ("payload = " ++ payload, argument))
  text : requests r = .ok (script r payload argument)

variable {r : Request} {content : Text} {contentType : Option Text}

/-! ### Literals -/

/-- A display is sent as JSON exactly if JSON can hold the value, and it is not `None`. -/
theorem sendsBody_display_iff {j : Json} (hread : Json.read content = .ok j) (level : Nat) :
    SendsBody (pythonValue level j) "json=payload" ↔ j ≠ .null ∧ j.IsFinite := by
  have display : value? (withLineFeeds (pythonValue level j)) =
      some (j.mapFloats Binary64.reread) := by
    rw [withLineFeeds_of_not_mem (carriage_notMem_pythonValue level j)]
    exact value?_pythonValue (Json.readable_of_read hread) level
  have finite := Json.isFinite_mapFloats_reread_iff (Json.inRange_of_read hread)
  -- reading floating point numbers anew makes no value `None`
  have none : j.mapFloats Binary64.reread = .null ↔ j = .null := by
    cases j <;> simp [Json.mapFloats]
  constructor
  · intro h
    generalize argument : ("json=payload" : Text) = a at h
    cases h with
    | json value some finite' =>
      obtain rfl := Option.some.inj (display.symm.trans value)
      exact ⟨fun e => some (none.2 e), finite.1 finite'⟩
    | data => exact absurd argument (by decide)
  · rintro ⟨some, finite'⟩
    exact .json display (fun e => some (none.1 e)) (finite.2 finite')

theorem withLineFeeds_ne_nil {t : Text} (h : t ≠ []) : withLineFeeds t ≠ [] := by
  fun_cases withLineFeeds t with
  | case1 => exact absurd rfl h
  | case2 rest => exact List.cons_ne_nil _ _
  | case3 c rest => exact List.cons_ne_nil _ _

/-- A text that is not empty is sent as it is. -/
theorem sendsBody_raw (some : content ≠ []) : SendsBody (pythonRaw content) "data=payload" := by
  have read := read_pythonRaw content []
  rw [List.append_nil] at read
  refine .data read ?_
  split
  · exact some
  · exact withLineFeeds_ne_nil some

/-! ### Scripts -/

theorem passes_iff (hbody : r.body = .raw content contentType) {json : Option Json}
    (found : jsonPayload? content contentType = .ok json) {payload argument : Text} :
    Passes r payload argument ↔ payload = json.elim (pythonRaw content) (pythonValue 0) ∧
      argument = json.elim ("data=payload" : Text) fun _ => "json=payload" := by
  have chosen := requestsPayload?_raw hbody
  rw [found] at chosen
  constructor
  · rintro ⟨given, -⟩
    -- a request is given its payload in one way only
    obtain ⟨text, rfl⟩ := Prod.mk.inj (Option.some.inj (Except.ok.inj (chosen.symm.trans given)))
    exact ⟨(List.append_cancel_left text).symm, rfl⟩
  · rintro ⟨rfl, rfl⟩
    exact ⟨chosen, requests_of_payload chosen⟩

/-- The script sends a body. -/
def Sends (r : Request) : Prop :=
  ∃ payload argument, Passes r payload argument ∧ SendsBody payload argument

theorem sends_iff (hbody : r.body = .raw content contentType) {json : Option Json}
    (found : jsonPayload? content contentType = .ok json) :
    Sends r ↔ SendsBody (json.elim (pythonRaw content) (pythonValue 0))
      (json.elim ("data=payload" : Text) fun _ => "json=payload") := by
  simp only [Sends, passes_iff hbody found]
  constructor
  · rintro ⟨payload, argument, ⟨rfl, rfl⟩, sends⟩
    exact sends
  · exact fun sends => ⟨_, _, ⟨rfl, rfl⟩, sends⟩

theorem sends_of_syntaxError (hbody : r.body = .raw content contentType) (some : content ≠ [])
    (hread : Json.read content = .error .syntaxError) : Sends r :=
  (sends_iff hbody (jsonPayload?_of_syntaxError hread)).2 (sendsBody_raw some)

section Declared

variable (hbody : r.body = .raw content contentType) (declared : namesJson contentType)

include hbody declared

/-- A script for JSON sends it exactly if its value is not `null` and has no number beyond the finite
ones in it. -/
theorem sends_iff_of_read {j : Json} (hread : Json.read content = .ok j) :
    Sends r ↔ j ≠ .null ∧ j.IsFinite :=
  (sends_iff hbody (jsonPayload?_of_read declared hread)).trans (sendsBody_display_iff hread 0)

theorem not_sends_of_digitLimit {digits : Nat}
    (hread : Json.read content = .error (.digitLimit digits)) : ¬ Sends r := by
  rintro ⟨payload, argument, ⟨-, text⟩, -⟩
  have refused : Refused r (.read digits) := ⟨_, _, digits, hbody, declared, hread, rfl⟩
  rw [requests_eq_error_iff.2 refused] at text
  cases text

end Declared

/-- A request with a payload that is declared as JSON. -/
def posting (content : Text) : Request where
  url := "https://h"
  method := .post
  body := .raw content (some "application/json")

/-- Names that are different halves of characters are different names, so that the number beyond the
finite ones stays in the payload. -/
example : ¬ Sends (posting "\x7b\"\\ud800\":1e400,\"\\udc00\":1\x7d") := by
  have reads : Json.read "\x7b\"\\ud800\":1e400,\"\\udc00\":1\x7d" =
      .ok (.object [([0xD800], .float (Binary64.ofNumeral ⟨false, 1, 400⟩)), ([0xDC00], .int 1)]) := by
    have hundreds : signed false ['4', '0', '0'] = 400 := by decide
    have one : signed false ['1'] = 1 := by decide
    have digits : Numeral.ofDigits false ['1'] [] 400 = ⟨false, 1, 400⟩ := by decide
    have high : Json.hex4? 'd' '8' '0' '0' = some 0xD800 := by decide
    have low : Json.hex4? 'd' 'c' '0' '0' = some 0xDC00 := by decide
    simp [Json.read, Json.skip, Json.isSpace, Json.value, Json.members, Json.scalar, Json.words,
      Text.after?, Json.number, Json.whole?, Json.fraction, Json.exponent, Json.Reading.map,
      Json.stringFrom, Numeral.cutSign, digitLimit, one, hundreds, digits, high, low, CodeUnit.ofNat]
    exact Pairs.putAll_eq_append (by simp)
  have infinite : ¬ (Binary64.ofNumeral ⟨false, 1, 400⟩).IsFinite := by decide +kernel
  intro sends
  have finite := ((sends_iff_of_read rfl (by decide +kernel) reads).1 sends).2
  exact infinite (Json.isFinite_float.1 (Json.isFinite_object.1 finite _ List.mem_cons_self))

end CurlSnippets.Snippet
