import CurlSnippets.Proofs.Json.Printed
import CurlSnippets.Proofs.Shell.Words
import CurlSnippets.Proofs.Snippet.Literals
import CurlSnippets.Proofs.Snippet.Refusal

/-!
# Payloads that are JSON

Curl commands, calls of fetch and scripts that use requests read a payload that is declared as JSON,
each on its own, and all three of them write the value that they find or the text that they were given
(`embeds_of_jsonPayload?`).  Setting the text of a value deeper is the same as writing it at a deeper
level (`indented_render`), so no string in it is changed, and the value is read back from it.
-/

namespace CurlSnippets.Snippet

open Json
open Literal (control_notMem_quoteUnits indented_append indented_of_notMem)

/-! ### Indentation -/

theorem indented_newline (level : Nat) : indented (newline level) = newline (level + 1) := by
  have spaces : '\n' ∉ Text.fill (2 * level) ' ' := by
    intro h
    exact absurd (List.eq_of_mem_replicate h) (by decide)
  have deeper : Text.fill (2 * (level + 1)) ' ' = ' ' :: ' ' :: Text.fill (2 * level) ' ' := rfl
  rw [newline, newline, deeper, ← List.singleton_append, indented_append, indented_of_notMem spaces]
  rfl

theorem indented_intText (n : Int) : indented (intText n) = intText n := by
  have scalar := scalarAt_intText n []
  rw [List.append_nil] at scalar
  exact indented_of_notMem (scalar.control_notMem (by decide) List.not_mem_nil)

theorem indented_floatText (x : Binary64) : indented (floatText x) = floatText x := by
  have scalar := scalarAt_floatText x []
  rw [List.append_nil] at scalar
  exact indented_of_notMem (scalar.control_notMem (by decide) List.not_mem_nil)

theorem indented_cons {c : Char} (h : c ≠ '\n') (t : Text) : indented (c :: t) = c :: indented t := by
  rw [indented, List.flatMap_cons, if_neg h]
  rfl

theorem indented_quoteUnits (s : CodeUnits) : indented (quoteUnits s) = quoteUnits s :=
  indented_of_notMem (control_notMem_quoteUnits (by decide) s)

mutual

/-- The text of a value set deeper is its text at the next level. -/
theorem indented_render (level : Nat) : ∀ j : Json,
    indented (render level j) = render (level + 1) j
  | .null => rfl
  | .bool true => rfl
  | .bool false => rfl
  | .int n => indented_intText n
  | .float x => indented_floatText x
  | .string s => indented_quoteUnits s
  | .array [] => rfl
  | .array (item :: l) => by
    have first := indented_render (level + 1) item
    have others := indented_renderItems (level + 1) l
    simp only [render_array, indented_cons (by decide : '[' ≠ '\n'), indented_append,
      indented_newline, first, others]
    rfl
  | .object [] => rfl
  | .object ((name, item) :: l) => by
    have first := indented_render (level + 1) item
    have others := indented_renderMembers (level + 1) l
    simp only [render_object, indented_cons (by decide : '\x7b' ≠ '\n'), indented_append,
      indented_newline, indented_quoteUnits, first, others]
    rfl

theorem indented_renderItems (level : Nat) : ∀ l : List Json,
    indented (renderItems level l) = renderItems (level + 1) l
  | [] => rfl
  | item :: l => by
    have first := indented_render level item
    have others := indented_renderItems level l
    simp only [renderItems_cons, indented_cons (by decide : ',' ≠ '\n'), indented_append,
      indented_newline, first, others]

theorem indented_renderMembers (level : Nat) : ∀ l : List (CodeUnits × Json),
    indented (renderMembers level l) = renderMembers (level + 1) l
  | [] => rfl
  | (name, item) :: l => by
    have first := indented_render level item
    have others := indented_renderMembers level l
    simp only [renderMembers_cons, indented_cons (by decide : ',' ≠ '\n'), indented_append,
      indented_newline, indented_quoteUnits, first, others]
    rfl

end

/-! ### Programs with a payload -/

/-- A script with its payload and the argument that passes it on. -/
def script (r : Request) (payload argument : Text) : Text := Text.lines [
  "import requests",
  [],
  "url = " ++ Literal.python r.url,
  "headers = " ++ Literal.pythonValue 0 (Json.ofFields (r.effectiveHeaders true)),
  "payload = " ++ payload,
  "response = requests.request(" ++ Literal.python r.method.name ++ ", url, headers=headers, "
    ++ argument ++ (if r.verifySsl then [] else ", verify=False" : Text) ++ ")",
  "print(response.text)"]

/-- The programs that know JSON, for a request with a payload: the text of the data option, the
expression of the body, and the payload with the argument that passes it on. -/
structure Embeds (r : Request) (data body payload argument : Text) : Prop where
  command : curl r = .ok (Text.join " \\\n  "
    ("curl" :: (curlOptions r none ++ ["--data " ++ Literal.shell data])))
  call : fetch r = .ok (Text.lines [
    "fetch(" ++ Literal.javascript r.url ++ ", \x7b",
    "  method: " ++ Literal.javascript r.method.name ++ ",",
    "  headers: " ++ indented (Json.ofFields (r.effectiveHeaders true)).print ++ ",",
    "  body: " ++ body,
    "\x7d);"])
  script : requests r = .ok (Snippet.script r payload argument)

variable {r : Request} {content : Text} {contentType : Option Text} {j : Json}

theorem curlOptions_some (r : Request) (data : Text) :
    curlOptions r (some data) = curlOptions r none ++ ["--data " ++ Literal.shell data] := by
  have last : ∀ (a b c d : List Text) (e : Text),
      List.flatten [a, b, c, d, [e]] = List.flatten [a, b, c, d, []] ++ [e] := by simp
  exact last _ _ _ _ _

theorem requests_of_payload {payload argument : Text}
    (hp : requestsPayload? r = .ok (some ("payload = " ++ payload, argument))) :
    requests r = .ok (script r payload argument) := by
  have arguments : Text.join ", " (List.flatten [["headers=headers"], [argument],
      if r.verifySsl then [] else ["verify=False"]]) =
        "headers=headers, " ++ argument ++ (if r.verifySsl then [] else ", verify=False" : Text) := by
    cases r.verifySsl with
    | true => simp [Text.join]
    | false => simp [Text.join]
  rw [requests, hp, script]
  simp only [Except.map, Option.map_some, Option.toList_some, arguments, List.append_assoc]
  rfl

/-- What each program makes of the body is in its place. -/
theorem embeds_of_parts {data body payload argument : Text} (hd : curlData? r = .ok (some data))
    (hb : fetchBody? r = .ok (some body))
    (hp : requestsPayload? r = .ok (some ("payload = " ++ payload, argument))) :
    Embeds r data body payload argument where
  command := by
    rw [curl, hd, ← curlOptions_some]
    rfl
  call := by
    rw [fetch, hb]
    rfl
  script := requests_of_payload hp

/-- A shell reads the data option as two words, the second of which is the data. -/
theorem words_curlData (data : Text) : Shell.words (curlData data) = some [("--data" : Text), data] := by
  have text : curlData data = "--data" ++ (' ' :: (Literal.shell data ++ [])) := by
    rw [List.append_nil]
    rfl
  rw [Shell.words, text, Shell.wordsFrom_ordinary (by decide) (by decide), Shell.wordsFrom_space,
    Shell.wordsFrom_shell]
  rfl

theorem requestsPayload?_raw (hbody : r.body = .raw content contentType) :
    requestsPayload? r = (jsonPayload? content contentType).map fun json =>
      some (("payload = " : Text) ++ json.elim (Literal.pythonRaw content) (Literal.pythonValue 0),
        json.elim ("data=payload" : Text) fun _ => "json=payload") := by
  unfold requestsPayload?
  rw [hbody]
  refine congrArg (fun write => Except.map write _) (funext fun json => ?_)
  cases json <;> rfl

/-- All three programs make of a payload what reading it comes to. -/
theorem embeds_of_jsonPayload? {json : Option Json} (hbody : r.body = .raw content contentType)
    (payload : jsonPayload? content contentType = .ok json) :
    Embeds r (json.elim content Json.print)
      (json.elim (Literal.javascript content) fun j => "JSON.stringify(" ++ indented j.print ++ ")")
      (json.elim (Literal.pythonRaw content) (Literal.pythonValue 0))
      (json.elim "data=payload" fun _ => "json=payload") := by
  refine embeds_of_parts ?_ ?_ ?_
  · rw [curlData?, hbody]
    simp only [payload, Except.map]
    cases json <;> rfl
  · rw [fetchBody?, hbody]
    simp only [payload, Except.map]
    cases json <;> rfl
  · rw [requestsPayload?_raw hbody, payload]
    rfl

/-- A payload that is no JSON is written as it is by all three programs. -/
theorem embeds_content (hbody : r.body = .raw content contentType)
    (hread : Json.read content = .error .syntaxError) :
    Embeds r content (Literal.javascript content) (Literal.pythonRaw content) "data=payload" :=
  embeds_of_jsonPayload? hbody (jsonPayload?_of_syntaxError hread)

section Declared

variable (hbody : r.body = .raw content contentType) (declared : namesJson contentType)

include declared

theorem jsonPayload?_of_read (hread : Json.read content = .ok j) :
    jsonPayload? content contentType = .ok (some j) := by
  rw [jsonPayload?, if_pos declared, Json.decode, hread]

include hbody

/-- A payload that is JSON is written anew by all three programs. -/
theorem embeds_value (hread : Json.read content = .ok j) :
    Embeds r j.print ("JSON.stringify(" ++ indented j.print ++ ")") (Literal.pythonValue 0 j)
      "json=payload" :=
  embeds_of_jsonPayload? hbody (jsonPayload?_of_read declared hread)

/-- The command of a request that sends the data of the command is the same. -/
theorem curl_data (hread : Json.read content = .ok j) (again : Json.read j.print = .ok j) :
    curl { r with body := .raw j.print contentType } = curl r := by
  have before := (embeds_value hbody declared hread).command
  have behind := (embeds_value (r := { r with body := .raw j.print contentType }) rfl declared
    again).command
  have options : curlOptions { r with body := .raw j.print contentType } none =
      curlOptions r none := by
    obtain ⟨_, _, _, _, _, _, _, _, _, _, _, body, _⟩ := r
    obtain rfl : body = .raw content contentType := hbody
    rfl
  rw [before, behind, options]

end Declared

/-- **The programs that know JSON agree.**  All three write a payload that is declared as JSON anew if
it is JSON, and as it is otherwise.  What is written anew is the value itself wherever its numbers are
integers. -/
theorem json_programs_agree (hbody : r.body = .raw content contentType)
    (declared : namesJson contentType)
    (short : ∀ digits, Json.read content ≠ .error (.digitLimit digits)) :
    (∀ j, Json.read content = .ok j →
      Embeds r j.print ("JSON.stringify(" ++ indented j.print ++ ")") (Literal.pythonValue 0 j)
        "json=payload" ∧
      (Whole j →
        Shell.words ("--data " ++ Literal.shell j.print) = some [("--data" : Text), j.print] ∧
        Json.read j.print = .ok j ∧
        Json.read (indented j.print) = .ok j ∧
        curl { r with body := .raw j.print contentType } = curl r)) ∧
    ((∀ j, Json.read content ≠ .ok j) →
      Embeds r content (Literal.javascript content) (Literal.pythonRaw content) "data=payload") := by
  refine ⟨fun j hread => ⟨embeds_value hbody declared hread, fun whole => ?_⟩, fun none => ?_⟩
  · -- what was read of a payload with integers only is read again from every layout
    have lossless : Lossless j := ⟨readable_of_read hread, whole⟩
    have again : Json.read j.print = .ok j := read_render lossless 0
    refine ⟨words_curlData j.print, again, ?_, curl_data hbody declared hread again⟩
    rw [Json.print, indented_render 0 j]
    exact read_render lossless 1
  · -- not read, and not for the digit limit, so it is no JSON
    refine embeds_content hbody ?_
    cases hread : Json.read content with
    | ok j => exact absurd hread (none j)
    | error e =>
      cases e with
      | syntaxError => rfl
      | digitLimit digits => exact absurd hread (short digits)

/-- A request with a list as its payload, with hardly a space in it. -/
def listed : Request where
  url := "https://h"
  method := .post
  body := .raw "[1, \"it's\",[]]" (some "application/json")

theorem json_programs_agree_listed :
    Embeds listed "[\n  1,\n  \"it's\",\n  []\n]"
      "JSON.stringify([\n    1,\n    \"it's\",\n    []\n  ])"
      "[\n    1,\n    \"it's\",\n    []\n]" "json=payload" ∧
    Json.read "[\n  1,\n  \"it's\",\n  []\n]" =
      .ok (.array [.int 1, .string "it's", .array []]) ∧
    Json.read "[\n    1,\n    \"it's\",\n    []\n  ]" =
      .ok (.array [.int 1, .string "it's", .array []]) := by
  have reads : Json.read "[1, \"it's\",[]]" = .ok (.array [.int 1, .string "it's", .array []]) := by
    have one : signed false ['1'] = 1 := by decide
    simp [Json.read, skip, isSpace, value, items, scalar, words, Text.after?, number, whole?, fraction,
      exponent, stringFrom, Reading.map, digitLimit, one]
  have whole : Whole (.array [.int 1, .string "it's", .array []]) := by
    intro x part
    cases part with
    | item mem part =>
      simp only [List.mem_cons, List.not_mem_nil, or_false] at mem
      rcases mem with rfl | rfl | rfl
      · cases part
      · cases part
      · cases part with
        | item mem part => exact absurd mem List.not_mem_nil
  have short : ∀ digits, Json.read "[1, \"it's\",[]]" ≠ .error (.digitLimit digits) := by
    intro digits long
    rw [reads] at long
    cases long
  have data : (Json.array [.int 1, .string "it's", .array []]).print =
      "[\n  1,\n  \"it's\",\n  []\n]" := by decide +kernel
  have argument : indented "[\n  1,\n  \"it's\",\n  []\n]" =
      "[\n    1,\n    \"it's\",\n    []\n  ]" := by decide +kernel
  have payload : Literal.pythonValue 0 (.array [.int 1, .string "it's", .array []]) =
      "[\n    1,\n    \"it's\",\n    []\n]" := by decide +kernel
  obtain ⟨embeds, back⟩ := (json_programs_agree (r := listed) rfl (by decide +kernel) short).1 _ reads
  obtain ⟨-, again, deeper, -⟩ := back whole
  rw [data] at embeds again deeper
  rw [argument] at embeds deeper
  rw [payload] at embeds
  exact ⟨embeds, again, deeper⟩

end CurlSnippets.Snippet
