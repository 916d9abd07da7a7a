import CurlSnippets.Snippet.Curl
import CurlSnippets.Snippet.Display

/-!
# Requests as scripts that use requests

A payload that is declared as JSON, and is JSON, is written as a value.
-/

namespace CurlSnippets.Snippet

/-- The line that names the payload and the argument that passes it on, if there is a payload. -/
def requestsPayload? (r : Request) : Except DigitLimitError (Option (Text × Text)) :=
  match r.body with
  | .none => .ok none
  | .raw content contentType =>
    (jsonPayload? content contentType).map fun json =>
      some (match json with
        | some j => ("payload = " ++ Literal.pythonValue 0 j, "json=payload")
        | none => ("payload = " ++ Literal.pythonRaw content, "data=payload"))
  | .form fields =>
    .ok (some ("payload = " ++ Literal.pythonValue 0 (Json.ofFields (Form.sent fields)),
      "data=payload"))

/-- A request as a script that uses requests. -/
def requests (r : Request) : Except DigitLimitError Text :=
  (requestsPayload? r).map fun payload =>
    let arguments : List Text := List.flatten [
      ["headers=headers"],
      (payload.map Prod.snd).toList,
      if r.verifySsl then [] else ["verify=False"]]
    Text.lines <| List.flatten [
      ["import requests", [], "url = " ++ Literal.python r.url,
        "headers = " ++ Literal.pythonValue 0 (Json.ofFields (r.effectiveHeaders true))],
      (payload.map Prod.fst).toList,
      ["response = requests.request(" ++ Literal.python r.method.name ++ ", url, "
          ++ Text.join ", " arguments ++ ")",
        "print(response.text)"]]

end CurlSnippets.Snippet
