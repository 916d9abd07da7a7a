import CurlSnippets.Snippet.Curl

/-!
# Requests as calls of fetch

A payload that is declared as JSON, and is JSON, is written as an object.
-/

namespace CurlSnippets.Snippet

/-- A text set two spaces deeper, but for its first line. -/
def indented (t : Text) : Text := t.flatMap fun c => if c = '\n' then "\n  " else [c]

/-- The expression for the body, if there is one. -/
def fetchBody? (r : Request) : Except DigitLimitError (Option Text) :=
  match r.body with
  | .none => .ok none
  | .raw content contentType =>
    (jsonPayload? content contentType).map fun json =>
      some (match json with
        | some j => "JSON.stringify(" ++ indented j.print ++ ")"
        | none => Literal.javascript content)
  | .form fields => .ok (some (Literal.javascript (Form.encode fields)))

/-- A request as a call of fetch. -/
def fetch (r : Request) : Except DigitLimitError Text :=
  (fetchBody? r).map fun body =>
    Text.lines <| List.flatten [
      ["fetch(" ++ Literal.javascript r.url ++ ", \x7b",
        "  method: " ++ Literal.javascript r.method.name ++ ",",
        "  headers: " ++ indented (Json.ofFields (r.effectiveHeaders true)).print
          ++ (if body.isSome then [','] else [])],
      (body.map ("  body: ".toList ++ ·)).toList,
      ["\x7d);"]]

end CurlSnippets.Snippet
