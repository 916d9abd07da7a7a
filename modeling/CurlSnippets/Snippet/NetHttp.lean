import CurlSnippets.Form.Encoded
import CurlSnippets.Http.Headers
import CurlSnippets.Snippet.Literal

/-!
# Requests as programs that use net/http

Errors are dropped: the program shows the call.
-/

namespace CurlSnippets.Snippet

/-- The expression for the payload, if there is one. -/
def netHttpPayload? (r : Request) : Option Text :=
  match r.body with
  | .none => none
  | .raw content _ => some (Literal.goRaw content)
  | .form fields => some (Literal.go (Form.encode fields))

/-- The line that makes a reader of the payload. -/
def netHttpReader (payload : Text) : Text := "\tpayload := strings.NewReader(" ++ payload ++ ")"

/-- The call that adds one header. -/
def netHttpHeader (p : Text × Text) : Text :=
  "\treq.Header.Add(" ++ Literal.go p.1 ++ ", " ++ Literal.go p.2 ++ ")"

/-- A request as a program that uses net/http. -/
def netHttp (r : Request) : Text :=
  let payload := netHttpPayload? r
  Text.lines <| List.flatten [
    ["package main", [], "import (", "\t\"fmt\"", "\t\"io\"", "\t\"net/http\""],
    if payload.isSome then ["\t\"strings\""] else [],
    [")", [], "func main() \x7b", "\turl := " ++ Literal.go r.url],
    (payload.map netHttpReader).toList,
    ["\treq, _ := http.NewRequest(" ++ Literal.go r.method.name ++ ", url, "
      ++ (if payload.isSome then ("payload" : Text) else "nil") ++ ")"],
    (r.effectiveHeaders true).entries.map netHttpHeader,
    ["\tclient := &http.Client\x7b\x7d", "\tres, _ := client.Do(req)",
      "\tdefer res.Body.Close()", "\tbody, _ := io.ReadAll(res.Body)",
      "\tfmt.Println(string(body))", "\x7d"]]

end CurlSnippets.Snippet
