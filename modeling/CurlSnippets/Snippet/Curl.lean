import CurlSnippets.Form.Encoded
import CurlSnippets.Http.Headers
import CurlSnippets.Json.Reader
import CurlSnippets.Snippet.Literal

/-!
# Requests as curl commands

One option a line.  A payload that is declared as JSON, and is JSON, is laid out anew.
-/

namespace CurlSnippets.Snippet

/-- The value of a payload that is declared as JSON and is JSON. -/
def jsonPayload? (content : Text) (contentType : Option Text) :
    Except DigitLimitError (Option Json) :=
  if namesJson contentType then Json.decode content else .ok none

/-- The text of the data option, if there is one. -/
def curlData? (r : Request) : Except DigitLimitError (Option Text) :=
  match r.body with
  | .none => .ok none
  | .raw content contentType =>
    (jsonPayload? content contentType).map fun json =>
      some (match json with
        | some j => j.print
        | none => content)
  | .form fields => .ok (some (Form.encode fields))

/-- A header option. -/
def curlHeader (p : Text × Text) : Text := "--header '" ++ p.1 ++ ": " ++ p.2 ++ "'"

/-- The option for user name and password, which a header set by the caller makes idle. -/
def curlUser (r : Request) : List Text :=
  match r.auth with
  | .basic username password =>
    if r.hasHeader "Authorization" then []
    else ["--user " ++ Literal.shell (username ++ [':'] ++ password)]
  | _ => []

/-- The option for the body. -/
def curlData (data : Text) : Text := "--data " ++ Literal.shell data

/-- The options of a command. -/
def curlOptions (r : Request) (data : Option Text) : List Text := List.flatten [
  ["--request " ++ r.method.name, "--url " ++ Literal.shell r.url],
  (r.effectiveHeaders false).entries.map curlHeader,
  curlUser r,
  if r.verifySsl then [] else ["--insecure"],
  (data.map curlData).toList]

/-- A request as a curl command. -/
def curl (r : Request) : Except DigitLimitError Text :=
  (curlData? r).map fun data => Text.join " \\\n  " ("curl" :: curlOptions r data)

end CurlSnippets.Snippet
