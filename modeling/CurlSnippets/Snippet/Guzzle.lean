import CurlSnippets.Form.Encoded
import CurlSnippets.Http.Headers
import CurlSnippets.Snippet.Literal

/-!
# Requests as scripts that use Guzzle
-/

namespace CurlSnippets.Snippet

/-- The option for the headers, if there are any. -/
def guzzleHeaders (r : Request) : List Text :=
  let headers := r.effectiveHeaders true
  if headers.isEmpty then []
  else ["    'headers' => " ++ Literal.phpArray headers "    " ++ ","]

/-- The option for the body, if there is one. -/
def guzzleBody (r : Request) : List Text :=
  match r.body with
  | .none => []
  | .raw content _ => ["    'body' => " ++ Literal.php content ++ ","]
  | .form fields =>
    ["    'form_params' => " ++ Literal.phpArray (Form.sent fields) "    " ++ ","]

/-- A request as a script that uses Guzzle. -/
def guzzle (r : Request) : Text :=
  Text.lines <| List.flatten [
    ["<?php", [], "$client = new \\GuzzleHttp\\Client();", [],
      "$response = $client->request(" ++ Literal.php r.method.name ++ ", " ++ Literal.php r.url
        ++ ", ["],
    guzzleHeaders r,
    guzzleBody r,
    if r.verifySsl then [] else ["    'verify' => false,"],
    ["]);", [], "echo $response->getBody();"]]

end CurlSnippets.Snippet
