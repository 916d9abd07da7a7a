import CurlSnippets.Bytes.Base64
import CurlSnippets.Json.Reader

/-!
# Response bodies

The body of a response arrives in base64 letters.  What is not well formed reads as no text at all,
and octets that are no characters are replaced.
-/

namespace CurlSnippets.Response

/-- The text of a body. -/
def text (body : Text) : Text :=
  match Base64.decode? body with
  | some bytes => Utf8.decode bytes
  | none => []

/-- The JSON value of a body, if its text is JSON. -/
def json (body : Text) : Except DigitLimitError (Option Json) := Json.decode (text body)

end CurlSnippets.Response
