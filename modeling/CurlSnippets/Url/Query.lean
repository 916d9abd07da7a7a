import CurlSnippets.Form.Encoded
import CurlSnippets.Url.Split

/-!
# Query parameters of a url

The decoded fields of a url's query.  Of a repeated key the last value counts, in the place of the
first.  A url that is refused has no parameters.
-/

namespace CurlSnippets.Url

/-- The parameters in the query of a url. -/
def queryParams (url : Text) : Fields :=
  match parts url with
  | .ok p => Fields.ofList (Form.decodePairs p.query)
  | .error _ => ∅

end CurlSnippets.Url
