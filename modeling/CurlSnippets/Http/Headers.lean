import CurlSnippets.Bytes.Base64
import CurlSnippets.Http.Request

/-!
# The headers a snippet sends

The caller's headers always win.  Headers that follow from the credentials, the cookies or the body
are added behind them, each only if the caller set none of that name in any letter case; so every
snippet of a request sends the same headers.
-/

namespace CurlSnippets

/-- The media type of form fields. -/
def formContentType : Text := "application/x-www-form-urlencoded"

/-- The media type that follows from a body, if any. -/
def Body.contentType? : Body → Option Text
  | .none => Option.none
  | .raw _ contentType => contentType.filter fun t => !t.isEmpty
  | .form _ => some formContentType

/-- Whether a declared media type names JSON. -/
def namesJson (contentType : Option Text) : Bool :=
  match contentType with
  | none => false
  | some t => Text.occursIn "json" (Text.lower t)

/-- User name and password as a header sends them: their octets are there for every text. -/
def basicCredentials (username password : Text) : Text :=
  "Basic " ++ Base64.encode (Utf8.encode (username ++ [':'] ++ password))

namespace Request

/-- The value of the header that follows from the credentials, if any. -/
def authorization? (r : Request) (basic : Bool) : Option Text :=
  match r.auth with
  | .basic username password => if basic then some (basicCredentials username password) else none
  | .bearer token => some ("Bearer " ++ token)
  | .none => none

/-- The value of the header that follows from the cookies, if any. -/
def cookieHeader? (r : Request) : Option Text :=
  if r.cookies.isEmpty then none
  else some (Text.join "; " (r.cookies.map fun c => c.name ++ ['='] ++ c.value))

/-- The headers that follow from the rest of a request and that the caller did not set. -/
def derivedHeaders (r : Request) (basic : Bool) : List (Text × Text) :=
  [(("Authorization" : Text), r.authorization? basic), ("Cookie", r.cookieHeader?),
      ("Content-Type", r.body.contentType?)].filterMap fun (name, value) =>
    if r.hasHeader name then none else value.map fun v => (name, v)

/-- The headers a snippet sends: the caller's in order, then the derived ones.  Snippets that have
an option for user name and password leave them out of the headers. -/
def effectiveHeaders (r : Request) (basic : Bool) : Fields :=
  r.headers.putAll (r.derivedHeaders basic)

end Request

end CurlSnippets
