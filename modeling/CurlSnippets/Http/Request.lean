import CurlSnippets.Fields
import CurlSnippets.Text.Casing
import CurlSnippets.Text.Quoted

/-!
# Requests

One HTTP request as a plain value: what a command line is read into and what a snippet is written
from.  Bodies and credentials are closed alternatives.  Header names keep their letter case and are
looked up without regard to it.
-/

namespace CurlSnippets

/-- The methods a request can have. -/
inductive Method where
  | get | post | put | patch | delete | head | options
deriving DecidableEq, Repr

namespace Method

/-- Every method. -/
def all : List Method := [.get, .post, .put, .patch, .delete, .head, .options]

/-- The name of a method as it is sent. -/
def name : Method → Text
  | .get => "GET"
  | .post => "POST"
  | .put => "PUT"
  | .patch => "PATCH"
  | .delete => "DELETE"
  | .head => "HEAD"
  | .options => "OPTIONS"

/-- The method with a name. -/
def ofName? (t : Text) : Option Method := all.find? fun m => m.name = t

theorem mem_all (m : Method) : m ∈ all := by cases m <;> decide

@[simp] theorem ofName?_name (m : Method) : ofName? m.name = some m := by cases m <;> decide

theorem name_eq_of_ofName? {t : Text} {m : Method} (h : ofName? t = some m) : m.name = t := by
  simpa using List.find?_some h

end Method

/-- A hint at the transport, which no snippet uses. -/
inductive Protocol where
  | tcp | quic
deriving DecidableEq, Repr

/-- The name of a transport hint. -/
def Protocol.name : Protocol → Text
  | .tcp => "tcp"
  | .quic => "quic"

/-- A cookie sent with a request. -/
structure Cookie where
  name : Text
  value : Text
  domain : Option Text := none
  path : Option Text := none
  expires : Option Text := none
  httpOnly : Option Bool := none
  secure : Option Bool := none
deriving DecidableEq

/-- A proxy the request goes through. -/
structure Proxy where
  url : Text
  username : Option Text := none
  password : Option Text := none
deriving DecidableEq

/-- What is sent after the headers. -/
inductive Body where
  /-- Nothing. -/
  | none
  /-- A payload as it is sent, with the media type declared for it, if any. -/
  | raw (content : Text) (contentType : Option Text)
  /-- Form fields. -/
  | form (fields : Fields)
deriving DecidableEq

/-- The credentials of a request. -/
inductive Auth where
  | none
  | basic (username password : Text)
  | bearer (token : Text)
deriving DecidableEq

/-- An HTTP request. -/
structure Request where
  /-- The url, never parsed or rebuilt. -/
  url : Text := []
  method : Method := .get
  headers : Fields := ∅
  /-- The query parameters found in the url.  They are never merged back into it. -/
  queryParams : Fields := ∅
  cookies : List Cookie := []
  timeoutMs : Int := 30000
  followRedirects : Bool := true
  maxRedirects : Int := 10
  verifySsl : Bool := true
  proxy : Option Proxy := none
  protocol : Option Protocol := none
  body : Body := .none
  auth : Auth := .none
deriving DecidableEq

namespace Request

/-- Why a name given for a part of a request is refused. -/
inductive NameError where
  /-- There is no such method; the name is in upper case. -/
  | method (name : Text)
  /-- There is no such transport hint. -/
  | protocol (name : Text)
deriving DecidableEq

/-- The wording of a refusal. -/
def NameError.message : NameError → Text
  | .method name => Text.quoted name ++ " is not a valid http_method"
  | .protocol name => Text.quoted name ++ " is not a valid HttpProtocol"

/-- The method a caller names in any letter case. -/
def readMethod (name : Text) : Except NameError Method :=
  match Method.ofName? (Text.upper name) with
  | some m => .ok m
  | none => .error (.method (Text.upper name))

/-- The transport hint a caller names. -/
def readProtocol (name : Text) : Except NameError Protocol :=
  if name = Protocol.tcp.name then .ok .tcp
  else if name = Protocol.quic.name then .ok .quic
  else .error (.protocol name)

/-- The value of the first header of a name, in any letter case. -/
def header? (r : Request) (name : Text) : Option Text :=
  (r.headers.entries.find? fun p => Text.lower p.1 = Text.lower name).map Prod.snd

/-- Whether the caller set a header of a name, in any letter case. -/
def hasHeader (r : Request) (name : Text) : Bool := (r.header? name).isSome

end Request

end CurlSnippets
