import CurlSnippets.Log.Level
import CurlSnippets.Snippet.Fetch
import CurlSnippets.Snippet.Guzzle
import CurlSnippets.Snippet.HttpClient
import CurlSnippets.Snippet.NetHttp
import CurlSnippets.Snippet.Requests
import CurlSnippets.Snippet.Reqwest
import CurlSnippets.Text.Blank

/-!
# Targets

The names under which a caller asks for a snippet.  Several names may stand for one target.  A name
that stands for none is an error if the caller wants it to be, and curl otherwise.
-/

namespace CurlSnippets

/-- The kinds of snippets. -/
inductive Target where
  | shell | javascript | python | go | rust | java | php
deriving DecidableEq, Repr

namespace Target

/-- Every kind of snippet. -/
def all : List Target := [.shell, .javascript, .python, .go, .rust, .java, .php]

/-- The language a target's snippets are written in. -/
def language : Target → Text
  | .shell => "shell"
  | .javascript => "javascript"
  | .python => "python"
  | .go => "go"
  | .rust => "rust"
  | .java => "java"
  | .php => "php"

/-- The names of targets. -/
def registered : List (Text × Target) :=
  [("shell", .shell), ("curl", .shell), ("javascript", .javascript), ("fetch", .javascript),
    ("python", .python), ("go", .go), ("rust", .rust), ("java", .java), ("php", .php)]

/-- The name of the target that stands in for unknown ones. -/
def fallbackName : Text := "curl"

/-- The target that stands in for unknown ones. -/
def fallback : Target := .shell

/-- The target of a name, blanks around it and letter case aside. -/
def ofName? (name : Text) : Option Target := registered.lookup (Text.lower (Text.trim name))

/-- A snippet of a request. -/
def render (target : Target) (r : Request) : Except DigitLimitError Text :=
  match target with
  | .shell => Snippet.curl r
  | .javascript => Snippet.fetch r
  | .python => Snippet.requests r
  | .go => .ok (Snippet.netHttp r)
  | .rust => .ok (Snippet.reqwest r)
  | .java => .ok (Snippet.httpClient r)
  | .php => .ok (Snippet.guzzle r)

/-- The name of the logger of the search for targets. -/
def logger : Text := Log.ownLogger ++ ".snippets"

/-- The record of a name that stands for no target. -/
def unknownRecord (name : Text) : Log.Record :=
  ⟨.warning, logger,
    "Unknown snippet target '" ++ name ++ "', rendering " ++ fallbackName ++ " instead."⟩

end Target

/-- Why there is no snippet. -/
inductive SnippetError where
  /-- No target has the name. -/
  | unknownTarget (name : Text)
  /-- The payload has an integer beyond the digit limit. -/
  | digitLimit (cause : DigitLimitError)
deriving DecidableEq

/-- The wording of the error. -/
def SnippetError.message : SnippetError → Text
  | .unknownTarget name => "No snippet generator for target '" ++ name ++ "'."
  | .digitLimit cause => cause.message

namespace Target

/-- The target of a name, with the log records of the choice. -/
def choose (name : Text) (strict : Bool) : Except SnippetError (Target × List Log.Record) :=
  match ofName? name with
  | some target => .ok (target, [])
  | none => if strict then .error (.unknownTarget name) else .ok (fallback, [unknownRecord name])

end Target

/-- The snippet of a request for a target's name. -/
def snippet (name : Text) (strict : Bool) (r : Request) : Except SnippetError Text :=
  match Target.choose name strict with
  | .error e => .error e
  | .ok (target, _) =>
    match target.render r with
    | .error e => .error (.digitLimit e)
    | .ok t => .ok t

/-- The log records of the search for a target. -/
def snippetRecords (name : Text) (strict : Bool) : List Log.Record :=
  match Target.choose name strict with
  | .error _ => []
  | .ok (_, records) => records

end CurlSnippets
