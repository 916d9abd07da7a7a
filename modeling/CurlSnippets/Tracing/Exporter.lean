import CurlSnippets.Datum.Basic
import CurlSnippets.Form.Encoded
import CurlSnippets.Url.Split

/-!
# Trace exporters

Where traces are sent.  An exporter is described by a url, whose scheme says what kind it is, whose
authority is the host and whose query may say `secure`; the bare word `console` describes the
exporter that prints.  Several are given as a list or as one text with commas in it.
-/

namespace CurlSnippets.Tracing

/-- The kinds of exporters. -/
inductive Scheme where
  | otlpHttps | otlpHttp | otlpGrpc | console
deriving DecidableEq, Repr

namespace Scheme

/-- Every kind, in the order in which messages list them. -/
def all : List Scheme := [.otlpHttps, .otlpHttp, .otlpGrpc, .console]

/-- The scheme of a url that describes an exporter of a kind. -/
def name : Scheme → Text
  | .otlpHttps => "otlp+https"
  | .otlpHttp => "otlp+http"
  | .otlpGrpc => "otlp+grpc"
  | .console => "console"

/-- The kind of a scheme. -/
def ofName? (t : Text) : Option Scheme := all.find? fun s => s.name = t

/-- The schemes as messages list them. -/
def listed : Text := "[" ++ Text.join "," (all.map name) ++ "]"

theorem mem_all (s : Scheme) : s ∈ all := by cases s <;> decide

@[simp] theorem ofName?_name (s : Scheme) : ofName? s.name = some s := by cases s <;> decide

theorem name_eq_of_ofName? {t : Text} {s : Scheme} (h : ofName? t = some s) : s.name = t := by
  simpa using List.find?_some h

end Scheme

/-- One exporter as configured.  The scheme is kept as named, so that a caller may also name one of
no kind; set-up refuses it. -/
structure Config where
  scheme : Text
  host : Text
  secure : Bool := true
deriving DecidableEq

/-- Why a text describes no exporter. -/
inductive ConfigError where
  /-- Its scheme is of no kind. -/
  | scheme (written : Text)
  /-- It is not a url. -/
  | url (cause : UrlError)
deriving DecidableEq

/-- The wording of the error. -/
def ConfigError.message : ConfigError → Text
  | .scheme written => written ++ " does not define a valid scheme: " ++ Scheme.listed
  | .url cause => cause.message

namespace Config

/-- The option `secure` in a query: the first that is not empty, and otherwise yes. -/
def secureIn (query : Text) : Bool :=
  match (Form.decodePairs query).find? fun p => p.1 = ("secure" : Text) && !p.2.isEmpty with
  | some (_, value) => (Datum.text value).truth
  | none => true

/-- The exporter that a text describes. -/
def ofText (t : Text) : Except ConfigError Config :=
  if t = Scheme.console.name then .ok ⟨Scheme.console.name, [], true⟩
  else match Url.parts t with
    | .error e => .error (.url e)
    | .ok parts =>
      match Scheme.ofName? parts.scheme with
      | none => .error (.scheme t)
      | some s => .ok ⟨s.name, parts.authority, secureIn parts.query⟩

end Config

/-- One exporter as a caller gives it: as a text, or configured already. -/
inductive Entry where
  | text (t : Text)
  | config (c : Config)
deriving DecidableEq

/-- The exporter of an entry.  A text is taken as it is, with blanks around it. -/
def Entry.config? : Entry → Except ConfigError Config
  | .text t => Config.ofText t
  | .config c => .ok c

/-- The exporters of a list of entries, or the error of the first entry that has one. -/
def configs : List Entry → Except ConfigError (List Config)
  | [] => .ok []
  | entry :: entries =>
    match entry.config? with
    | .error e => .error e
    | .ok c => (configs entries).map (c :: ·)

/-- The entries in one text: what stands between its commas, without blanks around it; entries that
are nothing but blank do not count. -/
def entriesIn (t : Text) : List Text :=
  ((Text.split ',' t).map Text.trim).filter fun entry => !entry.isEmpty

/-- All exporters as a caller gives them. -/
inductive Source where
  /-- None are wanted. -/
  | none
  | text (t : Text)
  | entries (es : List Entry)
deriving DecidableEq

/-- The exporters that a source describes. -/
def Source.read : Source → Except ConfigError (Option (List Config))
  | .none => .ok Option.none
  | .text t => (configs ((entriesIn t).map Entry.text)).map some
  | .entries es => (configs es).map some

end CurlSnippets.Tracing
