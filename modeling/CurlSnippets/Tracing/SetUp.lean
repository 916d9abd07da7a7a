import CurlSnippets.Log.Level
import CurlSnippets.Tracing.Exporter

/-!
# Setting up tracing

What set-up does is a list of acts: an exporter is attached for each configured one in order, and
the provider that holds them is installed last.  The first exporter of no kind ends set-up before
anything is installed.  Nothing is done if tracing is not available or no exporter is configured.
-/

namespace CurlSnippets.Tracing

/-- An exporter with the place it sends traces to. -/
inductive Exporter where
  | console
  | http (endpoint : Text)
  | grpc (endpoint : Text) (insecure : Bool)
deriving DecidableEq

/-- The exporter that a configured one of a kind stands for. -/
def Scheme.exporter (s : Scheme) (c : Config) : Exporter :=
  match s with
  | .console => .console
  | .otlpHttps => .http ("https://" ++ c.host)
  | .otlpHttp => .http ("http://" ++ c.host)
  | .otlpGrpc => .grpc c.host (!c.secure)

/-- The exporter that a configured one stands for, if it is of a kind. -/
def Config.exporter? (c : Config) : Option Exporter :=
  (Scheme.ofName? c.scheme).map fun s => s.exporter c

/-- One act of set-up. -/
inductive Act where
  /-- An exporter is attached to the provider. -/
  | attach (e : Exporter)
  /-- The provider becomes the one in use. -/
  | install
deriving DecidableEq

/-- Set-up met an exporter of no kind. -/
structure SchemeError where
  /-- The scheme it names. -/
  scheme : Text
deriving DecidableEq

/-- The wording of the error. -/
def SchemeError.message (e : SchemeError) : Text :=
  e.scheme ++ " is not a supported tracer scheme." ++ Scheme.listed

/-- What set-up did, and the error that ended it, if any. -/
structure Outcome where
  acts : List Act := []
  failure : Option SchemeError := none
  /-- The log records written on the way. -/
  records : List Log.Record := []
deriving DecidableEq

/-- The acts for a list of exporters, up to the first of no kind. -/
def acts : List Config → List Act × Option SchemeError
  | [] => ([.install], none)
  | c :: cs =>
    match c.exporter? with
    | none => ([], some ⟨c.scheme⟩)
    | some e => (.attach e :: (acts cs).1, (acts cs).2)

/-- The record that announces set-up. -/
def startRecord : Log.Record := ⟨.debug, Log.ownLogger, "Initializing tracing..."⟩

/-- Sets up tracing with the configured exporters. -/
def setUp (available : Bool) (exporters : Option (List Config)) : Outcome :=
  match exporters with
  | some (c :: cs) =>
    if available then ⟨(acts (c :: cs)).1, (acts (c :: cs)).2, [startRecord]⟩ else {}
  | _ => {}

namespace Outcome

/-- Whether a provider is in use. -/
def installed (o : Outcome) : Bool := o.acts.contains .install

/-- The exporters attached, in order. -/
def attached (o : Outcome) : List Exporter :=
  o.acts.filterMap fun
    | .attach e => some e
    | .install => none

end Outcome

/-- What spans are recorded with. -/
inductive Tracer where
  /-- It accepts every span and records none. -/
  | pretend
  /-- A tracer under a resource name. -/
  | named (resource : Text)
deriving DecidableEq

/-- The tracer a program gets. -/
def tracer (available : Bool) (resource : Text) : Tracer :=
  if available then .named resource else .pretend

end CurlSnippets.Tracing
