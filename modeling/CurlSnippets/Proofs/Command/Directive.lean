import CurlSnippets.Command.Findings
import CurlSnippets.Proofs.Command.Search

/-!
# Directives

A well-formed command is the word `curl` and directives: options with what they are given.  A
directive has a written form (`Directive.text`), and a list of directives behind a url has a meaning
that is told from the directives and not from any text (`Directive.request`): the first method, all
headers folded in order, the body by the rank of its option, the first credentials, all cookies that
stand between the semicolons of any cookie option.
-/

namespace CurlSnippets.Command

/-- The options that give a body, by rank. -/
inductive BodyName where
  | short | data | dataRaw | dataBinary
deriving DecidableEq, Repr

namespace BodyName

/-- The options in the order of their rank. -/
def all : List BodyName := [.short, .data, .dataRaw, .dataBinary]

/-- The name of an option as it is written. -/
def text : BodyName → Text
  | .short => "-d"
  | .data => "--data"
  | .dataRaw => "--data-raw"
  | .dataBinary => "--data-binary"

/-- Something that only one option has is found at that option. -/
theorem findSome?_all {α : Type} (name : BodyName) (a : α) :
    (all.findSome? fun n => if n = name then some a else none) = some a := by
  cases name <;> rfl

end BodyName

/-- What an option is for. -/
inductive OptionKind where
  | url | method | header | body (name : BodyName) | user | cookie | insecure | location
deriving DecidableEq

namespace OptionKind

/-- The names of the options of a kind. -/
def names : OptionKind → List Text
  | .url => ["--url"]
  | .method => ["-X", "--request"]
  | .header => ["-H", "--header"]
  | .body name => [name.text]
  | .user => ["-u", "--user"]
  | .cookie => ["-b", "--cookie"]
  | .insecure => ["-k", "--insecure"]
  | .location => ["-L", "--location"]

/-- Every kind. -/
def all : List OptionKind :=
  [.url, .method, .header, .user, .cookie, .insecure, .location] ++ BodyName.all.map .body

theorem mem_all (k : OptionKind) : k ∈ all := by
  cases k with
  | body name => cases name <;> decide
  | _ => decide

/-- No name is of two kinds. -/
theorem eq_of_mem_names {k k' : OptionKind} {n : Text} (h : n ∈ k.names) (h' : n ∈ k'.names) :
    k = k' :=
  (show ∀ k ∈ all, ∀ k' ∈ all, ∀ n ∈ k.names, n ∈ k'.names → k = k' by decide +kernel)
    k k.mem_all k' k'.mem_all n h h'

end OptionKind

/-- An option of a command and what it is given.  Most options have a short and a long name. -/
inductive Directive where
  | url (value : Text)
  | method (short : Bool) (word : Text)
  | header (short : Bool) (value : Text)
  | body (name : BodyName) (payload : Text)
  | user (short : Bool) (value : Text)
  | cookie (short : Bool) (value : Text)
  | insecure (short : Bool)
  | location (short : Bool)

namespace Directive

/-- What a directive is for. -/
def kind : Directive → OptionKind
  | .url _ => .url
  | .method _ _ => .method
  | .header _ _ => .header
  | .body name _ => .body name
  | .user _ _ => .user
  | .cookie _ _ => .cookie
  | .insecure _ => .insecure
  | .location _ => .location

/-! ### Written form -/

/-- The name of the option as it is written. -/
def name : Directive → Text
  | .url _ => "--url"
  | .method short _ => if short then "-X" else "--request"
  | .header short _ => if short then "-H" else "--header"
  | .body name _ => name.text
  | .user short _ => if short then "-u" else "--user"
  | .cookie short _ => if short then "-b" else "--cookie"
  | .insecure short => if short then "-k" else "--insecure"
  | .location short => if short then "-L" else "--location"

theorem name_mem (d : Directive) : d.name ∈ d.kind.names := by
  cases d with
  | url | body => exact List.mem_singleton.2 rfl
  | method short | header short | user short | cookie short | insecure short | location short =>
    cases short <;> simp [name, kind, OptionKind.names]

/-- What the option is given, as it is written: a method as a bare word, a text in apostrophes. -/
def argument : Directive → Option Text
  | .method _ word => some word
  | .url t | .header _ t | .body _ t | .user _ t | .cookie _ t => some (Literal.shell t)
  | .insecure _ | .location _ => none

/-- The written form: the name, and behind a space what the option is given. -/
def text (d : Directive) : Text :=
  match d.argument with
  | some a => d.name ++ ' ' :: a
  | none => d.name

/-- A text that can stand in apostrophes without being taken for anything else: there is no line
continuation in it, and no blank before something that looks like an option. -/
structure Plain (t : Text) : Prop where
  unbroken : continuesLine t = false
  optionless : mentionsOption t = false

instance : DecidablePred Plain := fun t =>
  decidable_of_iff (continuesLine t = false ∧ mentionsOption t = false)
    ⟨fun h => ⟨h.1, h.2⟩, fun h => ⟨h.unbroken, h.optionless⟩⟩

/-- What an option can be given: a word as a method, a plain text without apostrophes as a url, a
header, credentials or cookies, and any plain text as a body. -/
def WellFormed : Directive → Prop
  | .method _ word => word ≠ [] ∧ word.all Text.isWord
  | .url t | .header _ t | .user _ t | .cookie _ t => '\'' ∉ t ∧ Plain t
  | .body _ t => Plain t
  | .insecure _ | .location _ => True

/-- What an option can be given so that it is taken for nothing else: a word as a method, and any plain
text, also with apostrophes, as anything else. -/
def Contained : Directive → Prop
  | .method _ word => word ≠ [] ∧ word.all Text.isWord
  | .url t | .header _ t | .user _ t | .cookie _ t | .body _ t => Plain t
  | .insecure _ | .location _ => True

theorem WellFormed.contained {d : Directive} (h : d.WellFormed) : d.Contained := by
  cases d with
  | url | header | user | cookie => exact h.2
  | method | body | insecure | location => exact h

instance : DecidablePred WellFormed
  | .method _ word => inferInstanceAs (Decidable (word ≠ [] ∧ word.all Text.isWord))
  | .url t | .header _ t | .user _ t | .cookie _ t =>
    inferInstanceAs (Decidable ('\'' ∉ t ∧ Plain t))
  | .body _ t => inferInstanceAs (Decidable (Plain t))
  | .insecure _ | .location _ => inferInstanceAs (Decidable True)

/-! ### Meaning -/

/-- The text that the option is given. -/
def given : Directive → Option Text
  | .url t | .method _ t | .header _ t | .body _ t | .user _ t | .cookie _ t => some t
  | .insecure _ | .location _ => none

/-- The text that an option of a kind is given. -/
def given? (k : OptionKind) (d : Directive) : Option Text := if d.kind = k then d.given else none

theorem given?_kind (d : Directive) : d.given? d.kind = d.given := if_pos rfl

theorem given?_of_ne {k : OptionKind} {d : Directive} (h : d.kind ≠ k) : d.given? k = none :=
  if_neg h

/-- The headers with the one that a text writes: name and value stand on the two sides of its first
colon.  A text without a colon, or with nothing before it, writes none. -/
def addHeader (headers : Fields) (written : Text) : Fields :=
  match Text.cut ':' written with
  | (_, none) => headers
  | (name, some value) =>
    if Text.trim name = [] then headers else headers.put (Text.trim name) (Text.trim value)

/-- The headers of all header options, one after another. -/
def headers (ds : List Directive) : Fields :=
  (ds.filterMap (given? .header)).foldl addHeader ∅

/-- The payload of the first option of the first name that occurs. -/
def payload (ds : List Directive) : Option Text :=
  BodyName.all.findSome? fun name => ds.findSome? (given? (.body name))

/-- The method of the first method option, if there is such a method; else POST with a body and GET
without one. -/
def methodOf (ds : List Directive) : Method :=
  match (ds.findSome? (given? .method)).bind fun word => Method.ofName? (Text.upper word) with
  | some m => m
  | none => if (payload ds).isSome then .post else .get

/-- User name and password of the first option for credentials, on the two sides of its first
colon. -/
def auth (ds : List Directive) : Auth :=
  match ds.findSome? (given? .user) with
  | some value => .basic (Text.cut ':' value).1 ((Text.cut ':' value).2.getD [])
  | none => .none

/-- The cookie that a text writes: name and value stand on the two sides of its first equals sign,
without blanks around the whole.  A text without an equals sign, or with nothing before it, writes
none. -/
def cookieOf? (written : Text) : Option Cookie :=
  match (Text.trim written).span (· ≠ '=') with
  | (name, '=' :: value) => if name = [] then none else some { name, value }
  | _ => none

/-- The cookies of all cookie options, one after another: each option writes them between
semicolons. -/
def cookies (ds : List Directive) : List Cookie :=
  ((ds.filterMap (given? .cookie)).flatMap (List.splitOn ';')).filterMap cookieOf?

/-- The request that directives behind a url ask for. -/
def request (url : Text) (ds : List Directive) : Request where
  url := url
  method := methodOf ds
  headers := headers ds
  queryParams := Url.queryParams url
  cookies := cookies ds
  verifySsl := !ds.any fun d => d.kind = .insecure
  body := match payload ds with
    | some p => .raw p none
    | none => .none
  auth := auth ds

end Directive

end CurlSnippets.Command
