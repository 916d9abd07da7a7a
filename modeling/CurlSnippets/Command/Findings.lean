import CurlSnippets.Command.Options
import CurlSnippets.Http.Request
import CurlSnippets.Log.Level
import CurlSnippets.Url.Query

/-!
# What is found in a command

Seven rules look for one kind of option each: url, method, headers, body, credentials, switches and
cookies.  What they find is kept apart from the request, so that it can be laid over any defaults.
The rules are tried one after another.  One that finds something changes fields of the request; one
that finds nothing leaves the defaults as they are, and its part is named in the report.  A body can
decide the method afterwards, which is then struck from the report; it always stands there
(`Findings.isSome_report?`), so that reading a command never fails.
-/

namespace CurlSnippets.Command

/-! ### The rules -/

/-- Whether a text after the word `curl` is taken for a url. -/
def looksLikeUrl (t : Text) : Bool := Text.beginsWith "http" t || Text.beginsWith "/" t

/-- The url: a quoted text right after the word `curl`, else a bare one there, else the value of the
url option, else the first web address anywhere. -/
def findUrl (command : Text) : Option Text :=
  (([afterCurl quotedUrl?, afterCurl bare?].findSome? fun p =>
      (p.first? command).filter looksLikeUrl)
    <|> (urlOption.first? command).filter fun url => !url.isEmpty)
    <|> address.first? command

/-- What the method option says. -/
inductive MethodFinding where
  /-- There is no such option. -/
  | absent
  /-- It names no method; the word is kept as written. -/
  | unsupported (word : Text)
  | given (method : Method)
deriving DecidableEq

/-- The method that was named, if it is one. -/
def MethodFinding.method? : MethodFinding → Option Method
  | .given m => some m
  | _ => none

/-- The method: the word after the first method option, in any letter case. -/
def findMethod (command : Text) : MethodFinding :=
  match methodOption.first? command with
  | none => .absent
  | some word =>
    match Method.ofName? (Text.upper word) with
    | some m => .given m
    | none => .unsupported word

/-- What one header option says. -/
inductive HeaderFinding where
  | field (name value : Text)
  /-- There is no colon, or nothing before it; the option is kept as written. -/
  | malformed (written : Text)
deriving DecidableEq

/-- A header is split at its first colon, without blanks around either side. -/
def headerFinding (written value : Text) : HeaderFinding :=
  match Text.cut ':' value with
  | (_, none) => .malformed written
  | (name, some content) =>
    if (Text.trim name).isEmpty then .malformed written
    else .field (Text.trim name) (Text.trim content)

/-- The headers, in the order of their options. -/
def findHeaders (command : Text) : List HeaderFinding :=
  (headerOption.all command).map fun (written, value) => headerFinding written value

/-- The header of a well-formed option. -/
def HeaderFinding.field? : HeaderFinding → Option (Text × Text)
  | .field name value => some (name, value)
  | .malformed _ => none

/-- Every `'\''` becomes the apostrophe it stands for. -/
def unfoldQuotes : Text → Text
  | [] => []
  | '\'' :: '\\' :: '\'' :: '\'' :: rest => '\'' :: unfoldQuotes rest
  | c :: rest => c :: unfoldQuotes rest

/-- The body: the payload of the first body option, by rank and not by place. -/
def findBody (command : Text) : Option Text :=
  (bodyOptions.findSome? fun p => p.first? command).map unfoldQuotes

/-- The credentials, split at the first colon; without one the password is empty. -/
def findUser (command : Text) : Option (Text × Text) :=
  (userOption.first? command).map fun value =>
    ((Text.cut ':' value).1, ((Text.cut ':' value).2).getD [])

/-- One cookie, if the text has a name and an equals sign. -/
def cookie? (t : Text) : Option Cookie :=
  match Text.cut '=' (Text.trim t) with
  | (_, none) => none
  | (name, some value) => if name.isEmpty then none else some { name, value }

/-- The cookies of one cookie option. -/
def cookiesOf (value : Text) : List Cookie := (Text.split ';' value).filterMap cookie?

/-- The cookies of all cookie options in order. -/
def findCookies (command : Text) : List Cookie :=
  (cookieOption.all command).flatMap fun (_, value) => cookiesOf value

end CurlSnippets.Command

namespace CurlSnippets

/-! ### All findings together -/

/-- What the rules find in a command. -/
structure Findings where
  url : Option Text
  method : Command.MethodFinding
  headers : List Command.HeaderFinding
  body : Option Text
  user : Option (Text × Text)
  insecure : Bool
  location : Bool
  cookies : List Cookie
deriving DecidableEq

/-- The parts of a request that a report names when they were not found. -/
inductive Part where
  | url | method | headers | body | auth | cookies
deriving DecidableEq, Repr

namespace Part

/-- The parts in the order of a report. -/
def all : List Part := [.url, .method, .headers, .body, .auth, .cookies]

/-- The name of a part. -/
def name : Part → Text
  | .url => "url"
  | .method => "method"
  | .headers => "headers"
  | .body => "body"
  | .auth => "auth"
  | .cookies => "cookies"

end Part

/-- The rules that look for a part of a request, and the one that looks for switches. -/
inductive Rule where
  | part (part : Part)
  | flags
deriving DecidableEq, Repr

namespace Rule

/-- The rules in the order in which they are tried. -/
def all : List Rule :=
  [.part .url, .part .method, .part .headers, .part .body, .part .auth, .flags, .part .cookies]

/-- The name of a rule. -/
def name : Rule → Text
  | .part p => p.name
  | .flags => "flags"

/-- What a report names if the rule finds nothing. -/
def part? : Rule → Option Part
  | .part p => some p
  | .flags => none

end Rule

/-- Fields of a request with the values they are given. -/
structure Changes where
  url : Option Text := none
  queryParams : Option Fields := none
  method : Option Method := none
  headers : Option Fields := none
  body : Option Body := none
  auth : Option Auth := none
  followRedirects : Option Bool := none
  verifySsl : Option Bool := none
  cookies : Option (List Cookie) := none
deriving DecidableEq

namespace Changes

/-- The changes with further ones, which count where both give a field a value. -/
def update (c d : Changes) : Changes where
  url := d.url.or c.url
  queryParams := d.queryParams.or c.queryParams
  method := d.method.or c.method
  headers := d.headers.or c.headers
  body := d.body.or c.body
  auth := d.auth.or c.auth
  followRedirects := d.followRedirects.or c.followRedirects
  verifySsl := d.verifySsl.or c.verifySsl
  cookies := d.cookies.or c.cookies

/-- The names of the fields that are given a value, sorted. -/
def names (c : Changes) : List Text :=
  (([("auth", c.auth.isSome), ("body", c.body.isSome), ("cookies", c.cookies.isSome),
      ("follow_redirects", c.followRedirects.isSome), ("headers", c.headers.isSome),
      ("method", c.method.isSome), ("query_params", c.queryParams.isSome), ("url", c.url.isSome),
      ("verify_ssl", c.verifySsl.isSome)] : List (Text × Bool)).filter Prod.snd).map Prod.fst

/-- The request with its changes. -/
def applyTo (c : Changes) (r : Request) : Request :=
  { r with
    url := c.url.getD r.url
    queryParams := c.queryParams.getD r.queryParams
    method := c.method.getD r.method
    headers := c.headers.getD r.headers
    body := c.body.getD r.body
    auth := c.auth.getD r.auth
    followRedirects := c.followRedirects.getD r.followRedirects
    verifySsl := c.verifySsl.getD r.verifySsl
    cookies := c.cookies.getD r.cookies }

end Changes

namespace Findings

open Command

/-- The findings in a command that is already in normal layout. -/
def ofNormal (command : Text) : Findings where
  url := findUrl command
  method := findMethod command
  headers := findHeaders command
  body := findBody command
  user := findUser command
  insecure := (insecureSwitch.first? command).isSome
  location := (locationSwitch.first? command).isSome
  cookies := findCookies command

/-- The findings in a command as typed. -/
def ofCommand (command : Text) : Findings := ofNormal (normalize command)

/-- The headers of the well-formed header options, of which a later one replaces an earlier one of
the same name. -/
def fields (f : Findings) : Fields := Fields.ofList (f.headers.filterMap HeaderFinding.field?)

/-! ### Log records -/

/-- The name of the logger of the rules. -/
def logger : Text := Log.ownLogger ++ ".curl.parser"

/-- A record of the rules. -/
def note (message : Text) : Log.Record := ⟨.debug, logger, message⟩

/-- The record of a rule that found something, with the fields that it changes. -/
def matched (rule : Rule) (found : Changes) : Log.Record :=
  note ("Rule '" ++ rule.name ++ "' matched: " ++ Text.quotedList found.names)

/-- The record of a method option that names no method. -/
def methodNotes : MethodFinding → List Log.Record
  | .unsupported word => [note ("Ignoring unsupported method '" ++ word ++ "'")]
  | _ => []

/-- The record of a header option that is not well formed. -/
def headerNotes : HeaderFinding → List Log.Record
  | .malformed written => [note ("Skipping malformed header '" ++ written ++ "'")]
  | .field _ _ => []

/-- What a rule says about options that it passes over. -/
def notes (f : Findings) : Rule → List Log.Record
  | .part .method => methodNotes f.method
  | .part .headers => f.headers.flatMap headerNotes
  | _ => []

/-! ### Trying the rules -/

/-- What a rule changes in a request.  Without findings it changes nothing. -/
def changes (f : Findings) (defaults : Request) : Rule → Changes
  | .part .url => { url := f.url, queryParams := f.url.map Url.queryParams }
  | .part .method => { method := f.method.method? }
  | .part .headers =>
    if f.fields.isEmpty then {} else { headers := some (defaults.headers.override f.fields) }
  | .part .body => { body := f.body.map (Body.raw · none) }
  | .part .auth => { auth := f.user.map fun u => Auth.basic u.1 u.2 }
  | .flags =>
    { verifySsl := if f.insecure then some false else none
      followRedirects := if f.location then some true else none }
  | .part .cookies =>
    if f.cookies.isEmpty then {} else { cookies := some (defaults.cookies ++ f.cookies) }

end Findings

/-- What the rules that were tried come to. -/
structure Tried where
  changes : Changes := {}
  undetected : List Part := []
  records : List Log.Record := []

/-- One more rule is tried. -/
def Tried.step (f : Findings) (defaults : Request) (tried : Tried) (rule : Rule) : Tried :=
  let found := f.changes defaults rule
  let noted := tried.records ++ f.notes rule
  if found = {} then
    { tried with undetected := tried.undetected ++ rule.part?.toList, records := noted }
  else
    { tried with
      changes := tried.changes.update found
      records := noted ++ [Findings.matched rule found] }

/-- A command read over defaults: the request, and what was not found for it. -/
structure Report where
  request : Request
  undetected : List Part
  /-- The log records written on the way. -/
  records : List Log.Record
deriving DecidableEq

namespace Findings

/-- What all rules come to. -/
def tried (f : Findings) (defaults : Request) : Tried := Rule.all.foldl (Tried.step f defaults) {}

/-- The parts without one that has to stand among them. -/
def strike? (part : Part) (parts : List Part) : Option (List Part) :=
  if part ∈ parts then some (parts.erase part) else none

/-- The report of what the rules come to.  A body without a method makes a GET a POST, and the method is
struck from what was not found. -/
def report? (f : Findings) (defaults : Request) : Option Report :=
  let tried := f.tried defaults
  if tried.changes.body.isSome && tried.changes.method.isNone && defaults.method = .get then
    (strike? .method tried.undetected).map fun undetected =>
      ⟨{ tried.changes with method := some .post }.applyTo defaults, undetected, tried.records⟩
  else some ⟨tried.changes.applyTo defaults, tried.undetected, tried.records⟩

end Findings

/-! ### The method can be struck -/

namespace Tried

variable {f : Findings} {defaults : Request} {tried : Tried} {rule : Rule}

theorem step_of_eq (none : f.changes defaults rule = {}) : tried.step f defaults rule =
    { tried with
      undetected := tried.undetected ++ rule.part?.toList
      records := tried.records ++ f.notes rule } := if_pos none

theorem step_of_ne (found : f.changes defaults rule ≠ {}) : tried.step f defaults rule =
    { tried with
      changes := tried.changes.update (f.changes defaults rule)
      records := tried.records ++ f.notes rule ++ [Findings.matched rule (f.changes defaults rule)] } :=
  if_neg found

/-- The method was found, or is among what was not. -/
def MethodTold (tried : Tried) : Prop := tried.changes.method = none → .method ∈ tried.undetected

/-- A rule keeps what was told of the method, and the rule for the method tells it. -/
theorem methodTold_step (h : rule = .part .method ∨ tried.MethodTold) :
    (tried.step f defaults rule).MethodTold := by
  intro missed
  by_cases none : f.changes defaults rule = {}
  · rw [step_of_eq none] at missed ⊢
    rcases h with rfl | told
    · exact List.mem_append_right _ (List.mem_singleton.2 rfl)
    · exact List.mem_append_left _ (told missed)
  · rw [step_of_ne none] at missed ⊢
    have both : (f.changes defaults rule).method = .none ∧ tried.changes.method = .none :=
      Option.or_eq_none_iff.1 missed
    rcases h with rfl | told
    · exact absurd (congrArg (fun m => ({ method := m } : Changes)) both.1) none
    · exact told both.2

theorem methodTold_foldl (rules : List Rule) (h : .part .method ∈ rules ∨ tried.MethodTold) :
    (rules.foldl (step f defaults) tried).MethodTold := by
  induction rules generalizing tried with
  | nil => exact h.resolve_left List.not_mem_nil
  | cons rule rules ih =>
    refine ih ?_
    rcases h with mem | told
    · rcases List.mem_cons.1 mem with here | behind
      · exact .inr (methodTold_step (.inl here.symm))
      · exact .inl behind
    · exact .inr (methodTold_step (.inr told))

end Tried

/-- There always is a report. -/
theorem Findings.isSome_report? (f : Findings) (defaults : Request) :
    (f.report? defaults).isSome := by
  have told : (f.tried defaults).MethodTold := Tried.methodTold_foldl Rule.all (.inl (by decide))
  rw [report?]
  split
  · rename_i promoted
    simp only [Bool.and_eq_true, Option.isNone_iff_eq_none] at promoted
    rw [strike?, if_pos (told promoted.1.2)]
    rfl
  · rfl

/-! ### Reading a command -/

/-- The report of what was found in a command. -/
def Findings.report (f : Findings) (defaults : Request) : Report :=
  (f.report? defaults).get (f.isSome_report? defaults)

/-- Reads a command over defaults. -/
def readCommand (command : Text) (defaults : Request) : Report :=
  (Findings.ofCommand command).report defaults

end CurlSnippets
