import CurlSnippets.Command.Layout
import CurlSnippets.Command.Search
import CurlSnippets.Text.Casing
import CurlSnippets.Text.Word

/-!
# What options look like

The patterns for the options of a command in normal layout.  An option begins a token, and its value
is the rest of a pair of quotes or a bare token.  Nothing here looks at what a value means.
-/

namespace CurlSnippets.Command

/-! ### Values -/

/-- Whether a character can stand in a bare token. -/
def isBare (c : Char) : Bool := !Text.isBlank c && c ≠ '\'' && c ≠ '"'

/-- A bare token, and what follows it. -/
def bare? (t : Text) : Option (Text × Text) :=
  match t.takeWhile isBare with
  | [] => none
  | token => some (token, t.dropWhile isBare)

/-- The text up to the next `quote`, and what follows that. -/
def closed? (quote : Char) (t : Text) : Option (Text × Text) :=
  match t.dropWhile (· ≠ quote) with
  | [] => none
  | _ :: behind => some (t.takeWhile (· ≠ quote), behind)

/-- A text between quotes of one kind, and what follows it. -/
def quotedBy? (quote : Char) : Text → Option (Text × Text)
  | [] => none
  | c :: rest => if c = quote then closed? quote rest else none

/-- A value with or without quotes around it, and what follows it. -/
def value? (t : Text) : Option (Text × Text) :=
  match t with
  | '\'' :: rest => closed? '\'' rest
  | '"' :: rest => closed? '"' rest
  | _ => bare? t

/-- A stretch between apostrophes in which `'\''` may stand, as written, and what follows it. -/
def escapedSingle? : Text → Option (Text × Text)
  | '\'' :: rest => (singleSpan? rest).map fun n => (rest.take (n - 1), rest.drop n)
  | _ => none

/-- A word after a quote or none. -/
def word? (t : Text) : Option (Text × Text) :=
  let inner := match t with
    | '\'' :: rest => rest
    | '"' :: rest => rest
    | _ => t
  match inner.takeWhile Text.isWord with
  | [] => none
  | word => some (word, inner.dropWhile Text.isWord)

/-- A text between two quotes of one kind that has no quote of either kind in it. -/
def quotedUrl? : Text → Option (Text × Text)
  | [] => none
  | quote :: rest =>
    if quote = '\'' || quote = '"' then
      match rest.takeWhile (fun c => c ≠ '\'' && c ≠ '"'),
          rest.dropWhile (fun c => c ≠ '\'' && c ≠ '"') with
      | [], _ => none
      | _, [] => none
      | content, close :: behind => if close = quote then some (content, behind) else none
    else none

/-! ### Options -/

/-- Whether a token can begin after the character `before`. -/
def beginsToken (before : Option Char) : Bool :=
  match before with
  | none => true
  | some c => Text.isBlank c

/-- What follows one of the names and the blanks behind it, as far as a value is read there. -/
def named? {α : Type} (value : Text → Option (α × Text)) (names : List Text) (t : Text) :
    Option (α × Text) :=
  names.findSome? fun name =>
    match Text.after? name t with
    | some (c :: rest) => if Text.isBlank c then value (Text.dropBlanks rest) else none
    | _ => none

/-- An option with a value. -/
def option {α : Type} (names : List Text) (value : Text → Option (α × Text)) : Pattern α :=
  fun before t => if beginsToken before then named? value names t else none

/-- An option without a value: nothing but a blank or the end follows its name. -/
def switch (names : List Text) : Pattern Unit := fun before t =>
  if beginsToken before then
    names.findSome? fun name =>
      match Text.after? name t with
      | some [] => some ((), [])
      | some (c :: rest) => if Text.isBlank c then some ((), c :: rest) else none
      | none => none
  else none

/-- A value right after the word `curl`. -/
def afterCurl (value : Text → Option (Text × Text)) : Pattern Text := fun before t =>
  match before with
  | none => named? value ["curl"] t
  | some c => if Text.isWord c then none else named? value ["curl"] t

/-- A web address in a bare token. -/
def address : Pattern Text := fun _ t =>
  (["https://", "http://"] : List Text).findSome? fun scheme =>
    match Text.after? scheme t with
    | some rest => (bare? rest).map fun (token, behind) => (scheme ++ token, behind)
    | none => none

/-! ### The options that are looked for -/

/-- The methods of a command. -/
def methodOption : Pattern Text := option ["-X", "--request"] word?

/-- The headers of a command. -/
def headerOption : Pattern Text := option ["-H", "--header"] value?

/-- The credentials of a command. -/
def userOption : Pattern Text := option ["-u", "--user"] value?

/-- The cookies of a command. -/
def cookieOption : Pattern Text := option ["-b", "--cookie"] value?

/-- The url given by name. -/
def urlOption : Pattern Text := option ["--url"] value?

/-- The switch that accepts any certificate. -/
def insecureSwitch : Pattern Unit := switch ["-k", "--insecure"]

/-- The switch that follows redirects. -/
def locationSwitch : Pattern Unit := switch ["-L", "--location"]

/-- The names of the body option, by rank. -/
def bodyNames : List Text := ["-d", "--data", "--data-raw", "--data-binary"]

/-- The forms of the body option, by rank: under each name first an apostrophe-quoted payload, then
one in double quotes, then a bare one. -/
def bodyOptions : List (Pattern Text) :=
  bodyNames.flatMap fun name =>
    [option [name] escapedSingle?, option [name] (quotedBy? '"'), option [name] bare?]

end CurlSnippets.Command
