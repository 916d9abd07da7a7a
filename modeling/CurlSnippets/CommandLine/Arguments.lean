import CurlSnippets.Text.Digit
import CurlSnippets.Text.Quoted

/-!
# Arguments of the command line

The words of a command line and what they ask for.  Options may stand anywhere, may be shortened as
long as only one fits, and may have their value attached; letters of options without a value may be
run together.  One more word names a file.  What follows `--` is never an option.
-/

namespace CurlSnippets.CommandLine

/-- The options. -/
inductive Switch where
  | help | target | strict | listTargets
deriving DecidableEq, Repr

namespace Switch

/-- Every option in the order in which help lists them. -/
def all : List Switch := [.help, .target, .strict, .listTargets]

/-- The spellings of an option. -/
def spellings : Switch → List Text
  | .help => ["-h", "--help"]
  | .target => ["-t", "--target"]
  | .strict => ["--strict"]
  | .listTargets => ["--list-targets"]

/-- Whether an option has a value. -/
def hasValue (s : Switch) : Bool := s = .target

/-- The name of an option in messages. -/
def name (s : Switch) : Text := Text.join "/" s.spellings

/-- Every spelling with its option, in order. -/
def table : List (Text × Switch) := all.flatMap fun s => s.spellings.map fun t => (t, s)

/-- The option of a spelling. -/
def ofSpelling? (t : Text) : Option Switch := table.lookup t

end Switch

/-- Why a command line is refused. -/
inductive UsageError where
  /-- A shortened option fits several. -/
  | ambiguous (word : Text) (spellings : List Text)
  /-- An option lacks its value. -/
  | missingValue (s : Switch)
  /-- A value is attached to an option that has none. -/
  | unwantedValue (s : Switch) (value : Text)
  /-- Words that are neither options nor the name of the file. -/
  | unrecognized (words : List Text)
  /-- The file cannot be read. -/
  | unreadable (path reason : Text)
deriving DecidableEq

/-- The wording of a refusal. -/
def UsageError.message : UsageError → Text
  | .ambiguous word spellings =>
    List.flatten ["ambiguous option: ", word, " could match ", Text.join ", " spellings]
  | .missingValue s => List.flatten ["argument ", s.name, ": expected one argument"]
  | .unwantedValue s value =>
    List.flatten ["argument ", s.name, ": ignored explicit argument ", Text.quoted value]
  | .unrecognized words => "unrecognized arguments: " ++ Text.join " " words
  | .unreadable path reason => List.flatten ["can't open '", path, "': ", reason]

/-! ### Words -/

/-- What a word of a command line is. -/
inductive Word where
  /-- A value or the name of a file. -/
  | plain (t : Text)
  /-- The first `--`, behind which every word is plain. -/
  | separator
  /-- An option in a spelling, with the value attached to it. -/
  | option (s : Switch) (spelling : Text) (attached : Option Text)
  /-- A word that looks like an option and is none. -/
  | unknown (t : Text)
deriving DecidableEq

namespace Word

/-- What an option that begins with two dashes may be short for.  An equals sign ends the name. -/
def longMatches (t : Text) : List (Switch × Text × Option Text) :=
  (Switch.table.filter fun p => Text.beginsWith (Text.cut '=' t).1 p.1).map fun p =>
    (p.2, p.1, (Text.cut '=' t).2)

/-- What a word behind one dash may be: an option of one letter with the value attached. -/
def shortMatches (t : Text) : List (Switch × Text × Option Text) :=
  Switch.table.filterMap fun p =>
    if p.1 = t.take 2 then some (p.2, p.1, some (t.drop 2))
    else if Text.beginsWith t p.1 then some (p.2, p.1, none)
    else none

/-- Whether a word is a negative number, a line break behind it aside. -/
def isNegativeNumber (t : Text) : Bool :=
  match t with
  | '-' :: rest =>
    let digits := if rest.getLast? = some '\n' then rest.dropLast else rest
    match digits.dropWhile Text.isDecimalDigit with
    | [] => !digits.isEmpty
    | '.' :: fraction => !fraction.isEmpty && fraction.all Text.isDecimalDigit
    | _ => false
  | _ => false

/-- What a word behind a dash is that spells no option out. -/
def ofDashed (t : Text) : Except UsageError Word :=
  match if Text.beginsWith "--" t then longMatches t else shortMatches t with
  | [(s, spelling, attached)] => .ok (.option s spelling attached)
  | [] => .ok (if isNegativeNumber t || t.contains ' ' then .plain t else .unknown t)
  | found => .error (.ambiguous t (found.map fun m => m.2.1))

/-- What a word before the separator is. -/
def ofText (t : Text) : Except UsageError Word :=
  match t with
  | '-' :: _ :: _ =>
    match Switch.ofSpelling? t with
    | some s => .ok (.option s t none)
    | none =>
      match Text.cut '=' t with
      | (spelling, some value) =>
        match Switch.ofSpelling? spelling with
        | some s => .ok (.option s spelling (some value))
        | none => ofDashed t
      | (_, none) => ofDashed t
  | _ => .ok (.plain t)

/-- What the words of a command line are. -/
def ofTexts : List Text → Except UsageError (List Word)
  | [] => .ok []
  | t :: ts =>
    if t = "--" then .ok (.separator :: ts.map Word.plain)
    else match ofText t with
      | .error e => .error e
      | .ok word => (ofTexts ts).map (word :: ·)

end Word

/-! ### Options run together -/

/-- What follows an option of one letter and has no value: more options of one letter, of which the
last may have a value attached. -/
def cutLetters (s : Switch) : (attached : Text) → Except UsageError (List Switch × Option Text)
  | [] => .error (.unwantedValue s [])
  | c :: rest =>
    match Switch.ofSpelling? ['-', c] with
    | none => .error (.unwantedValue s (c :: rest))
    | some next =>
      if next.hasValue then .ok ([s, next], if rest.isEmpty then none else some rest)
      else if rest.isEmpty then .ok ([s, next], none)
      else (cutLetters next rest).map fun found => (s :: found.1, found.2)

/-- The options that one word stands for, with the value attached to the last of them. -/
def cutOption (s : Switch) (spelling : Text) (attached : Option Text) :
    Except UsageError (List Switch × Option Text) :=
  match attached with
  | none => .ok ([s], none)
  | some value =>
    if s.hasValue then .ok ([s], some value)
    else if Text.beginsWith "--" spelling then .error (.unwantedValue s value)
    else cutLetters s value

/-! ### All words together -/

/-- What a command line asks for. -/
structure Arguments where
  /-- The file with the command; without one it is read from standard input. -/
  file : Option Text := none
  /-- The target; there is none if its option was given and its value dropped. -/
  target : Option Text
  strict : Bool
  listTargets : Bool := false
deriving DecidableEq

/-- What a command line comes to. -/
inductive Invocation where
  /-- Help is shown and nothing else is done. -/
  | help
  | run (a : Arguments)
deriving DecidableEq

/-- The value of an option.  Two dashes that are attached to it are taken for the separator and
dropped, and no value is left. -/
def keptValue (value : Text) : Option Text := if value = "--" then none else some value

/-- Sets what options ask for; `none` if they ask for help. -/
def Arguments.apply (value : Text) : List Switch → Arguments → Option Arguments
  | [], a => some a
  | .help :: _, _ => none
  | .target :: rest, a => Arguments.apply value rest { a with target := keptValue value }
  | .strict :: rest, a => Arguments.apply value rest { a with strict := true }
  | .listTargets :: rest, a => Arguments.apply value rest { a with listTargets := true }

/-- The words read so far. -/
structure Progress where
  arguments : Arguments
  /-- Whether a word still may name the file. -/
  fileOpen : Bool := true
  /-- The words that are of no use, in order. -/
  extras : List Text := []

namespace Progress

/-- A plain word names the file or is of no use. -/
def plain (p : Progress) (t : Text) : Progress :=
  if p.fileOpen then { p with arguments := { p.arguments with file := some t }, fileOpen := false }
  else { p with extras := p.extras ++ [t] }

/-- The end of the words. -/
def finish (p : Progress) : Except UsageError Invocation :=
  if p.extras.isEmpty then .ok (.run p.arguments) else .error (.unrecognized p.extras)

/-- Reads words one after another. -/
def read (p : Progress) : List Word → Except UsageError Invocation
  | [] => p.finish
  | .unknown t :: rest => read { p with extras := p.extras ++ [t] } rest
  | [.separator] =>
    if p.fileOpen then p.finish else finish { p with extras := p.extras ++ [("--" : Text)] }
  | .separator :: word :: rest =>
    if p.fileOpen then read p (word :: rest)
    else read { p with extras := p.extras ++ [("--" : Text)] } (word :: rest)
  | .plain t :: .separator :: rest =>
    if p.fileOpen then read (p.plain t) rest else read (p.plain t) (.separator :: rest)
  | .plain t :: rest => read (p.plain t) rest
  | .option s spelling attached :: rest =>
    match cutOption s spelling attached with
    | .error e => .error e
    | .ok (switches, value) =>
      if switches.getLast?.any Switch.hasValue then
        match value, rest with
        | some value, rest =>
          match p.arguments.apply value switches with
          | some a => read { p with arguments := a } rest
          | none => .ok .help
        | none, .plain value :: rest =>
          match p.arguments.apply value switches with
          | some a => read { p with arguments := a } rest
          | none => .ok .help
        | none, _ => .error (.missingValue .target)
      else
        match p.arguments.apply [] switches with
        | some a => read { p with arguments := a } rest
        | none => .ok .help

end Progress

/-- Reads a command line, with defaults for what it does not say. -/
def Arguments.read (defaults : Arguments) (words : List Text) : Except UsageError Invocation :=
  match Word.ofTexts words with
  | .error e => .error e
  | .ok words => Progress.read ⟨defaults, true, []⟩ words

end CurlSnippets.CommandLine
