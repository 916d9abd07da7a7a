import CurlSnippets.CommandLine.Arguments
import CurlSnippets.Text.Wrap

/-!
# Help and usage

The texts that explain the command line.  Each argument is listed with its explanation in a second
column, wrapped to what is left of a screen of eighty characters.
-/

namespace CurlSnippets.CommandLine

/-- The name of the program. -/
def program : Text := "curlbridge"

/-- The line that sums up the arguments. -/
def usage : Text :=
  List.flatten ["usage: ", program, " [-h] [-t TARGET] [--strict] [--list-targets] [file]\n"]

/-- The column in which explanations stand. -/
def helpColumn : Nat := 24

/-- The width of the screen, less a margin. -/
def helpWidth : Nat := 78

/-- An explanation as one paragraph: runs of blanks of ASCII become one space, and none stands at
either end. -/
def paragraph (t : Text) : Text :=
  Text.trim (Text.join " " ((splitBlank t).filter fun word => !word.isEmpty))
where
  /-- The words between blanks. -/
  splitBlank (t : Text) : List Text :=
    Text.split ' ' (t.map fun c => if Text.Wrap.isSpace c then ' ' else c)

/-- An argument with its explanation. -/
def helpEntry (invocation explanation : Text) : Text :=
  let indent := Text.fill helpColumn ' '
  let lines := Text.wrap (helpWidth - helpColumn) (paragraph explanation)
  if invocation.length + 4 ≤ helpColumn then
    match lines with
    | [] => List.flatten ["  ", invocation, "\n"]
    | first :: rest =>
      List.flatten ["  ", Text.padRight (helpColumn - 4) ' ' invocation, "  ", first, "\n",
        rest.flatMap fun line => indent ++ line ++ ['\n']]
  else List.flatten ["  ", invocation, "\n", lines.flatMap fun line => indent ++ line ++ ['\n']]

/-- How an option is written, with a name for its value. -/
def Switch.invocation (s : Switch) : Text :=
  Text.join ", " (s.spellings.map fun t => if s.hasValue then t ++ " TARGET" else t)

/-- What an option does. -/
def Switch.explanation (defaultTarget : Text) : Switch → Text
  | .help => "show this help message and exit"
  | .target => List.flatten ["Snippet target. (default: ", defaultTarget, ")"]
  | .strict => "Fail on unknown targets instead of rendering curl."
  | .listTargets => "Print the supported targets and exit."

/-- The text of help. -/
def help (defaultTarget : Text) : Text :=
  List.flatten [usage, "\nConvert a curl command into a code snippet.\n",
    "\npositional arguments:\n",
    helpEntry "file" "File containing the curl command. Reads stdin when omitted.",
    "\noptions:\n",
    Switch.all.flatMap fun s => helpEntry s.invocation (s.explanation defaultTarget)]

/-- What is printed for a refused command line. -/
def UsageError.report (e : UsageError) : Text :=
  List.flatten [usage, program, ": error: ", e.message, "\n"]

end CurlSnippets.CommandLine
