import CurlSnippets.Command.Findings
import CurlSnippets.Snippet.Curl

/-!
# Requests written as a command and read back

A request is written as a curl command, and that command is read over no defaults.  The round trip
is stable if what was read is written as the same command again.
-/

namespace CurlSnippets

/-- A request written as a command and read back. -/
structure RoundTrip where
  command : Text
  /-- What was read. -/
  request : Request
deriving DecidableEq

/-- Writes a request as a command and reads it back. -/
def Request.roundTrip (r : Request) : Except DigitLimitError RoundTrip :=
  match Snippet.curl r with
  | .ok command => .ok ⟨command, (readCommand command {}).request⟩
  | .error e => .error e

/-- Whether what was read is written as the same command again. -/
def RoundTrip.stable (t : RoundTrip) : Bool :=
  match Snippet.curl t.request with
  | .ok command => command = t.command
  | .error _ => false

end CurlSnippets
