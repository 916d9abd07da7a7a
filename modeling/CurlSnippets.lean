import CurlSnippets.Text.Blank
import CurlSnippets.Text.Word
import CurlSnippets.Text.Printable
import CurlSnippets.Text.Casing
import CurlSnippets.Http.Request
import CurlSnippets.Bytes.Base64
import CurlSnippets.Url.Query
import CurlSnippets.Command.Findings
import CurlSnippets.Json.Printer
import CurlSnippets.Json.Reader
import CurlSnippets.Snippet.Target
import CurlSnippets.Datum.Json
import CurlSnippets.Http.Response
import CurlSnippets.Settings
import CurlSnippets.Log.Format
import CurlSnippets.Snippet.RoundTrip
import CurlSnippets.Main
import CurlSnippets.Log.Registry
import CurlSnippets.Tracing.SetUp
import CurlSnippets.Proofs.Text.Laws
import CurlSnippets.Proofs.Command.Layout
import CurlSnippets.Proofs.Command.Places
import CurlSnippets.Proofs.Command.Search
import CurlSnippets.Proofs.Command.Stretches
import CurlSnippets.Proofs.Command.Directive
import CurlSnippets.Proofs.Command.Reading
import CurlSnippets.Proofs.Command.Report
import CurlSnippets.Proofs.Command.Refinement
import CurlSnippets.Proofs.Command.NamedUrl
import CurlSnippets.Proofs.Http.Headers
import CurlSnippets.Proofs.Snippet.ReadBack
import CurlSnippets.Proofs.Command.QuotedBody
import CurlSnippets.Proofs.Shell.Words
import CurlSnippets.Proofs.Snippet.Arguments
import CurlSnippets.Proofs.Command.Defaults
import CurlSnippets.Proofs.Snippet.HeaderPolicy
import CurlSnippets.Proofs.Json.DigitLimit
import CurlSnippets.Proofs.Snippet.Literals
import CurlSnippets.Proofs.Snippet.Refusal
import CurlSnippets.Proofs.Snippet.Outline
import CurlSnippets.Proofs.Snippet.SendsAlike
import CurlSnippets.Proofs.Bytes.Base64
import CurlSnippets.Proofs.Bytes.Utf8
import CurlSnippets.Proofs.Json.Lossless
import CurlSnippets.Proofs.Json.Printed
import CurlSnippets.Proofs.Datum.JsonBody
import CurlSnippets.Proofs.Command.QuotedText
import CurlSnippets.Proofs.CommandLine.Run
import CurlSnippets.Proofs.Snippet.JsonPayload
import CurlSnippets.Proofs.Command.QuotedWord
import CurlSnippets.Proofs.Url.Query
import CurlSnippets.Proofs.Literal.Java
import CurlSnippets.Proofs.Literal.Go
import CurlSnippets.Proofs.Literal.Rust
import CurlSnippets.Proofs.Literal.SingleQuoted
import CurlSnippets.Proofs.Literal.Display
import CurlSnippets.Proofs.Snippet.JsonLayout
import CurlSnippets.Proofs.Command.NamedMethod
import CurlSnippets.Proofs.Command.LeadingUrl
import CurlSnippets.Proofs.Number.Overflow
import CurlSnippets.Proofs.Json.Floats
import CurlSnippets.Proofs.Number.Reread
import CurlSnippets.Proofs.Literal.Expression
import CurlSnippets.Proofs.Snippet.PythonPayload
import CurlSnippets.Proofs.Datum.Encodable
import CurlSnippets.Proofs.Command.DoubleQuoted
import CurlSnippets.Proofs.Snippet.SentData
import CurlSnippets.Proofs.Number.Exact
import CurlSnippets.Proofs.Snippet.ScriptNumbers
import CurlSnippets.Proofs.Http.Credentials
import CurlSnippets.Proofs.Http.Cookies
import CurlSnippets.Proofs.Tracing.Exporters
import CurlSnippets.Proofs.Tracing.SetUp
