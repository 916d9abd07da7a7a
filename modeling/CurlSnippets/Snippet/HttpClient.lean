import CurlSnippets.Form.Encoded
import CurlSnippets.Http.Headers
import CurlSnippets.Snippet.Literal

/-!
# Requests as programs that use HttpClient
-/

namespace CurlSnippets.Snippet

/-- The expression for what is published as the body. -/
def httpClientPublisher (r : Request) : Text :=
  match r.body with
  | .none => "HttpRequest.BodyPublishers.noBody()"
  | .raw content _ => "HttpRequest.BodyPublishers.ofString(" ++ Literal.java content ++ ")"
  | .form fields =>
    "HttpRequest.BodyPublishers.ofString(" ++ Literal.java (Form.encode fields) ++ ")"

/-- The call that adds one header. -/
def httpClientHeader (p : Text × Text) : Text :=
  "\t\t\t.header(" ++ Literal.java p.1 ++ ", " ++ Literal.java p.2 ++ ")"

/-- A request as a program that uses HttpClient. -/
def httpClient (r : Request) : Text :=
  Text.lines <| List.flatten [
    ["import java.net.URI;", "import java.net.http.HttpClient;",
      "import java.net.http.HttpRequest;", "import java.net.http.HttpResponse;", [],
      "public class Main \x7b",
      "\tpublic static void main(String[] args) throws Exception \x7b",
      "\t\tHttpClient client = HttpClient.newHttpClient();",
      "\t\tHttpRequest request = HttpRequest.newBuilder()",
      "\t\t\t.uri(URI.create(" ++ Literal.java r.url ++ "))",
      "\t\t\t.method(" ++ Literal.java r.method.name ++ ", " ++ httpClientPublisher r ++ ")"],
    (r.effectiveHeaders true).entries.map httpClientHeader,
    ["\t\t\t.build();", [],
      "\t\tHttpResponse<String> response = client.send(request, "
        ++ "HttpResponse.BodyHandlers.ofString());",
      "\t\tSystem.out.println(response.body());", "\t\x7d", "\x7d"]]

end CurlSnippets.Snippet
