import CurlSnippets.Form.Encoded
import CurlSnippets.Http.Headers
import CurlSnippets.Snippet.Literal

/-!
# Requests as programs that use reqwest

Every method but one has a call of its own.
-/

namespace CurlSnippets.Snippet

/-- The call that begins a request of a method. -/
def reqwestCall (method : Method) (url : Text) : Text :=
  match method with
  | .options => "client.request(reqwest::Method::" ++ method.name ++ ", " ++ url ++ ")"
  | _ => "client." ++ method.name.map Char.toLower ++ "(" ++ url ++ ")"

/-- The call that adds one header. -/
def reqwestHeader (p : Text × Text) : Text :=
  "        .header(" ++ Literal.rust p.1 ++ ", " ++ Literal.rust p.2 ++ ")"

/-- The expression for the body, if there is one. -/
def reqwestBody? (r : Request) : Option Text :=
  match r.body with
  | .none => none
  | .raw content _ => some (Literal.rustRaw content)
  | .form fields => some (Literal.rust (Form.encode fields))

/-- The call that adds the body. -/
def reqwestBodyCall (body : Text) : Text := "        .body(" ++ body ++ ")"

/-- A request as a program that uses reqwest. -/
def reqwest (r : Request) : Text :=
  Text.lines <| List.flatten [
    ["#[tokio::main]", "async fn main() -> Result<(), reqwest::Error> \x7b",
      "    let client = reqwest::Client::new();",
      "    let res = " ++ reqwestCall r.method (Literal.rust r.url)],
    (r.effectiveHeaders true).entries.map reqwestHeader,
    ((reqwestBody? r).map reqwestBodyCall).toList,
    ["        .send()", "        .await?;", "    println!(\"\x7b\x7d\", res.text().await?);",
      "    Ok(())", "\x7d"]]

end CurlSnippets.Snippet
