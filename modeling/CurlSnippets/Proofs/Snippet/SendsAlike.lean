import CurlSnippets.Proofs.Snippet.Literals
import CurlSnippets.Proofs.Snippet.Outline
import CurlSnippets.Snippet.Target

/-!
# Programs that tell their requests apart

Each program is written as the sequence of its fixed pieces, literals and tables.  Reading that sequence
from left to right, every piece tells where it ends, and one that may be missing or repeated begins
differently from what follows.  So two requests with the same program have the same outline, and outside
the shell no text in a request can imitate the program around it (`Target.sendsAlike_of_render_eq`).
-/

namespace CurlSnippets

open Text

/-- Whether a body is a raw payload that is declared as JSON. -/
def Body.declaresJson : Body → Bool
  | .raw _ contentType => namesJson contentType
  | _ => false

namespace Snippet

/-! ### net/http -/

theorem netHttpPayload?_eq (r : Request) :
    netHttpPayload? r = r.body.payload?.map (Payload.literal Literal.goRaw Literal.go) := by
  unfold netHttpPayload?
  cases r.body <;> rfl

theorem netHttp_eq (r : Request) : netHttp r = List.flatten [
    lines ["package main", [], "import (", "\t\"fmt\"", "\t\"io\"", "\t\"net/http\""],
    r.body.payload?.toList.flatMap fun _ => below ["\t\"strings\""],
    below [")"], below [[], "func main() \x7b", "\turl := "], Literal.go r.url,
    r.body.payload?.toList.flatMap
      (framed "\tpayload := strings.NewReader(" ")" (Payload.literal Literal.goRaw Literal.go)),
    below ["\treq, _ := http.NewRequest("], Literal.go r.method.name,
    ", url, ", if r.body.payload?.isSome then "payload" else "nil", ")",
    (r.effectiveHeaders true).entries.flatMap (headerLine "\treq.Header.Add(" Literal.go),
    below ["\tclient := &http.Client\x7b\x7d"], below ["\tres, _ := client.Do(req)",
      "\tdefer res.Body.Close()", "\tbody, _ := io.ReadAll(res.Body)",
      "\tfmt.Println(string(body))", "\x7d"]] := by
  have imports : below (if r.body.payload?.isSome then ["\t\"strings\""] else []) =
      r.body.payload?.toList.flatMap fun _ => below ["\t\"strings\""] := by
    cases r.body.payload? <;> rfl
  have reader : ∀ p, '\n' :: (netHttpReader ∘ Payload.literal Literal.goRaw Literal.go) p =
      framed "\tpayload := strings.NewReader(" ")" (Payload.literal Literal.goRaw Literal.go) p :=
    fun p => (framed_eq _ _ _ p).symm
  have header : ∀ p, '\n' :: netHttpHeader p = headerLine "\treq.Header.Add(" Literal.go p :=
    fun p => (headerLine_eq _ _ p).symm
  unfold netHttp
  simp only [netHttpPayload?_eq, Option.isSome_map, Option.map_map, Option.toList_map, imports,
    below_map reader, below_map header, lines_cons, below_cons, below_append, below_nil,
    List.flatten_cons, List.flatten_nil, List.cons_append, List.append_assoc, List.nil_append,
    List.append_nil]

theorem outline_netHttp {r₁ r₂ : Request} (h : netHttp r₁ = netHttp r₂) :
    r₁.outline Payload.text = r₂.outline Payload.text := by
  rw [netHttp_eq, netHttp_eq] at h
  obtain ⟨-, h⟩ := (Shows.const _).optional (fun _ => startsIn_self _) (startsIn_append _ _)
    (startsIn_append _ _) (by decide) (List.append_cancel_left h)
  obtain ⟨url, h⟩ := Literal.shows_go (List.append_cancel_left (List.append_cancel_left h))
  have literal := Payload.shows_literal Literal.shows_go Literal.rawOr_goRaw Literal.rawOr_go
  obtain ⟨payload, h⟩ := (shows_framed _ _ literal).optional (startsIn_framed _ _ _)
    (startsIn_append _ _) (startsIn_append _ _) (by decide) h
  obtain ⟨method, h⟩ := Literal.shows_go (List.append_cancel_left h)
  -- the argument says again whether there is a payload
  have argument : r₁.body.payload?.isSome = r₂.body.payload?.isSome := by
    simpa using congrArg Option.isSome payload
  rw [argument] at h
  have h := List.append_cancel_left (List.append_cancel_left (List.append_cancel_left h))
  obtain ⟨headers, -⟩ := (shows_framed _ _ (shows_headerArguments Literal.shows_go)).items
    (startsIn_framed _ _ _)
    (startsIn_append _ _) (startsIn_append _ _) (by decide) h
  exact outline_eq method url (Fields.ext_entries (by simpa using headers)) payload

/-! ### reqwest -/

theorem reqwestBody?_eq (r : Request) :
    reqwestBody? r = r.body.payload?.map (Payload.literal Literal.rustRaw Literal.rust) := by
  unfold reqwestBody?
  cases r.body <;> rfl

/-- The call that begins a request of a method, up to the url. -/
def reqwestStart : Method → Text
  | .options => "client.request(reqwest::Method::" ++ Method.options.name ++ ", "
  | method => "client." ++ method.name.map Char.toLower ++ "("

theorem reqwestCall_eq (method : Method) (url : Text) :
    reqwestCall method url = reqwestStart method ++ (url ++ ")") := by
  unfold reqwestCall reqwestStart
  cases method <;> simp only [List.append_assoc]

theorem shows_reqwestStart : Shows reqwestStart id := by
  have apart : ∀ m ∈ Method.all, ∀ n ∈ Method.all, m ≠ n → Apart (reqwestStart m) (reqwestStart n) := by
    decide
  exact Shows.of_apart fun m n => apart m m.mem_all n n.mem_all

theorem reqwest_eq (r : Request) : reqwest r = List.flatten [
    lines ["#[tokio::main]", "async fn main() -> Result<(), reqwest::Error> \x7b",
      "    let client = reqwest::Client::new();"],
    below ["    let res = "], reqwestStart r.method, Literal.rust r.url, ")",
    (r.effectiveHeaders true).entries.flatMap (headerLine "        .header(" Literal.rust),
    r.body.payload?.toList.flatMap
      (framed "        .body(" ")" (Payload.literal Literal.rustRaw Literal.rust)),
    below ["        .send()"], below ["        .await?;",
      "    println!(\"\x7b\x7d\", res.text().await?);", "    Ok(())", "\x7d"]] := by
  have header : ∀ p, '\n' :: reqwestHeader p = headerLine "        .header(" Literal.rust p :=
    fun p => (headerLine_eq _ _ p).symm
  have body : ∀ p, '\n' :: (reqwestBodyCall ∘ Payload.literal Literal.rustRaw Literal.rust) p =
      framed "        .body(" ")" (Payload.literal Literal.rustRaw Literal.rust) p :=
    fun p => (framed_eq _ _ _ p).symm
  unfold reqwest
  simp only [reqwestBody?_eq, reqwestCall_eq, Option.map_map, Option.toList_map, below_map header,
    below_map body, lines_cons, below_cons, below_append, below_nil, List.flatten_cons,
    List.flatten_nil, List.cons_append, List.append_assoc, List.nil_append, List.append_nil]

theorem outline_reqwest {r₁ r₂ : Request} (h : reqwest r₁ = reqwest r₂) :
    r₁.outline Payload.text = r₂.outline Payload.text := by
  rw [reqwest_eq, reqwest_eq] at h
  obtain ⟨method, h⟩ := shows_reqwestStart (List.append_cancel_left (List.append_cancel_left h))
  obtain ⟨url, h⟩ := Literal.shows_rust h
  -- behind the headers stands a payload or the call that sends
  obtain ⟨headers, h⟩ := (shows_framed _ _ (shows_headerArguments Literal.shows_rust)).items
    (startsIn_framed _ _ _)
    (startsIn_flatMap_append (startsIn_framed _ _ _) (startsIn_append _ _) _)
    (startsIn_flatMap_append (startsIn_framed _ _ _) (startsIn_append _ _) _)
    (by decide) (List.append_cancel_left h)
  have literal := Payload.shows_literal Literal.shows_rust Literal.rawOr_rustRaw Literal.rawOr_rust
  obtain ⟨payload, -⟩ := (shows_framed _ _ literal).optional (startsIn_framed _ _ _)
    (startsIn_append _ _) (startsIn_append _ _) (by decide) h
  exact outline_eq (congrArg Method.name method) url (Fields.ext_entries (by simpa using headers))
    payload

/-! ### HttpClient -/

/-- The expression for what is published, behind the name of its class. -/
def publisher (payload : Option Payload) : Text :=
  payload.elim "HttpRequest.BodyPublishers.noBody()" fun p =>
    "HttpRequest.BodyPublishers.ofString(" ++ (Literal.java p.text ++ ")")

theorem shows_publisher : Shows publisher (Option.map Payload.text) :=
  (((Literal.shows_java.comp Payload.text).append_const ")").const_append
    "HttpRequest.BodyPublishers.ofString(").elim (fun _ => startsIn_append _ _) (by decide)

theorem httpClientPublisher_eq (r : Request) :
    httpClientPublisher r = publisher r.body.payload? := by
  unfold httpClientPublisher publisher
  cases r.body <;>
    simp only [Body.payload?, Payload.text, Option.elim_none, Option.elim_some, List.append_assoc]

theorem httpClient_eq (r : Request) : httpClient r = List.flatten [
    lines ["import java.net.URI;", "import java.net.http.HttpClient;",
      "import java.net.http.HttpRequest;", "import java.net.http.HttpResponse;", [],
      "public class Main \x7b",
      "\tpublic static void main(String[] args) throws Exception \x7b",
      "\t\tHttpClient client = HttpClient.newHttpClient();",
      "\t\tHttpRequest request = HttpRequest.newBuilder()"],
    below ["\t\t\t.uri(URI.create("], Literal.java r.url,
    "))", below ["\t\t\t.method("], Literal.java r.method.name,
    ", ", publisher r.body.payload?, ")",
    (r.effectiveHeaders true).entries.flatMap (headerLine "\t\t\t.header(" Literal.java),
    below ["\t\t\t.build();"], below [[],
      "\t\tHttpResponse<String> response = client.send(request, "
        ++ "HttpResponse.BodyHandlers.ofString());",
      "\t\tSystem.out.println(response.body());", "\t\x7d", "\x7d"]] := by
  have header : ∀ p, '\n' :: httpClientHeader p = headerLine "\t\t\t.header(" Literal.java p :=
    fun p => (headerLine_eq _ _ p).symm
  unfold httpClient
  simp only [httpClientPublisher_eq, below_map header, lines_cons, below_cons, below_append, below_nil,
    List.flatten_cons, List.flatten_nil, List.cons_append, List.append_assoc, List.nil_append,
    List.append_nil]

theorem outline_httpClient {r₁ r₂ : Request} (h : httpClient r₁ = httpClient r₂) :
    r₁.outline Payload.text = r₂.outline Payload.text := by
  rw [httpClient_eq, httpClient_eq] at h
  obtain ⟨url, h⟩ := Literal.shows_java (List.append_cancel_left (List.append_cancel_left h))
  obtain ⟨method, h⟩ := Literal.shows_java (List.append_cancel_left (List.append_cancel_left h))
  obtain ⟨payload, h⟩ := shows_publisher (List.append_cancel_left h)
  obtain ⟨headers, -⟩ := (shows_framed _ _ (shows_headerArguments Literal.shows_java)).items
    (startsIn_framed _ _ _)
    (startsIn_append _ _) (startsIn_append _ _) (by decide) (List.append_cancel_left h)
  exact outline_eq method url (Fields.ext_entries (by simpa using headers)) payload

/-! ### Guzzle -/

/-- The fields, if there are any. -/
def someFields? (f : Fields) : Option Fields := if f.isEmpty then none else some f

theorem someFields?_injective : Function.Injective someFields? := by
  intro f g h
  unfold someFields? at h
  split at h <;> split at h
  · rename_i hf hg
    exact Fields.ext_entries ((List.isEmpty_iff.1 hf).trans (List.isEmpty_iff.1 hg).symm)
  · -- one table is empty and the other is not
    exact absurd h (by simp)
  · exact absurd h (by simp)
  · exact Option.some.inj h

/-- The option of the headers. -/
def guzzleTable : Fields → Text :=
  framed "    'headers' => " "," fun f => Literal.phpArray f "    "

/-- The option of a payload. -/
def guzzleOption : Payload → Text
  | .raw content => framed "    'body' => " "," Literal.php content
  | .form fields =>
    framed "    'form_params' => " "," (fun f => Literal.phpArray f "    ") (Form.sent fields)

theorem shows_guzzleOption : Shows guzzleOption Payload.sent :=
  shows_sent (shows_framed "    'body' => " "," Literal.shows_php)
    ((shows_framed "    'form_params' => " "," Literal.shows_phpArray).comp Form.sent)
    (startsIn_framed _ _ _) (fun _ => startsIn_framed _ _ _ _) (by decide)

theorem startsIn_guzzleOption (p : Payload) :
    StartsIn [below ["    'body' => "], below ["    'form_params' => "]] (guzzleOption p) := by
  cases p with
  | raw content => exact ⟨_, List.mem_cons_self, List.prefix_append _ _⟩
  | form fields => exact ⟨_, List.mem_cons_of_mem _ List.mem_cons_self, List.prefix_append _ _⟩

theorem guzzle_eq (r : Request) : guzzle r = List.flatten [
    lines ["<?php", [], "$client = new \\GuzzleHttp\\Client();", []],
    below ["$response = $client->request("], Literal.php r.method.name, ", ", Literal.php r.url, ", [",
    (someFields? (r.effectiveHeaders true)).toList.flatMap guzzleTable,
    r.body.payload?.toList.flatMap guzzleOption,
    (unchecked? r).toList.flatMap fun _ => below ["    'verify' => false,"],
    below ["]);"], below [[], "echo $response->getBody();"]] := by
  have headers : below (guzzleHeaders r) =
      (someFields? (r.effectiveHeaders true)).toList.flatMap guzzleTable := by
    unfold guzzleHeaders someFields? guzzleTable
    dsimp only
    cases (r.effectiveHeaders true).isEmpty
    · exact congrArg (· ++ []) (framed_eq _ _ _ _).symm
    · rfl
  have body : below (guzzleBody r) = r.body.payload?.toList.flatMap guzzleOption := by
    unfold guzzleBody
    cases r.body with
    | none => rfl
    | raw content contentType => exact congrArg (· ++ []) (framed_eq _ _ _ content).symm
    | form fields =>
      have table := framed_eq "    'form_params' => " "," (fun f => Literal.phpArray f "    ")
        (Form.sent fields)
      exact congrArg (· ++ []) table.symm
  have verify : below (if r.verifySsl then [] else ["    'verify' => false,"]) =
      (unchecked? r).toList.flatMap fun _ => below ["    'verify' => false,"] := by
    unfold unchecked?
    cases r.verifySsl <;> rfl
  unfold guzzle
  simp only [headers, body, verify, lines_cons, below_cons, below_append, below_nil, List.flatten_cons,
    List.flatten_nil, List.cons_append, List.append_assoc, List.nil_append, List.append_nil]

theorem outline_guzzle {r₁ r₂ : Request} (h : guzzle r₁ = guzzle r₂) :
    r₁.outline Payload.sent = r₂.outline Payload.sent ∧ r₁.verifySsl = r₂.verifySsl := by
  rw [guzzle_eq, guzzle_eq] at h
  obtain ⟨method, h⟩ := Literal.shows_php (List.append_cancel_left (List.append_cancel_left h))
  obtain ⟨url, h⟩ := Literal.shows_php (List.append_cancel_left h)
  -- behind an option stands any of the later ones, or the end of the options
  obtain ⟨headers, h⟩ := (shows_framed _ _ Literal.shows_phpArray).optional
    (startsIn_framed _ _ _)
    (startsIn_flatMap_append startsIn_guzzleOption
      (startsIn_flatMap_append (fun _ => startsIn_self _) (startsIn_append _ _) _) _)
    (startsIn_flatMap_append startsIn_guzzleOption
      (startsIn_flatMap_append (fun _ => startsIn_self _) (startsIn_append _ _) _) _)
    (by decide) (List.append_cancel_left h)
  obtain ⟨payload, h⟩ := shows_guzzleOption.optional startsIn_guzzleOption
    (startsIn_flatMap_append (fun _ => startsIn_self _) (startsIn_append _ _) _)
    (startsIn_flatMap_append (fun _ => startsIn_self _) (startsIn_append _ _) _)
    (by decide) h
  obtain ⟨verify, -⟩ := (Shows.const _).optional (fun _ => startsIn_self _) (startsIn_append _ _)
    (startsIn_append _ _) (by decide) h
  have fields : someFields? (r₁.effectiveHeaders true) = someFields? (r₂.effectiveHeaders true) := by
    simpa using headers
  exact ⟨outline_eq method url (someFields?_injective fields) payload,
    verifySsl_eq (by simpa using verify)⟩

/-! ### fetch -/

theorem jsonPayload?_of_undeclared (content : Text) {contentType : Option Text}
    (h : namesJson contentType = false) : jsonPayload? content contentType = .ok none := by
  rw [jsonPayload?, h, if_neg Bool.false_ne_true]

theorem fetchBody?_eq {r : Request} (h : r.body.declaresJson = false) :
    fetchBody? r = .ok (r.body.payload?.map fun p => Literal.javascript p.text) := by
  unfold fetchBody?
  cases hb : r.body with
  | none => rfl
  | raw content contentType =>
    rw [hb, Body.declaresJson] at h
    simp only [jsonPayload?_of_undeclared content h]
    rfl
  | form fields => rfl

/-- The member for a payload, behind a comma. -/
def fetchMember (p : Payload) : Text := [','] ++ (below ["  body: "] ++ Literal.javascript p.text)

theorem shows_fetchMember : Shows fetchMember Payload.text :=
  ((Literal.shows_javascript.comp Payload.text).const_append (below ["  body: "])).const_append [',']

theorem fetch_eq {r : Request} (h : r.body.declaresJson = false) : fetch r = .ok (List.flatten [
    "fetch(", Literal.javascript r.url, ", \x7b", below ["  method: "],
    Literal.javascript r.method.name, ",", below ["  headers: "],
    indented (Json.ofFields (r.effectiveHeaders true)).print,
    r.body.payload?.toList.flatMap fetchMember, below ["\x7d);"]]) := by
  unfold fetch fetchMember
  rw [fetchBody?_eq h, Except.map]
  refine congrArg Except.ok ?_
  cases r.body.payload? <;>
    simp only [Option.map_none, Option.map_some, Option.isSome_none, Option.isSome_some,
      Option.toList_none, Option.toList_some, if_true, if_false, Bool.false_eq_true,
      List.flatMap_cons, List.flatMap_nil, lines_cons, below_cons, below_nil, List.flatten_cons,
      List.flatten_nil, List.cons_append, List.append_assoc, List.nil_append, List.append_nil]

theorem outline_fetch {r₁ r₂ : Request} (h₁ : r₁.body.declaresJson = false)
    (h₂ : r₂.body.declaresJson = false) (h : fetch r₁ = fetch r₂) :
    r₁.outline Payload.text = r₂.outline Payload.text := by
  rw [fetch_eq h₁, fetch_eq h₂] at h
  have h := Except.ok.inj h
  obtain ⟨url, h⟩ := Literal.shows_javascript (List.append_cancel_left h)
  obtain ⟨method, h⟩ := Literal.shows_javascript (List.append_cancel_left (List.append_cancel_left h))
  obtain ⟨headers, h⟩ := Literal.shows_javascriptTable
    (List.append_cancel_left (List.append_cancel_left h))
  obtain ⟨payload, -⟩ := shows_fetchMember.optional (fun _ => startsIn_append _ _)
    (startsIn_append _ _) (startsIn_append _ _) (by decide) h
  exact outline_eq method url headers payload

/-! ### requests -/

/-- The expression for a payload. -/
def pythonPayload : Payload → Text
  | .raw content => Literal.pythonRaw content
  | .form fields => Literal.pythonValue 0 (Json.ofFields (Form.sent fields))

theorem shows_pythonPayload : Shows pythonPayload Payload.sent := by
  have raw : ∀ content, StartsIn [['"']] (Literal.pythonRaw content) := by
    intro content
    unfold Literal.pythonRaw
    split
    · exact startsIn_append ['"'] _
    · exact startsIn_append ['"'] _
  have form : ∀ fields, StartsIn [['\x7b']] (Literal.pythonValue 0 (Json.ofFields (Form.sent fields))) := by
    intro fields
    rw [Literal.pythonValue_ofFields, bracketed]
    split
    · exact startsIn_append ['\x7b'] _
    · exact startsIn_append ['\x7b'] _
  exact shows_sent (Literal.shows_python.of_rawOr Literal.rawOr_pythonRaw)
    (Literal.shows_pythonTable.comp Form.sent) raw form (by decide)

theorem requestsPayload?_eq {r : Request} (h : r.body.declaresJson = false) :
    requestsPayload? r =
      .ok (r.body.payload?.map fun p => ("payload = " ++ pythonPayload p, "data=payload")) := by
  unfold requestsPayload?
  cases hb : r.body with
  | none => rfl
  | raw content contentType =>
    rw [hb, Body.declaresJson] at h
    simp only [jsonPayload?_of_undeclared content h]
    rfl
  | form fields => rfl

theorem requests_eq {r : Request} (h : r.body.declaresJson = false) : requests r = .ok (List.flatten [
    lines ["import requests", [], "url = "], Literal.python r.url, below ["headers = "],
    Literal.pythonValue 0 (Json.ofFields (r.effectiveHeaders true)),
    r.body.payload?.toList.flatMap fun p => below ["payload = "] ++ pythonPayload p,
    below ["response = requests.request("], Literal.python r.method.name, ", url, ", "headers=headers",
    r.body.payload?.toList.flatMap fun _ => ", " ++ "data=payload".toList,
    (unchecked? r).toList.flatMap fun _ => ", " ++ "verify=False".toList,
    ")", below ["print(response.text)"]]) := by
  unfold requests unchecked?
  rw [requestsPayload?_eq h, Except.map]
  refine congrArg Except.ok ?_
  cases r.body.payload? <;> cases r.verifySsl <;>
    simp only [Option.map_none, Option.map_some, Option.toList_none, Option.toList_some, if_true,
      if_false, Bool.false_eq_true, List.flatMap_cons, List.flatMap_nil, lines_cons, below_cons,
      below_nil, join_cons, List.flatten_cons, List.flatten_nil, List.cons_append, List.append_assoc,
      List.nil_append, List.append_nil]

theorem outline_requests {r₁ r₂ : Request} (h₁ : r₁.body.declaresJson = false)
    (h₂ : r₂.body.declaresJson = false) (h : requests r₁ = requests r₂) :
    r₁.outline Payload.sent = r₂.outline Payload.sent ∧ r₁.verifySsl = r₂.verifySsl := by
  rw [requests_eq h₁, requests_eq h₂] at h
  have h := Except.ok.inj h
  obtain ⟨url, h⟩ := Literal.shows_python (List.append_cancel_left h)
  obtain ⟨headers, h⟩ := Literal.shows_pythonTable (List.append_cancel_left h)
  obtain ⟨payload, h⟩ := (shows_pythonPayload.const_append _).optional
    (fun _ => startsIn_append _ _) (startsIn_append _ _) (startsIn_append _ _) (by decide) h
  obtain ⟨method, h⟩ := Literal.shows_python (List.append_cancel_left h)
  -- the argument for the payload tells nothing that its line has not told
  obtain ⟨-, h⟩ := (Shows.const _).optional (fun _ => startsIn_self _)
    (startsIn_flatMap_append (fun _ => startsIn_self _) (startsIn_append _ _) _)
    (startsIn_flatMap_append (fun _ => startsIn_self _) (startsIn_append _ _) _)
    (by decide) (List.append_cancel_left (List.append_cancel_left h))
  obtain ⟨verify, -⟩ := (Shows.const _).optional (fun _ => startsIn_self _) (startsIn_append _ _)
    (startsIn_append _ _) (by decide) h
  exact ⟨outline_eq method url headers payload, verifySsl_eq (by simpa using verify)⟩

end Snippet

/-! ### The targets -/

/-- Two requests send the same, as far as the snippets of a target tell: the payload as one text, and in
scripts that list form fields and turn the check of certificates off, the fields and the check too. -/
structure Target.SendsAlike (t : Target) (r₁ r₂ : Request) : Prop where
  method : r₁.method = r₂.method
  url : r₁.url = r₂.url
  headers : (r₁.effectiveHeaders true).entries = (r₂.effectiveHeaders true).entries
  text : r₁.body.payload?.map Payload.text = r₂.body.payload?.map Payload.text
  payload : t = .php ∨ t = .python →
    r₁.body.payload?.map Payload.sent = r₂.body.payload?.map Payload.sent
  verifySsl : t = .php ∨ t = .python → r₁.verifySsl = r₂.verifySsl

namespace Target

variable {t : Target} {r₁ r₂ : Request}

theorem SendsAlike.of_text (ht : t ≠ .php ∧ t ≠ .python)
    (h : r₁.outline Payload.text = r₂.outline Payload.text) : t.SendsAlike r₁ r₂ := by
  simp only [Request.outline, Prod.mk.injEq] at h
  obtain ⟨method, url, headers, text⟩ := h
  have other : ¬ (t = .php ∨ t = .python) := not_or.2 ht
  exact ⟨method, url, congrArg Fields.entries headers, text, fun h => absurd h other,
    fun h => absurd h other⟩

theorem SendsAlike.of_sent (h : r₁.outline Payload.sent = r₂.outline Payload.sent)
    (verify : r₁.verifySsl = r₂.verifySsl) : t.SendsAlike r₁ r₂ := by
  simp only [Request.outline, Prod.mk.injEq] at h
  obtain ⟨method, url, headers, payload⟩ := h
  have text : ∀ r : Request,
      (r.body.payload?.map Payload.sent).map Payload.text = r.body.payload?.map Payload.text := by
    intro r
    rw [Option.map_map]
    exact congrArg (fun f => r.body.payload?.map f) (funext Payload.text_sent)
  exact ⟨method, url, congrArg Fields.entries headers, by rw [← text, ← text, payload],
    fun _ => payload, fun _ => verify⟩

/-- No text in a request can imitate the program around it: outside the shell, requests with the same
snippet send the same, if no payload is rewritten as JSON. -/
theorem sendsAlike_of_render_eq (ht : t ≠ .shell)
    (plain : t = .javascript ∨ t = .python →
      r₁.body.declaresJson = false ∧ r₂.body.declaresJson = false)
    (h : t.render r₁ = t.render r₂) : t.SendsAlike r₁ r₂ := by
  cases t with
  | shell => exact absurd rfl ht
  | javascript =>
    obtain ⟨h₁, h₂⟩ := plain (Or.inl rfl)
    exact .of_text (by decide) (Snippet.outline_fetch h₁ h₂ h)
  | python =>
    obtain ⟨h₁, h₂⟩ := plain (Or.inr rfl)
    obtain ⟨outline, verify⟩ := Snippet.outline_requests h₁ h₂ h
    exact .of_sent outline verify
  | go => exact .of_text (by decide) (Snippet.outline_netHttp (Except.ok.inj h))
  | rust => exact .of_text (by decide) (Snippet.outline_reqwest (Except.ok.inj h))
  | java => exact .of_text (by decide) (Snippet.outline_httpClient (Except.ok.inj h))
  | php =>
    obtain ⟨outline, verify⟩ := Snippet.outline_guzzle (Except.ok.inj h)
    exact .of_sent outline verify

/-- A request with credentials, a cookie and a payload that holds quotes of all kinds. -/
def signedIn : Request where
  url := "https://example.com/"
  method := .post
  cookies := [{ name := "sid", value := "1" }]
  body := .raw "it's \"\"\"\\\n" (some "text/plain")
  auth := .bearer "t"

/-- The same request with its headers written out. -/
def spelledOut : Request where
  url := "https://example.com/"
  method := .post
  headers := .ofList [("Authorization", "Bearer t"), ("Cookie", "sid=1"), ("Content-Type", "text/plain")]
  body := .raw "it's \"\"\"\\\n" none

theorem sendsAlike_signedIn : signedIn ≠ spelledOut ∧
    Target.python.render signedIn = Target.python.render spelledOut ∧
      Target.python.SendsAlike signedIn spelledOut := by
  have same : Target.python.render signedIn = Target.python.render spelledOut := by rfl
  exact ⟨by decide, same, sendsAlike_of_render_eq (by decide) (fun _ => ⟨rfl, rfl⟩) same⟩

end Target

end CurlSnippets
