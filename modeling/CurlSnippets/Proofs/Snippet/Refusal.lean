import CurlSnippets.Http.Response
import CurlSnippets.Proofs.Json.DigitLimit
import CurlSnippets.Proofs.Snippet.HeaderPolicy

/-!
# Payloads that are refused

A snippet takes a payload apart if it is declared as JSON.  A payload that is not JSON after all is
written as the text it is (`render_unreadable`).  One thing only makes a snippet fail, and the JSON
value of a response with it: an integer beyond the digit limit where it is read
(`render_eq_error_iff`, `json_eq_error_iff`).
-/

namespace CurlSnippets

theorem Json.decode_eq_error_iff {t : Text} {e : DigitLimitError} :
    Json.decode t = .error e ↔ ∃ digits, Json.read t = .error (.digitLimit digits) ∧
      e = .read digits := by
  rw [Json.decode]
  split
  · rename_i h
    simp [h]
  · rename_i h
    simp [h]
  · rename_i digits h
    simp [h, eq_comm]

theorem Json.decode_of_syntaxError {t : Text} (h : Json.read t = .error .syntaxError) :
    Json.decode t = .ok none := by
  rw [Json.decode, h]

namespace Snippet

theorem map_eq_error_iff {α β ε : Type} {f : α → β} {x : Except ε α} {e : ε} :
    x.map f = .error e ↔ x = .error e := by
  cases x <;> simp [Except.map]

/-- The payload of a request is declared as JSON, and reading it comes to an integer beyond the
limit. -/
def Refused (r : Request) (e : DigitLimitError) : Prop :=
  ∃ content contentType digits, r.body = .raw content contentType ∧ namesJson contentType ∧
    Json.read content = .error (.digitLimit digits) ∧ e = .read digits

variable {r : Request} {e : DigitLimitError}

theorem jsonPayload?_eq_error_iff {content : Text} {contentType : Option Text} :
    jsonPayload? content contentType = .error e ↔ namesJson contentType ∧
      ∃ digits, Json.read content = .error (.digitLimit digits) ∧ e = .read digits := by
  rw [jsonPayload?]
  split
  · rename_i h
    rw [Json.decode_eq_error_iff, and_iff_right h]
  · rename_i h
    exact ⟨fun h' => absurd h' (by simp), fun h' => absurd h'.1 h⟩

/-- Whatever a snippet makes of the payload, it fails exactly if the payload is refused. -/
theorem refused_iff {α : Type} (write : Text → Option Json → α) (absent : α) (form : Fields → α) :
    (match r.body with
      | .none => Except.ok absent
      | .raw content contentType => (jsonPayload? content contentType).map (write content)
      | .form fields => Except.ok (form fields)) = .error e ↔ Refused r e := by
  unfold Refused
  cases r.body with
  | none => simp
  | form fields => simp
  | raw content contentType =>
    dsimp only
    rw [map_eq_error_iff, jsonPayload?_eq_error_iff]
    constructor
    · rintro ⟨named, digits, read, rfl⟩
      exact ⟨content, contentType, digits, rfl, named, read, rfl⟩
    · rintro ⟨_, _, digits, same, named, read, rfl⟩
      obtain ⟨rfl, rfl⟩ := Body.raw.inj same
      exact ⟨named, digits, read, rfl⟩

theorem curl_eq_error_iff : curl r = .error e ↔ Refused r e :=
  map_eq_error_iff.trans (refused_iff _ _ _)

theorem fetch_eq_error_iff : fetch r = .error e ↔ Refused r e :=
  map_eq_error_iff.trans (refused_iff _ _ _)

theorem requests_eq_error_iff : requests r = .error e ↔ Refused r e :=
  map_eq_error_iff.trans (refused_iff _ _ _)

/-- Only three targets take a payload apart. -/
theorem render_eq_error_iff {t : Target} : t.render r = .error e ↔
    (t = .shell ∨ t = .javascript ∨ t = .python) ∧ Refused r e := by
  cases t with
  | shell => simpa [Target.render] using curl_eq_error_iff
  | javascript => simpa [Target.render] using fetch_eq_error_iff
  | python => simpa [Target.render] using requests_eq_error_iff
  | go | rust | java | php => simp [Target.render]

theorem json_eq_error_iff {body : Text} : Response.json body = .error e ↔
    ∃ digits, Json.read (Response.text body) = .error (.digitLimit digits) ∧ e = .read digits :=
  Json.decode_eq_error_iff

/-! ### Payloads that are no JSON -/

/-- The request with its headers made explicit and with a payload of no declared type. -/
def undeclared (r : Request) (content : Text) (basic : Bool) : Request :=
  { r with headers := r.effectiveHeaders basic, body := .raw content none }

theorem effectiveHeaders_undeclared (r : Request) (content : Text) (basic : Bool) :
    (undeclared r content basic).effectiveHeaders basic = r.effectiveHeaders basic := by
  have nothing : (undeclared r content basic).derivedHeaders basic = [] := by
    refine List.eq_nil_iff_forall_not_mem.2 fun p hp => ?_
    obtain ⟨unset, follows⟩ := Request.mem_derivedHeaders.1 hp
    -- with its own payload the request derived nothing more, so without one it does not either
    have before : p ∈ (r.explicit basic).derivedHeaders basic := by
      refine Request.mem_derivedHeaders.2 ⟨unset, ?_⟩
      rcases follows with h | h | ⟨_, h⟩
      · exact .inl h
      · exact .inr (.inl h)
      · exact absurd h (by simp [undeclared, Body.contentType?])
    rw [Request.derivedHeaders_explicit] at before
    exact absurd before (by simp)
  rw [Request.effectiveHeaders, nothing]
  rfl

section Unreadable

variable {content : Text} {contentType : Option Text} (hbody : r.body = .raw content contentType)
  (hread : Json.read content = .error .syntaxError)

include hread

theorem jsonPayload?_of_syntaxError : jsonPayload? content contentType = .ok none := by
  rw [jsonPayload?, Json.decode_of_syntaxError hread, ite_self]

include hbody

theorem curl_unreadable : curl r = curl (undeclared r content false) := by
  have user : curlUser (undeclared r content false) = curlUser r := curlUser_explicit r
  have data : curlData? r = .ok (some content) := by
    rw [curlData?, hbody]
    dsimp only
    rw [jsonPayload?_of_syntaxError hread]
    rfl
  have text : curlData? (undeclared r content false) = .ok (some content) := rfl
  have options : curlOptions (undeclared r content false) (some content) =
      curlOptions r (some content) := by
    rw [curlOptions, curlOptions, user, effectiveHeaders_undeclared]
    rfl
  rw [curl, curl, data, text]
  exact congrArg (fun o => Except.ok (Text.join " \\\n  " ("curl" :: o))) options.symm

/-- A payload that is declared as JSON and is none is written like one of no declared type, under the
same headers. -/
theorem render_unreadable {t : Target} (ht : t ≠ .shell) :
    t.render r = t.render (undeclared r content true) := by
  have headers := effectiveHeaders_undeclared r content true
  have payload : jsonPayload? content contentType = .ok none := jsonPayload?_of_syntaxError hread
  cases t with
  | shell => exact absurd rfl ht
  | javascript =>
    have body : fetchBody? r = fetchBody? (undeclared r content true) := by
      rw [fetchBody?, hbody]
      dsimp only
      rw [payload]
      rfl
    simp only [Target.render, fetch, headers, body]
    rfl
  | python =>
    have body : requestsPayload? r = requestsPayload? (undeclared r content true) := by
      rw [requestsPayload?, hbody]
      dsimp only
      rw [payload]
      rfl
    simp only [Target.render, requests, headers, body]
    rfl
  | go =>
    -- the other targets write every raw payload as a text
    have body : netHttpPayload? r = netHttpPayload? (undeclared r content true) := by
      rw [netHttpPayload?, hbody]
      rfl
    simp only [Target.render, netHttp, headers, body]
    rfl
  | rust =>
    have body : reqwestBody? r = reqwestBody? (undeclared r content true) := by
      rw [reqwestBody?, hbody]
      rfl
    simp only [Target.render, reqwest, headers, body]
    rfl
  | java =>
    have body : httpClientPublisher r = httpClientPublisher (undeclared r content true) := by
      rw [httpClientPublisher, hbody]
      rfl
    simp only [Target.render, httpClient, headers, body]
    rfl
  | php =>
    have body : guzzleBody r = guzzleBody (undeclared r content true) := by
      rw [guzzleBody, hbody]
      rfl
    simp only [Target.render, guzzle, guzzleHeaders, headers, body]
    rfl

end Unreadable

/-! ### The one reason to fail -/

/-- **Decoding fails for one reason only.**  A snippet, or the JSON value of a response, is an error
exactly if reading comes to an integer beyond the limit, which is a run of digits in the text; a
payload that is no JSON is written as a text. -/
theorem decoding_fails_iff (t : Target) (r : Request) (body : Text) (e : DigitLimitError) :
    (t.render r = .error e ↔ (t = .shell ∨ t = .javascript ∨ t = .python) ∧
      ∃ content contentType digits, r.body = .raw content contentType ∧ namesJson contentType ∧
        Json.read content = .error (.digitLimit digits) ∧ e = .read digits) ∧
    (Response.json body = .error e ↔
      ∃ digits, Json.read (Response.text body) = .error (.digitLimit digits) ∧ e = .read digits) ∧
    (∀ (text : Text) (digits : Nat), Json.read text = .error (.digitLimit digits) →
      digitLimit < digits ∧ ∃ run, run <:+: text ∧ run.length = digits ∧ ∀ c ∈ run, c.isDigit) ∧
    ∀ (content : Text) (contentType : Option Text),
      r.body = .raw content contentType → Json.read content = .error .syntaxError →
        curl r = curl (undeclared r content false) ∧
          (t ≠ .shell → t.render r = t.render (undeclared r content true)) :=
  ⟨render_eq_error_iff, json_eq_error_iff, fun _ _ => Json.hasLongRun_of_read,
    fun _ _ hbody hread => ⟨curl_unreadable hbody hread, render_unreadable hbody hread⟩⟩

/-- A payload of one integer with one digit too many. -/
def overlong : Request where
  body := .raw (List.replicate 4301 '1') (some "application/json")

theorem render_overlong :
    Target.shell.render overlong = .error (.read 4301) ∧
      Target.javascript.render overlong = .error (.read 4301) ∧
        Target.python.render overlong = .error (.read 4301) := by
  -- for any number of digits, so that no long text is evaluated
  have ones : ∀ n, digitLimit < n + 1 →
      Json.read (List.replicate (n + 1) '1') = .error (.digitLimit (n + 1)) := by
    intro n long
    have all : ∀ d ∈ '1' :: List.replicate n '1', d.isDigit := by
      intro d hd
      obtain rfl : d = '1' := List.eq_of_mem_replicate (n := n + 1) hd
      rfl
    simpa [List.replicate_succ] using Json.read_digits (by decide) all (by simpa using long)
  have refused : Refused overlong (.read 4301) :=
    ⟨_, _, 4301, rfl, by decide +kernel, ones 4300 (by decide), rfl⟩
  exact ⟨render_eq_error_iff.2 ⟨Or.inl rfl, refused⟩,
    render_eq_error_iff.2 ⟨Or.inr (Or.inl rfl), refused⟩,
    render_eq_error_iff.2 ⟨Or.inr (Or.inr rfl), refused⟩⟩

end Snippet

end CurlSnippets
