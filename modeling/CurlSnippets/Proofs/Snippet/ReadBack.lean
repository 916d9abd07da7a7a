import CurlSnippets.Proofs.Command.NamedUrl
import CurlSnippets.Proofs.Http.Headers
import CurlSnippets.Proofs.Snippet.Directives
import CurlSnippets.Snippet.RoundTrip

/-!
# Curl commands read back

A request is written as a command of directives, so what is read back is what these directives ask for
(`request_directives`).  Where no text of the request can be taken for anything else (`Readable`), that
is the request with its headers made explicit (`readBack`), and it is written as the same command
again.
-/

namespace CurlSnippets.Snippet

open Command

variable {r : Request} {data : Option Text}

/-! ### What the directives ask for -/

theorem methodOf_directives : Directive.methodOf (directives r data) = r.method := by
  have word : (directives r data).findSome? (Directive.given? .method) = some r.method.name := rfl
  have upper : Text.upper r.method.name = r.method.name := by cases r.method <;> decide +kernel
  rw [Directive.methodOf, word, Option.bind_some, upper, Method.ofName?_name]

theorem payload_directives : Directive.payload (directives r data) = data := by
  -- options are looked for name by name, and the command has but one
  have found : ∀ name : BodyName, (directives r data).findSome? (Directive.given? (.body name)) =
      if name = .data then data else none := by
    intro name
    rw [← List.head?_filterMap, filterMap_given]
    cases name with
    | data => cases data <;> rfl
    | _ => rfl
  rw [Directive.payload]
  simp only [BodyName.all, found]
  cases data <;> rfl

/-! ### Readable requests -/

/-- A text that can stand in apostrophes anywhere in a command without being taken for anything
else. -/
structure Inert (t : Text) : Prop where
  plain : Directive.Plain t
  curlless : mentionsCurl t = false

/-- A header whose two sides are found again in its text. -/
structure Separable (p : Text × Text) : Prop where
  name_ne : p.1 ≠ []
  colonless : ':' ∉ p.1
  quoteless : '\'' ∉ p.1 ∧ '\'' ∉ p.2
  trimmed : Text.trim p.1 = p.1 ∧ Text.trim p.2 = p.2

instance : DecidablePred Inert := fun t =>
  decidable_of_iff (Directive.Plain t ∧ mentionsCurl t = false)
    ⟨fun h => ⟨h.1, h.2⟩, fun h => ⟨h.plain, h.curlless⟩⟩

instance : DecidablePred Separable := fun p =>
  decidable_of_iff (p.1 ≠ [] ∧ ':' ∉ p.1 ∧ ('\'' ∉ p.1 ∧ '\'' ∉ p.2) ∧
      Text.trim p.1 = p.1 ∧ Text.trim p.2 = p.2)
    ⟨fun ⟨hne, hc, hq, ht⟩ => ⟨hne, hc, hq, ht⟩,
      fun h => ⟨h.name_ne, h.colonless, h.quoteless, h.trimmed⟩⟩

/-- A request that is found again in its command, where `data` is the text of the data option. -/
structure Readable (r : Request) (data : Option Text) : Prop where
  url_ne : r.url ≠ []
  url : '\'' ∉ r.url ∧ Inert r.url
  header : ∀ p ∈ (r.effectiveHeaders false).entries, Separable p ∧ Inert (headerText p)
  user : ∀ u ∈ sentUser? r, ':' ∉ u.1 ∧ '\'' ∉ u.1 ∧ '\'' ∉ u.2 ∧ Inert (u.1 ++ [':'] ++ u.2)
  data : ∀ d ∈ data, Inert d

/-- What is read back: the headers are those that are sent, the payload is raw, and the credentials
are those of the option. -/
def readBack (r : Request) (data : Option Text) : Request where
  url := r.url
  method := r.method
  headers := r.effectiveHeaders false
  queryParams := Url.queryParams r.url
  verifySsl := r.verifySsl
  body := match data with
    | some d => .raw d none
    | none => .none
  auth := if curlUser r = [] then .none else r.auth

theorem addHeader_headerText {p : Text × Text} (h : Separable p) (f : Fields) :
    Directive.addHeader f (headerText p) = f.put p.1 p.2 := by
  have text : headerText p = p.1 ++ ':' :: ' ' :: p.2 := by
    unfold headerText
    simp
  have cut := Text.cut_append h.colonless (' ' :: p.2)
  rw [text, Directive.addHeader, cut]
  simp only [Text.trim_space_cons, h.trimmed, h.name_ne, if_false]

theorem headers_directives (h : ∀ p ∈ (r.effectiveHeaders false).entries, Separable p) :
    Directive.headers (directives r data) = r.effectiveHeaders false := by
  -- by induction on the headers, onto any that were added before
  have fold : ∀ (entries : List (Text × Text)) (f : Fields), (∀ p ∈ entries, Separable p) →
      (entries.map headerText).foldl Directive.addHeader f = f.putAll entries := by
    intro entries
    induction entries with
    | nil => intro f _; rfl
    | cons p entries ih =>
      intro f hp
      rw [List.map_cons, List.foldl_cons, addHeader_headerText (hp p (by simp)),
        ih _ fun q hq => hp q (List.mem_cons_of_mem _ hq), Fields.putAll_cons]
  rw [Directive.headers, filterMap_given]
  exact (fold _ _ h).trans (Fields.ofList_entries _)

theorem auth_readBack (r : Request) (data : Option Text) :
    (readBack r data).auth = ((sentUser? r).map fun u => Auth.basic u.1 u.2).getD .none := by
  show (if curlUser r = [] then .none else r.auth) = _
  rw [curlUser_eq]
  cases hu : sentUser? r with
  | none => rfl
  | some u => exact (auth_of_sentUser? hu).1

theorem auth_directives (h : ∀ u ∈ sentUser? r, ':' ∉ u.1) :
    Directive.auth (directives r data) = (readBack r data).auth := by
  have found : (directives r data).findSome? (Directive.given? .user) =
      (sentUser? r).map fun u => u.1 ++ [':'] ++ u.2 := by
    rw [← List.head?_filterMap, filterMap_given]
    cases h : sentUser? r <;> simp only [written, h] <;> rfl
  rw [Directive.auth, found, auth_readBack]
  cases hu : sentUser? r with
  | none => rfl
  | some u =>
    have cut : Text.cut ':' (u.1 ++ [':'] ++ u.2) = (u.1, some u.2) := by
      rw [List.append_assoc]
      exact Text.cut_append (h u hu) u.2
    simp only [Option.map_some, cut, Option.getD_some]

theorem any_insecure : ((directives r data).any fun d => d.kind = .insecure) = !r.verifySsl := by
  have header : ((r.effectiveHeaders false).entries.map fun p =>
      Directive.header false (headerText p)).any (fun d => d.kind = .insecure) = false := by
    simp [Directive.kind]
  have user : ((sentUser? r).toList.map fun u =>
      Directive.user false (u.1 ++ [':'] ++ u.2)).any (fun d => d.kind = .insecure) = false := by
    simp [Directive.kind]
  have body : (data.toList.map (Directive.body .data)).any (fun d => d.kind = .insecure) =
      false := by
    simp [Directive.kind]
  rw [directives, trailing, List.any_cons, List.any_cons, List.any_append, List.any_append, List.any_append,
    header, user, body]
  cases r.verifySsl <;> rfl

theorem request_directives (h : Readable r data) :
    Directive.request r.url (directives r data) = readBack r data := by
  have cookies : (directives r data).filterMap (Directive.given? .cookie) = [] := filterMap_given _
  rw [Directive.request, methodOf_directives, payload_directives,
    headers_directives fun p hp => (h.header p hp).1, auth_directives fun u hu => (h.user u hu).1,
    any_insecure, Directive.cookies, cookies, Bool.not_not]
  rfl

theorem wellFormed_directives (h : Readable r data) :
    ∀ d ∈ directives r data, d.WellFormed ∧ d.Curlless := by
  intro d hd
  simp only [directives, trailing, List.mem_cons, List.mem_append, List.mem_map,
    Option.mem_toList] at hd
  -- method, url, headers, credentials, the switch and the payload
  rcases hd with rfl | rfl | ⟨p, hp, rfl⟩ | ⟨u, hu, rfl⟩ | hd | ⟨t, ht, rfl⟩
  · exact (show ∀ m ∈ Method.all, (Directive.method false m.name).WellFormed ∧
      (Directive.method false m.name).Curlless by decide +kernel) _ r.method.mem_all
  · obtain ⟨quoteless, inert⟩ := h.url
    exact ⟨⟨quoteless, inert.plain⟩, inert.curlless⟩
  · obtain ⟨separable, inert⟩ := h.header p hp
    have quoteless := quoteless_headerText.2 separable.quoteless
    exact ⟨⟨quoteless, inert.plain⟩, inert.curlless⟩
  · obtain ⟨-, hn, hp, inert⟩ := h.user u hu
    have quoteless : '\'' ∉ u.1 ++ [':'] ++ u.2 := by simp [hn, hp]
    exact ⟨⟨quoteless, inert.plain⟩, inert.curlless⟩
  · obtain rfl := eq_insecure_of_mem hd
    exact ⟨trivial, trivial⟩
  · exact ⟨(h.data t ht).plain, (h.data t ht).curlless⟩

/-! ### Written again -/

/-- What is read back sends the same headers: it has no others to derive. -/
theorem effectiveHeaders_readBack (r : Request) (data : Option Text) :
    (readBack r data).effectiveHeaders false = r.effectiveHeaders false := by
  have auth : (readBack r data).authorization? false = none := by
    rw [Request.authorization?, auth_readBack]
    cases sentUser? r <;> rfl
  have body : (readBack r data).body.contentType? = none := by
    cases data <;> rfl
  have none : (readBack r data).derivedHeaders false = [] := by
    refine List.eq_nil_iff_forall_not_mem.2 fun p hp => ?_
    -- credentials stay an option, cookies are a header already, and no type is declared
    rcases (Request.mem_derivedHeaders.1 hp).2 with ⟨_, h⟩ | ⟨_, h⟩ | ⟨_, h⟩
    · exact absurd (auth.symm.trans h) (by simp)
    · exact absurd h (by simp [Request.cookieHeader?, readBack])
    · exact absurd (body.symm.trans h) (by simp)
  rw [Request.effectiveHeaders, none]
  rfl

theorem sentUser?_readBack (r : Request) (data : Option Text) :
    sentUser? (readBack r data) = sentUser? r := by
  cases hu : sentUser? r with
  | none =>
    have auth : (readBack r data).auth = .none := by rw [auth_readBack, hu]; rfl
    rw [sentUser?, auth]
  | some u =>
    obtain ⟨hauth, hset⟩ := auth_of_sentUser? hu
    have auth : (readBack r data).auth = .basic u.1 u.2 := by rw [auth_readBack, hu]; rfl
    have derived : r.authorization? false = none := by
      rw [Request.authorization?, hauth]
      rfl
    -- no caller's header of the name, and none derived for a command
    have unset : (readBack r data).hasHeader "Authorization" = false := by
      rw [Bool.eq_false_iff]
      intro h
      obtain ⟨n, hn, e⟩ := Request.hasHeader_iff.1 h
      exact Request.lower_ne_authorization hset derived n hn e
    rw [sentUser?, auth]
    simp only [unset, Bool.false_eq_true, if_false]

/-- What is read back is written as the same command. -/
theorem curl_readBack (hd : curlData? r = .ok data) : curl (readBack r data) = curl r := by
  have again : curlData? (readBack r data) = .ok data := by
    cases data <;> rfl
  have options : curlOptions (readBack r data) data = curlOptions r data := by
    rw [curlOptions, curlUser_eq, sentUser?_readBack, ← curlUser_eq, effectiveHeaders_readBack]
    rfl
  rw [curl, again, curl, hd]
  exact congrArg (fun o => Except.ok (Text.join " \\\n  " ("curl" :: o))) options

theorem stable_iff {t : RoundTrip} : t.stable ↔ curl t.request = .ok t.command := by
  rw [RoundTrip.stable]
  cases curl t.request with
  | error e => exact ⟨fun h => Bool.noConfusion h, fun h => absurd h (by simp)⟩
  | ok command =>
    exact ⟨fun h => congrArg Except.ok (of_decide_eq_true h), fun h => decide_eq_true
      (Except.ok.inj h)⟩

/-- **The round trip.**  A request that can be written and is readable comes back from its command as
`readBack` says, and is written as the same command again. -/
theorem roundTrip_of_readable (hd : curlData? r = .ok data) (h : Readable r data) :
    ∃ t, r.roundTrip = .ok t ∧ t.request = readBack r data ∧ t.stable := by
  have wellFormed : ∀ d ∈ directives r data, d.WellFormed :=
    fun d hd => (wellFormed_directives h d hd).1
  have curlless : ∀ d ∈ directives r data, d.Curlless :=
    fun d hd => (wellFormed_directives h d hd).2
  have url : (directives r data).findSome? (Directive.given? .url) = some r.url := rfl
  have gap : Gap (" \\\n  " : Text) :=
    .blank (by decide) (.lineFeed (.blank (by decide) (.blank (by decide) .nil)))
  have command := curl_eq hd fun p hp => (h.header p hp).1.quoteless
  have read := request_of_gapped wellFormed curlless url h.url_ne (by decide) gap
  rw [request_directives h] at read
  refine ⟨⟨_, _⟩, by rw [Request.roundTrip, command], read, ?_⟩
  have again := (curl_readBack hd).trans command
  refine stable_iff.2 ?_
  rw [← read] at again
  exact again

/-- A request with headers, a cookie, credentials and a payload of two lines. -/
def note : Request where
  url := "https://h/p?a=1"
  method := .put
  headers := Fields.ofList [("Accept", "text/html")]
  cookies := [{ name := "c", value := "1" }]
  verifySsl := false
  body := .raw "it's\n  so" (some "text/plain")
  auth := .basic "me" "p:w"

/-- The cookie and the media type come back as headers. -/
theorem roundTrip_note : ∃ t, note.roundTrip = .ok t ∧ t.request = {
    url := "https://h/p?a=1"
    method := .put
    headers := Fields.ofList
      [("Accept", "text/html"), ("Cookie", "c=1"), ("Content-Type", "text/plain")]
    queryParams := Fields.ofList [("a", "1")]
    verifySsl := false
    body := .raw "it's\n  so" none
    auth := .basic "me" "p:w" } ∧ t.stable := by
  have data : curlData? note = .ok (some "it's\n  so") := by decide +kernel
  obtain ⟨t, written, read, stable⟩ := roundTrip_of_readable data
    ⟨by decide, by decide +kernel, by decide +kernel, by decide +kernel, by decide +kernel⟩
  exact ⟨t, written, read.trans (by decide +kernel), stable⟩

end CurlSnippets.Snippet
