import CurlSnippets.Proofs.Http.Headers
import CurlSnippets.Snippet.Target

/-!
# The header policy

The headers of a snippet are the caller's, and behind them those that follow from the rest of the
request and that no caller's header stands for in any letter case (`HeaderPolicy`).  The policy is a
fixed point: a request whose headers are made explicit sends the same headers, so every snippet stays
as it was (`render_explicit`, `curl_explicit`).
-/

namespace CurlSnippets

namespace Request

variable {r : Request} {basic : Bool}

/-! ### Derived headers in order -/

/-- The names of the headers that can be derived, in order. -/
def derivable : List Text := ["Authorization", "Cookie", "Content-Type"]

theorem nodup_lower_derivable : (derivable.map Text.lower).Nodup := by decide +kernel

theorem names_filterMap_sublist {α β γ : Type} {f : α × β → Option (α × γ)}
    (hf : ∀ p q, f p = some q → q.1 = p.1) (l : List (α × β)) :
    ((l.filterMap f).map Prod.fst).Sublist (l.map Prod.fst) := by
  induction l with
  | nil => exact List.Sublist.slnil
  | cons p l ih =>
    rw [List.filterMap_cons]
    cases h : f p with
    | none => exact ih.cons _
    | some q =>
      rw [List.map_cons, List.map_cons, hf p q h]
      exact ih.cons_cons _

theorem names_derivedHeaders_sublist (r : Request) (basic : Bool) :
    ((r.derivedHeaders basic).map Prod.fst).Sublist derivable := by
  refine names_filterMap_sublist (fun p q h => ?_) _
  obtain ⟨name, value⟩ := p
  dsimp only at h
  split at h
  · exact absurd h (by simp)
  · obtain ⟨v, -, rfl⟩ := Option.map_eq_some_iff.1 h
    rfl

theorem hasHeader_of_mem_names {n : Text} (h : n ∈ r.headers.names) : r.hasHeader n :=
  hasHeader_iff.2 ⟨n, h, rfl⟩

/-- A name is derived if the caller did not set it and something follows for it. -/
theorem mem_names_derivedHeaders {n : Text} : n ∈ (r.derivedHeaders basic).map Prod.fst ↔
    r.hasHeader n = false ∧ ((n = "Authorization" ∧ (r.authorization? basic).isSome) ∨
      (n = "Cookie" ∧ r.cookieHeader?.isSome) ∨
      (n = "Content-Type" ∧ r.body.contentType?.isSome)) := by
  simp only [List.mem_map, mem_derivedHeaders, Option.isSome_iff_exists]
  constructor
  · rintro ⟨⟨_, v⟩, ⟨unset, h⟩, rfl⟩
    refine ⟨unset, ?_⟩
    rcases h with ⟨hn, hv⟩ | ⟨hn, hv⟩ | ⟨hn, hv⟩
    · exact .inl ⟨hn, v, hv⟩
    · exact .inr (.inl ⟨hn, v, hv⟩)
    · exact .inr (.inr ⟨hn, v, hv⟩)
  · rintro ⟨unset, ⟨hn, v, hv⟩ | ⟨hn, v, hv⟩ | ⟨hn, v, hv⟩⟩
    · exact ⟨(n, v), ⟨unset, .inl ⟨hn, hv⟩⟩, rfl⟩
    · exact ⟨(n, v), ⟨unset, .inr (.inl ⟨hn, hv⟩)⟩, rfl⟩
    · exact ⟨(n, v), ⟨unset, .inr (.inr ⟨hn, hv⟩)⟩, rfl⟩

theorem hasHeader_of_mem_derived {n : Text} (h : n ∈ (r.derivedHeaders basic).map Prod.fst) :
    r.hasHeader n = false := (mem_names_derivedHeaders.1 h).1

/-- The derived headers stand behind the caller's, none of which is changed. -/
theorem entries_effectiveHeaders (r : Request) (basic : Bool) :
    (r.effectiveHeaders basic).entries = r.headers.entries ++ r.derivedHeaders basic := by
  refine Pairs.putAll_eq_append ?_
  have derived : ((r.derivedHeaders basic).map Prod.fst).Nodup :=
    (names_derivedHeaders_sublist r basic).nodup (by decide)
  rw [List.map_append, List.nodup_append]
  refine ⟨r.headers.nodup, derived, ?_⟩
  -- a name of the caller's is not derived
  rintro n set _ hn rfl
  have unset := hasHeader_of_mem_derived hn
  rw [hasHeader_of_mem_names set] at unset
  exact Bool.noConfusion unset

/-- A derived header is sent as it is derived. -/
theorem get?_derived {name value : Text} (h : (name, value) ∈ r.derivedHeaders basic) :
    (r.effectiveHeaders basic).get? name = some value := by
  refine Fields.get?_of_mem ?_
  rw [entries_effectiveHeaders]
  exact List.mem_append_right _ h

theorem names_effectiveHeaders (r : Request) (basic : Bool) :
    (r.effectiveHeaders basic).names = r.headers.names ++ (r.derivedHeaders basic).map Prod.fst := by
  rw [Fields.names, entries_effectiveHeaders, List.map_append]
  rfl

/-- In a list without two values alike, a member is found by its value. -/
theorem filter_eq_singleton {α β : Type} [DecidableEq β] {f : α → β} {a : α} :
    ∀ {l : List α}, (l.map f).Nodup → a ∈ l → l.filter (fun b => f b = f a) = [a]
  | b :: l, h, ha => by
    obtain ⟨first, rest⟩ := List.nodup_cons.1 h
    rw [List.filter_cons]
    rcases List.mem_cons.1 ha with rfl | ha
    · have none : l.filter (fun b => f b = f a) = [] := by
        refine List.filter_eq_nil_iff.2 fun c hc e => first ?_
        exact List.mem_map.2 ⟨c, hc, of_decide_eq_true e⟩
      simp [none]
    · have other : f b ≠ f a := fun e => first (e ▸ List.mem_map_of_mem ha)
      simp only [other, decide_false, Bool.false_eq_true, if_false]
      exact filter_eq_singleton rest ha

/-- A derived name is the only one of its kind, letter case aside. -/
theorem filter_lower_names {n : Text} (h : n ∈ (r.derivedHeaders basic).map Prod.fst) :
    (r.effectiveHeaders basic).names.filter (fun m => Text.lower m = Text.lower n) = [n] := by
  have callers : r.headers.names.filter (fun m => Text.lower m = Text.lower n) = [] := by
    refine List.filter_eq_nil_iff.2 fun m hm e => ?_
    have set : r.hasHeader n := hasHeader_iff.2 ⟨m, hm, of_decide_eq_true e⟩
    rw [hasHeader_of_mem_derived h] at set
    exact Bool.noConfusion set
  have derived := filter_eq_singleton (f := Text.lower)
    (nodup_lower_derivable.sublist ((names_derivedHeaders_sublist r basic).map _)) h
  rw [names_effectiveHeaders, List.filter_append, callers, derived, List.nil_append]

/-! ### Headers made explicit -/

/-- The request with the headers that a snippet sends as its own. -/
def explicit (r : Request) (basic : Bool) : Request :=
  { r with headers := r.effectiveHeaders basic }

/-- Nothing more is derived from a request whose headers are explicit. -/
theorem derivedHeaders_explicit (r : Request) (basic : Bool) :
    (r.explicit basic).derivedHeaders basic = [] := by
  refine List.eq_nil_iff_forall_not_mem.2 fun p hp => ?_
  obtain ⟨unset, follows⟩ := mem_derivedHeaders.1 hp
  have absent : p.1 ∉ (r.effectiveHeaders basic).names := by
    intro set
    rw [hasHeader_of_mem_names (r := r.explicit basic) set] at unset
    exact Bool.noConfusion unset
  -- what is unset among the explicit headers was unset before, so it was derived then
  have here : r.hasHeader p.1 = false := by
    rw [Bool.eq_false_iff]
    intro h
    obtain ⟨n, hn, e⟩ := hasHeader_iff.1 h
    have set : (r.explicit basic).hasHeader p.1 :=
      hasHeader_iff.2 ⟨n, mem_names_effectiveHeaders.2 (.inl hn), e⟩
    rw [unset] at set
    exact Bool.noConfusion set
  exact absent (mem_names_effectiveHeaders.2 (.inr
    (List.mem_map_of_mem (mem_derivedHeaders.2 ⟨here, follows⟩))))

theorem effectiveHeaders_explicit (r : Request) (basic : Bool) :
    (r.explicit basic).effectiveHeaders basic = r.effectiveHeaders basic := by
  rw [effectiveHeaders, derivedHeaders_explicit]
  rfl

end Request

/-! ### Snippets of explicit headers -/

open Request

/-- A snippet other than a curl command reads headers only as they are sent. -/
theorem Target.render_explicit {t : Target} (ht : t ≠ .shell) (r : Request) :
    t.render (r.explicit true) = t.render r := by
  have same := effectiveHeaders_explicit r true
  cases t with
  | shell => exact absurd rfl ht
  | javascript => simp only [Target.render, Snippet.fetch, same]; rfl
  | python => simp only [Target.render, Snippet.requests, same]; rfl
  | go => simp only [Target.render, Snippet.netHttp, same]; rfl
  | rust => simp only [Target.render, Snippet.reqwest, same]; rfl
  | java => simp only [Target.render, Snippet.httpClient, same]; rfl
  | php => simp only [Target.render, Snippet.guzzle, Snippet.guzzleHeaders, same]; rfl

/-- Making headers explicit for a command, which has an option for basic credentials, sets no header
for them. -/
theorem Snippet.curlUser_explicit (r : Request) :
    Snippet.curlUser (r.explicit false) = Snippet.curlUser r := by
  have kind : (r.explicit false).auth = r.auth := rfl
  unfold Snippet.curlUser
  rw [kind]
  cases auth : r.auth with
  | none | bearer => rfl
  | basic username password =>
    have none : r.authorization? false = none := by
      rw [authorization?, auth]
      rfl
    have set : (r.explicit false).hasHeader "Authorization" = r.hasHeader "Authorization" := by
      cases h : r.hasHeader "Authorization" with
      | true =>
        obtain ⟨n, hn, e⟩ := hasHeader_iff.1 h
        exact hasHeader_iff.2 ⟨n, mem_names_effectiveHeaders.2 (.inl hn), e⟩
      | false =>
        -- a derived name is another one, for lack of credentials among what is derived
        rw [Bool.eq_false_iff]
        intro h'
        obtain ⟨n, hn, e⟩ := hasHeader_iff.1 h'
        exact lower_ne_authorization h none n hn e
    simp only [set]

theorem Snippet.curl_explicit (r : Request) :
    Snippet.curl (r.explicit false) = Snippet.curl r := by
  have options : ∀ data, Snippet.curlOptions (r.explicit false) data =
      Snippet.curlOptions r data := by
    intro data
    rw [Snippet.curlOptions, Snippet.curlOptions, effectiveHeaders_explicit,
      Snippet.curlUser_explicit]
    rfl
  unfold Snippet.curl
  simp only [options]
  rfl

/-! ### The policy -/

/-- No header of the caller has a name, letter case aside. -/
def Request.Unset (r : Request) (name : Text) : Prop :=
  ∀ n ∈ r.headers.names, Text.lower n ≠ Text.lower name

theorem Request.unset_iff {r : Request} {name : Text} :
    r.Unset name ↔ r.hasHeader name = false := by
  rw [Bool.eq_false_iff, Ne, hasHeader_iff]
  exact ⟨fun h ⟨n, hn, e⟩ => h n hn e, fun h n hn e => h ⟨n, hn, e⟩⟩

/-- What the headers of a snippet are, where `added` are those that the caller did not set. -/
structure HeaderPolicy (r : Request) (added : List (Text × Text)) : Prop where
  appended : (r.effectiveHeaders true).entries = r.headers.entries ++ added
  ordered : (added.map Prod.fst).Sublist ["Authorization", "Cookie", "Content-Type"]
  authorization : ("Authorization" : Text) ∈ added.map Prod.fst ↔ r.Unset "Authorization" ∧
    ((∃ username password, r.auth = .basic username password) ∨ ∃ token, r.auth = .bearer token)
  cookie : ("Cookie" : Text) ∈ added.map Prod.fst ↔ r.Unset "Cookie" ∧ r.cookies ≠ []
  contentType : ("Content-Type" : Text) ∈ added.map Prod.fst ↔ r.Unset "Content-Type" ∧
    ((∃ fields, r.body = .form fields) ∨ ∃ content t, r.body = .raw content (some t) ∧ t ≠ [])
  /-- Among all names only an added one itself is like it, letter case aside. -/
  alone : ∀ n ∈ added.map Prod.fst,
    (r.effectiveHeaders true).names.filter (fun m => Text.lower m = Text.lower n) = [n]
  fixed : ∀ t : Target, t ≠ .shell →
    t.render { r with headers := r.effectiveHeaders true } = t.render r
  fixedShell : Target.shell.render { r with headers := r.effectiveHeaders false } =
    Target.shell.render r

theorem Request.isSome_authorization? {r : Request} : (r.authorization? true).isSome ↔
    (∃ username password, r.auth = .basic username password) ∨ ∃ token, r.auth = .bearer token := by
  unfold authorization?
  cases r.auth <;> simp

theorem Request.isSome_cookieHeader? {r : Request} : r.cookieHeader?.isSome ↔ r.cookies ≠ [] := by
  unfold cookieHeader?
  cases r.cookies <;> simp

theorem Body.isSome_contentType? {b : Body} : b.contentType?.isSome ↔
    (∃ fields, b = .form fields) ∨ ∃ content t, b = .raw content (some t) ∧ t ≠ [] := by
  cases b with
  | none => simp [contentType?]
  | form fields => simp [contentType?]
  | raw content contentType =>
    cases contentType with
    | none => simp [contentType?]
    | some t => cases t <;> simp [contentType?]

/-- **The header policy** holds of every request. -/
theorem exists_headerPolicy (r : Request) : ∃ added, HeaderPolicy r added := by
  refine ⟨r.derivedHeaders true, {
    appended := entries_effectiveHeaders r true
    ordered := names_derivedHeaders_sublist r true
    authorization := ?_, cookie := ?_, contentType := ?_
    alone := fun n hn => filter_lower_names hn
    fixed := fun t ht => Target.render_explicit ht r
    fixedShell := Snippet.curl_explicit r }⟩
  · rw [mem_names_derivedHeaders, unset_iff, ← isSome_authorization?]
    simp
  · rw [mem_names_derivedHeaders, unset_iff, ← isSome_cookieHeader?]
    simp
  · rw [mem_names_derivedHeaders, unset_iff, ← Body.isSome_contentType?]
    simp

end CurlSnippets
