import CurlSnippets.Http.Headers
import CurlSnippets.Proofs.Fields

/-!
# Which headers a snippet sends

A header is sent if the caller set it or if it follows from the rest of the request
(`mem_names_effectiveHeaders`); what follows never stands beside a header of the same name in
another letter case.
-/

namespace CurlSnippets.Request

theorem hasHeader_iff {r : Request} {name : Text} :
    r.hasHeader name ↔ ∃ n ∈ r.headers.names, Text.lower n = Text.lower name := by
  have found : r.hasHeader name ↔
      ∃ p ∈ r.headers.entries, Text.lower p.1 = Text.lower name := by
    simp [hasHeader, header?, Option.isSome_map, List.find?_isSome]
  rw [found, Fields.names]
  constructor
  · rintro ⟨p, hp, h⟩
    exact ⟨p.1, List.mem_map_of_mem hp, h⟩
  · rintro ⟨n, hn, h⟩
    obtain ⟨p, hp, rfl⟩ := List.mem_map.1 hn
    exact ⟨p, hp, h⟩

theorem mem_names_effectiveHeaders {r : Request} {basic : Bool} {n : Text} :
    n ∈ (r.effectiveHeaders basic).names ↔
      n ∈ r.headers.names ∨ n ∈ (r.derivedHeaders basic).map Prod.fst :=
  Pairs.mem_names_putAll

/-- A derived header has one of three names, and the caller set none of that name. -/
theorem mem_derivedHeaders {r : Request} {basic : Bool} {p : Text × Text} :
    p ∈ r.derivedHeaders basic ↔ r.hasHeader p.1 = false ∧
      ((p.1 = "Authorization" ∧ r.authorization? basic = some p.2) ∨
        (p.1 = "Cookie" ∧ r.cookieHeader? = some p.2) ∨
        (p.1 = "Content-Type" ∧ r.body.contentType? = some p.2)) := by
  obtain ⟨n, v⟩ := p
  -- a header of one name
  have one : ∀ (name : Text) (value : Option Text),
      (if r.hasHeader name then none else value.map fun v => (name, v)) = some (n, v) ↔
        r.hasHeader n = false ∧ n = name ∧ value = some v := by
    intro name value
    cases h : r.hasHeader name with
    | true =>
      constructor
      · intro e; exact absurd e (by simp)
      · rintro ⟨hn, rfl, _⟩; rw [h] at hn; exact Bool.noConfusion hn
    | false =>
      cases value with
      | none => simp
      | some w =>
        simp only [Bool.false_eq_true, if_false, Option.map_some, Option.some.injEq, Prod.mk.injEq]
        constructor
        · rintro ⟨rfl, rfl⟩; exact ⟨h, rfl, rfl⟩
        · rintro ⟨_, rfl, rfl⟩; exact ⟨rfl, rfl⟩
  simp only [derivedHeaders, List.mem_filterMap, List.mem_cons, List.not_mem_nil, or_false,
    Prod.exists, Prod.mk.injEq]
  constructor
  · rintro ⟨name, value, (⟨rfl, rfl⟩ | ⟨rfl, rfl⟩ | ⟨rfl, rfl⟩), e⟩
    · obtain ⟨h, hn, hv⟩ := (one _ _).1 e
      exact ⟨h, .inl ⟨hn, hv⟩⟩
    · obtain ⟨h, hn, hv⟩ := (one _ _).1 e
      exact ⟨h, .inr (.inl ⟨hn, hv⟩)⟩
    · obtain ⟨h, hn, hv⟩ := (one _ _).1 e
      exact ⟨h, .inr (.inr ⟨hn, hv⟩)⟩
  · rintro ⟨h, ⟨hn, hv⟩ | ⟨hn, hv⟩ | ⟨hn, hv⟩⟩
    · exact ⟨_, _, .inl ⟨rfl, rfl⟩, (one _ _).2 ⟨h, hn, hv⟩⟩
    · exact ⟨_, _, .inr (.inl ⟨rfl, rfl⟩), (one _ _).2 ⟨h, hn, hv⟩⟩
    · exact ⟨_, _, .inr (.inr ⟨rfl, rfl⟩), (one _ _).2 ⟨h, hn, hv⟩⟩

/-- With no header for credentials there is none in any letter case. -/
theorem lower_ne_authorization {r : Request} {basic : Bool} (hset : r.hasHeader "Authorization" = false)
    (hnone : r.authorization? basic = none) :
    ∀ n ∈ (r.effectiveHeaders basic).names, Text.lower n ≠ Text.lower "Authorization" := by
  intro n hn h
  have cookie : Text.lower "Cookie" ≠ Text.lower "Authorization" := by decide +kernel
  have contentType : Text.lower "Content-Type" ≠ Text.lower "Authorization" := by decide +kernel
  rcases mem_names_effectiveHeaders.1 hn with hn | hn
  · -- the caller set it, in whatever letter case
    have set : r.hasHeader "Authorization" := hasHeader_iff.2 ⟨n, hn, h⟩
    rw [hset] at set
    exact Bool.noConfusion set
  · -- it was derived, and the two other names are not this one
    obtain ⟨p, hp, rfl⟩ := List.mem_map.1 hn
    rcases (mem_derivedHeaders.1 hp).2 with ⟨_, hv⟩ | ⟨hc, _⟩ | ⟨ht, _⟩
    · rw [hnone] at hv
      exact absurd hv (by simp)
    · exact cookie (hc ▸ h)
    · exact contentType (ht ▸ h)

end CurlSnippets.Request
