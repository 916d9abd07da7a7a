import CurlSnippets.Proofs.Bytes.Base64
import CurlSnippets.Proofs.Snippet.HeaderPolicy
import CurlSnippets.Proofs.Text.Laws

/-!
# Credentials in a header

A header for basic credentials holds user name and password in base64 letters, so it is read back as a
response body would be.  Of two requests with such a header and no colon in the user name, the headers
are the same only if the credentials are (`credentials_recovered`).
-/

namespace CurlSnippets

namespace Request

/-- A request that signs in with a user name and a password, and not with a header of the caller. -/
structure SignsIn (r : Request) (username password : Text) : Prop where
  auth : r.auth = .basic username password
  unset : r.Unset "Authorization"

variable {r : Request} {u p : Text}

/-- What follows from the credentials is sent under the name for it. -/
theorem get?_authorization {basic : Bool} {value : Text} (unset : r.Unset "Authorization")
    (follows : r.authorization? basic = some value) :
    (r.effectiveHeaders basic).get? "Authorization" = some value :=
  get?_derived (mem_derivedHeaders.2 ⟨unset_iff.1 unset, .inl ⟨rfl, follows⟩⟩)

theorem SignsIn.header (h : r.SignsIn u p) :
    (r.effectiveHeaders true).get? "Authorization" = some (basicCredentials u p) := by
  refine get?_authorization h.unset ?_
  rw [authorization?, h.auth]
  rfl

end Request

/-- Without a colon in the user names, credentials are told from what is sent of them. -/
theorem basicCredentials_inj {u p u' p' : Text} (hu : ':' ∉ u) (hu' : ':' ∉ u') :
    basicCredentials u p = basicCredentials u' p' ↔ u = u' ∧ p = p' := by
  constructor
  · -- the letters are read back, and the first colon parts user name and password
    intro same
    have letters := List.append_cancel_left same
    have texts := congrArg Response.text letters
    rw [Response.text_encode, Response.text_encode, List.append_assoc, List.append_assoc,
      List.singleton_append, List.singleton_append] at texts
    have parts := congrArg (Text.cut ':') texts
    rw [Text.cut_append hu, Text.cut_append hu'] at parts
    obtain ⟨user, password⟩ := Prod.mk.inj parts
    exact ⟨user, Option.some.inj password⟩
  · rintro ⟨rfl, rfl⟩
    rfl

/-- **Credentials are recovered** from the header that is derived for them: it has base64 letters and
pads behind its scheme, and these are read back as user name, colon and password.  So two requests
without a colon in the user name send the same header only for the same credentials. -/
theorem credentials_recovered {r : Request} {u p : Text} (h : r.SignsIn u p) :
    (∃ letters pads : Text,
      (r.effectiveHeaders true).get? "Authorization" = some (("Basic " : Text) ++ (letters ++ pads)) ∧
      (∀ c ∈ letters, c.isAlphanum ∨ c = '+' ∨ c = '/') ∧ pads ∈ [[], ['='], ['=', '=']] ∧
      Response.text (letters ++ pads) = u ++ ':' :: p) ∧
    ∀ {r' : Request} {u' p' : Text}, r'.SignsIn u' p' → ':' ∉ u → ':' ∉ u' →
      ((r.effectiveHeaders true).get? "Authorization" =
        (r'.effectiveHeaders true).get? "Authorization" ↔ u = u' ∧ p = p') := by
  constructor
  · obtain ⟨letters, pads, written, alphabet, padding⟩ :=
      Base64.exists_encode_eq (Utf8.encode (u ++ [':'] ++ p))
    refine ⟨letters, pads, ?_, alphabet, padding, ?_⟩
    · exact h.header.trans (congrArg (fun t => some (("Basic " : Text) ++ t)) written)
    · rw [← written, Response.text_encode, List.append_assoc, List.singleton_append]
  · intro r' u' p' h' hu hu'
    rw [h.header, h'.header, Option.some.injEq, basicCredentials_inj hu hu']

/-- A request with a header of the caller that is named much like the derived one. -/
def signedIn : Request where
  url := "https://h"
  headers := Fields.ofList [("Proxy-Authorization", "x")]
  auth := .basic "Zoë" "a:€𝄞"

/-- Characters of one, two, three and four octets, and a colon in the password. -/
theorem credentials_recovered_unicode :
    signedIn.SignsIn "Zoë" "a:€𝄞" ∧ Response.text "Wm/Dqzph" = "Zoë:a" ∧
      (∃ letters pads : Text,
        (signedIn.effectiveHeaders true).get? "Authorization" =
          some (("Basic " : Text) ++ (letters ++ pads)) ∧
        (∀ c ∈ letters, c.isAlphanum ∨ c = '+' ∨ c = '/') ∧ pads ∈ [[], ['='], ['=', '=']] ∧
        Response.text (letters ++ pads) = "Zoë" ++ ':' :: "a:€𝄞") ∧
      (signedIn.effectiveHeaders true).get? "Authorization" ≠
        ({ signedIn with auth := .basic "Zoë" "a" }.effectiveHeaders true).get? "Authorization" := by
  have here : signedIn.SignsIn "Zoë" "a:€𝄞" := ⟨rfl, Request.unset_iff.2 (by decide +kernel)⟩
  have there : { signedIn with auth := .basic "Zoë" "a" }.SignsIn "Zoë" "a" :=
    ⟨rfl, Request.unset_iff.2 (by decide +kernel)⟩
  obtain ⟨read, told⟩ := credentials_recovered here
  refine ⟨here, by decide +kernel, read, fun same => ?_⟩
  have passwords := ((told there (by decide) (by decide)).1 same).2
  exact absurd passwords (by decide)

end CurlSnippets
