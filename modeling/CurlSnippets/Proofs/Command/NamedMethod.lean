import CurlSnippets.Proofs.Command.Defaults
import CurlSnippets.Proofs.Command.Refinement

/-!
# Commands that name their method

A body makes a request that is a GET by default a POST.  Whether it may depends on the method that was
found and not on the option: the word of an option that names no method is ignored, and then the body
decides (`promotes_of_named`).  So the method of a command with the option is the one it would have
without its body exactly if the word is a method, there is no body, or the default is no GET
(`method_named_iff`).
-/

namespace CurlSnippets

open Command

namespace Findings

variable {f : Findings} {defaults : Request}

/-- The method over defaults is the one that was found, else the default, but for a body that decides
it. -/
theorem method_applyTo_of_promotes (h : f.promotes defaults) :
    (f.applyTo defaults).method = .post := by
  have missed : f.method.method? = none := (promotes_iff.1 h).1
  rw [applyTo, missed, h]
  rfl

theorem method_applyTo_of_not_promotes (h : ¬ f.promotes defaults) :
    (f.applyTo defaults).method = f.method.method?.getD defaults.method := by
  rw [applyTo, if_neg h]

/-- A body decides the method only over a GET, so what it makes of it is never what was there. -/
theorem method_applyTo_eq_iff : (f.applyTo defaults).method = f.method.method?.getD defaults.method ↔
    ¬ f.promotes defaults := by
  -- a body that decides makes a POST, and it does so over a GET only
  refine ⟨fun h hp => ?_, method_applyTo_of_not_promotes⟩
  obtain ⟨missed, _, get⟩ := promotes_iff.1 hp
  rw [method_applyTo_of_promotes hp, missed, get] at h
  exact absurd h (by decide)

/-- Without a body nothing but the method option decides the method. -/
theorem method_applyTo_bodiless (f : Findings) (defaults : Request) :
    ({ f with body := none }.applyTo defaults).method = f.method.method?.getD defaults.method :=
  method_applyTo_of_not_promotes (by rw [promotes]; simp)

end Findings

section Named

variable {command word : Text}

/-- What a method option finds is the method of its word. -/
theorem method?_of_named (named : methodOption.first? (normalize command) = some word) :
    (Findings.ofCommand command).method.method? = Method.ofName? (Text.upper word) := by
  show (findMethod (normalize command)).method? = _
  rw [method?_findMethod, named, Option.bind_some]

theorem promotes_of_named (named : methodOption.first? (normalize command) = some word)
    (defaults : Request) : (Findings.ofCommand command).promotes defaults ↔
      Method.ofName? (Text.upper word) = none ∧ findBody (normalize command) ≠ none ∧
        defaults.method = .get := by
  have found : ((findBody (normalize command)).isSome : Prop) ↔ findBody (normalize command) ≠ none :=
    Option.isSome_iff_ne_none
  rw [Findings.promotes, method?_of_named named, Bool.and_eq_true, Bool.and_eq_true,
    Option.isNone_iff_eq_none, decide_eq_true_eq]
  show ((findBody (normalize command)).isSome ∧ _) ∧ _ ↔ _
  rw [found]
  tauto

/-- **A named method.**  Without its body a command has the method of its word, or that of the defaults
where the word is no method.  With it the command keeps this method exactly if the word is a method,
there is no body, or the default is no GET. -/
theorem method_named_iff (named : methodOption.first? (normalize command) = some word)
    (defaults : Request) :
    ({ Findings.ofCommand command with body := none }.applyTo defaults).method =
        (Method.ofName? (Text.upper word)).getD defaults.method ∧
      ((readCommand command defaults).request.method =
          (Method.ofName? (Text.upper word)).getD defaults.method ↔
        (Method.ofName? (Text.upper word)).isSome ∨ findBody (normalize command) = none ∨
          defaults.method ≠ .get) := by
  refine ⟨?_, ?_⟩
  · rw [Findings.method_applyTo_bodiless, method?_of_named named]
  · rw [request_readCommand, ← method?_of_named named, Findings.method_applyTo_eq_iff, promotes_of_named named,
      method?_of_named named, Option.isSome_iff_ne_none]
    tauto

end Named

/-- A method that is named in small letters keeps its place over a GET with a body, and an unsupported one
over a PUT. -/
theorem method_named_iff_kept :
    (readCommand "curl https://h -d x --request 'put'" {}).request.method = .put ∧
      (readCommand "curl -X PURGE https://h -d x" { method := .put }).request.method = .put := by
  have supported := @method_named_iff "curl https://h -d x --request 'put'" "put"
    (by decide +kernel) {}
  have ignored := @method_named_iff "curl -X PURGE https://h -d x" "PURGE" (by decide +kernel)
    { method := .put }
  exact ⟨(supported.2.2 (.inl (by decide +kernel))).trans (by decide +kernel),
    (ignored.2.2 (.inr (.inr (by decide)))).trans (by decide +kernel)⟩

/-- A word that is no method leaves the method to the body, which makes a POST of the GET. -/
theorem method_purge :
    methodOption.first? (normalize "curl -X PURGE https://h -d x") = some "PURGE" ∧
      Method.ofName? (Text.upper "PURGE") = none ∧
      ({ Findings.ofCommand "curl -X PURGE https://h -d x" with body := none }.applyTo {}).method =
        .get ∧
      (readCommand "curl -X PURGE https://h -d x" {}).request.method = .post := by
  decide +kernel

end CurlSnippets
