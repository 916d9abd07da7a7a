import CurlSnippets.Command.Findings
import CurlSnippets.Proofs.Fields

/-!
# Reports in closed form

The report of a command is built rule by rule.  Every rule changes fields of its own, so what all of
them come to can be told field by field (`changes_tried`), and the parts in the report are those whose
rules missed them (`undetected_tried`).  Only the method depends on two rules, its own and the one for
the body.  So a report is the findings laid over the defaults, with the parts that they lack
(`report?_eq`).
-/

namespace CurlSnippets

namespace Findings

open Command

/-! ### Closed form -/

/-- Whether a body without a method makes a request of the default method a POST. -/
def promotes (f : Findings) (defaults : Request) : Bool :=
  f.body.isSome && f.method.method?.isNone && defaults.method = .get

/-- The findings laid over defaults. -/
def applyTo (f : Findings) (defaults : Request) : Request where
  url := f.url.getD defaults.url
  method := f.method.method?.getD (if f.promotes defaults then .post else defaults.method)
  headers := defaults.headers.override f.fields
  queryParams := (f.url.map Url.queryParams).getD defaults.queryParams
  cookies := defaults.cookies ++ f.cookies
  timeoutMs := defaults.timeoutMs
  followRedirects := f.location || defaults.followRedirects
  maxRedirects := defaults.maxRedirects
  verifySsl := !f.insecure && defaults.verifySsl
  proxy := defaults.proxy
  protocol := defaults.protocol
  body := (f.body.map (Body.raw · none)).getD defaults.body
  auth := (f.user.map fun u => Auth.basic u.1 u.2).getD defaults.auth

/-- Whether a part of the request was neither found nor inferred. -/
def lacks (f : Findings) (defaults : Request) : Part → Bool
  | .url => f.url.isNone
  | .method => f.method.method?.isNone && !f.promotes defaults
  | .headers => f.fields.isEmpty
  | .body => f.body.isNone
  | .auth => f.user.isNone
  | .cookies => f.cookies.isEmpty

/-- The parts that were not found, in order. -/
def undetected (f : Findings) (defaults : Request) : List Part := Part.all.filter (f.lacks defaults)

variable (f : Findings) (defaults : Request)

/-- Whether the rule for a part found nothing. -/
def misses : Part → Bool
  | .url => f.url.isNone
  | .method => f.method.method?.isNone
  | .headers => f.fields.isEmpty
  | .body => f.body.isNone
  | .auth => f.user.isNone
  | .cookies => f.cookies.isEmpty

/-- The parts whose rules found nothing, in order. -/
def unmatched : List Part := Part.all.filter f.misses

variable {f defaults}

theorem misses_method_of_promotes (h : f.promotes defaults) : f.misses .method := by
  rw [promotes, Bool.and_eq_true, Bool.and_eq_true] at h
  exact h.1.2

theorem lacks_of_ne_method {p : Part} (hp : p ≠ .method) : f.lacks defaults p = f.misses p := by
  cases p with
  | method => exact absurd rfl hp
  | url | headers | body | auth | cookies => rfl

theorem lacks_method :
    f.lacks defaults .method = (f.misses .method && !f.promotes defaults) := rfl

theorem mem_undetected {p : Part} : p ∈ f.undetected defaults ↔ f.lacks defaults p := by
  have listed : p ∈ Part.all := by cases p <;> decide
  rw [undetected, List.mem_filter]
  exact and_iff_right listed

theorem mem_unmatched {p : Part} : p ∈ f.unmatched ↔ f.misses p := by
  have listed : p ∈ Part.all := by cases p <;> decide
  rw [unmatched, List.mem_filter]
  exact and_iff_right listed

end Findings

/-! ### Rule by rule -/

namespace Tried

variable {f : Findings} {defaults : Request}

/-- The changes are those of the rules one after another; a rule that changes nothing does not count. -/
theorem changes_foldl (rules : List Rule) (tried : Tried) :
    (rules.foldl (step f defaults) tried).changes =
      rules.foldl (fun c rule => c.update (f.changes defaults rule)) tried.changes := by
  induction rules generalizing tried with
  | nil => rfl
  | cons rule rules ih =>
    rw [List.foldl_cons, List.foldl_cons, ih]
    congr 1
    -- laying nothing over the changes leaves them as they are
    by_cases none : f.changes defaults rule = {}
    · rw [step_of_eq none, none]
      rfl
    · rw [step_of_ne none]

theorem undetected_foldl (rules : List Rule) (tried : Tried) :
    (rules.foldl (step f defaults) tried).undetected = tried.undetected ++
      rules.filterMap fun rule => if f.changes defaults rule = {} then rule.part? else none := by
  induction rules generalizing tried with
  | nil => simp
  | cons rule rules ih =>
    rw [List.foldl_cons, ih, List.filterMap_cons]
    by_cases none : f.changes defaults rule = {}
    · rw [step_of_eq none, if_pos none]
      cases rule.part? <;> simp
    · rw [step_of_ne none, if_neg none]

end Tried

namespace Findings

open Command

variable (f : Findings) (defaults : Request)

/-- What all rules change, field by field. -/
theorem changes_tried : (f.tried defaults).changes =
    { url := f.url
      queryParams := f.url.map Url.queryParams
      method := f.method.method?
      headers := if f.fields.isEmpty then none else some (defaults.headers.override f.fields)
      body := f.body.map (Body.raw · none)
      auth := f.user.map fun u => Auth.basic u.1 u.2
      followRedirects := if f.location then some true else none
      verifySsl := if f.insecure then some false else none
      cookies := if f.cookies.isEmpty then none else some (defaults.cookies ++ f.cookies) } := by
  rw [tried, Tried.changes_foldl]
  -- the two rules that build on the defaults change nothing without findings of their own
  cases noFields : f.fields.isEmpty <;> cases noCookies : f.cookies.isEmpty <;>
    simp [Rule.all, changes, Changes.update, noFields, noCookies]

/-- A rule changes nothing exactly if it missed its part. -/
theorem changes_eq_iff (p : Part) : f.changes defaults (.part p) = {} ↔ f.misses p := by
  cases p with
  | url => simp [changes, misses]
  | method => simp [changes, misses]
  | headers => simp [changes, misses]
  | body => simp [changes, misses]
  | auth => simp [changes, misses]
  | cookies => simp [changes, misses]

theorem undetected_tried : (f.tried defaults).undetected = f.unmatched := by
  -- a rule speaks for at most one part, and the flags for none
  have parts : ∀ rule : Rule, (if f.changes defaults rule = {} then rule.part? else none) =
      rule.part?.filter f.misses := by
    intro rule
    cases rule with
    | part p => simp [changes_eq_iff, Rule.part?, Option.filter]
    | flags => simp [Rule.part?]
  rw [tried, Tried.undetected_foldl, funext parts, unmatched, List.nil_append]
  exact (List.filter_filterMap (f := Rule.part?) (p := f.misses) (l := Rule.all)).symm

theorem promotes_eq : f.promotes defaults = ((f.tried defaults).changes.body.isSome &&
    (f.tried defaults).changes.method.isNone && defaults.method = .get) := by
  rw [changes_tried, promotes, Option.isSome_map]

/-- The method can be struck from what the rules missed, and what is left is what the findings lack. -/
theorem strike?_unmatched (h : f.promotes defaults) :
    strike? .method f.unmatched = some (f.undetected defaults) := by
  have distinct : f.unmatched.Nodup := (by decide : Part.all.Nodup).filter _
  have there : .method ∈ f.unmatched := mem_unmatched.2 (misses_method_of_promotes h)
  rw [strike?, if_pos there, distinct.erase_eq_filter, unmatched, List.filter_filter, undetected]
  refine congrArg some (List.filter_congr fun p _ => ?_)
  -- only the method is lacking in another way than missed
  by_cases hp : p = .method
  · subst hp
    rw [lacks_method, h]
    simp
  · rw [lacks_of_ne_method hp]
    simp [hp]

theorem unmatched_eq_undetected (h : ¬ f.promotes defaults) :
    f.unmatched = f.undetected defaults := by
  refine List.filter_congr fun p _ => ?_
  by_cases hp : p = .method
  · subst hp
    rw [lacks_method, Bool.eq_false_iff.2 h]
    simp
  · exact (lacks_of_ne_method hp).symm

/-- The findings laid over the defaults are the changes made to them, once the method is decided. -/
theorem applyTo_eq (method : Option Method)
    (decided : method = f.method.method?.or (if f.promotes defaults then some .post else none)) :
    { (f.tried defaults).changes with method := method }.applyTo defaults = f.applyTo defaults := by
  -- a rule without findings leaves the default, and so does laying nothing over it
  have headers : (if f.fields.isEmpty then none else some (defaults.headers.override f.fields)).getD
      defaults.headers = defaults.headers.override f.fields := by
    split
    · rename_i none
      rw [Fields.override, List.isEmpty_iff.1 none]
      rfl
    · rfl
  have cookies : (if f.cookies.isEmpty then none else some (defaults.cookies ++ f.cookies)).getD
      defaults.cookies = defaults.cookies ++ f.cookies := by
    split
    · rename_i none
      rw [List.isEmpty_iff.1 none, List.append_nil]
      rfl
    · rfl
  rw [decided, changes_tried, Changes.applyTo, applyTo, Request.mk.injEq]
  -- method and flags are left, and each is decided by cases
  refine ⟨rfl, ?_, headers, rfl, cookies, rfl, ?_, rfl, ?_, rfl, rfl, rfl, rfl⟩
  · show (f.method.method?.or _).getD defaults.method = _
    cases f.method.method? with
    | some m => rfl
    | none => cases f.promotes defaults <;> rfl
  · show (if f.location then some true else none).getD defaults.followRedirects = _
    cases f.location <;> rfl
  · show (if f.insecure then some false else none).getD defaults.verifySsl = _
    cases f.insecure <;> rfl

/-- **A report in closed form.** -/
theorem report?_eq : f.report? defaults =
    some ⟨f.applyTo defaults, f.undetected defaults, (f.tried defaults).records⟩ := by
  have missed : (f.tried defaults).changes.method = f.method.method? := by rw [changes_tried]
  rw [report?, ← promotes_eq, undetected_tried]
  by_cases h : f.promotes defaults
  · -- the body decides the method, for which the rule of its own found nothing
    have none : f.method.method? = none := Option.isNone_iff_eq_none.1 (misses_method_of_promotes h)
    rw [if_pos h, strike?_unmatched f defaults h, Option.map_some,
      applyTo_eq f defaults (some .post) (by rw [none, if_pos h]; rfl)]
  · -- no part is struck, and the method is the one of its rule
    have same := applyTo_eq f defaults f.method.method? (by rw [if_neg h, Option.or_none])
    rw [← missed] at same
    rw [if_neg h, unmatched_eq_undetected f defaults h, same]

end Findings

theorem readCommand_eq (command : Text) (defaults : Request) : readCommand command defaults =
    ⟨(Findings.ofCommand command).applyTo defaults, (Findings.ofCommand command).undetected defaults,
      ((Findings.ofCommand command).tried defaults).records⟩ := by
  simp only [readCommand, Findings.report, Findings.report?_eq, Option.get_some]

/-- The request of a command is what was found, laid over the defaults. -/
theorem request_readCommand (command : Text) (defaults : Request) :
    (readCommand command defaults).request = (Findings.ofCommand command).applyTo defaults := by
  rw [readCommand_eq]

theorem undetected_readCommand (command : Text) (defaults : Request) :
    (readCommand command defaults).undetected = (Findings.ofCommand command).undetected defaults := by
  rw [readCommand_eq]

end CurlSnippets
