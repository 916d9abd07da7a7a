import CurlSnippets.Proofs.Command.Report

/-!
# Commands read over defaults

A command read over defaults is the same command read over none, merged into the defaults
(`readCommand_merges`).  Only the method depends on more than one rule: a body makes a request that is
a GET by default a POST, and the report then no longer names the method.
-/

namespace CurlSnippets

namespace Findings

open Command

variable {f : Findings} {defaults : Request}

/-! ### What a report names -/

/-- A part that only its own rule speaks about is in the report exactly if that rule missed it. -/
theorem mem_undetected_iff_misses {p : Part} (hp : p ≠ .method) :
    p ∈ f.undetected defaults ↔ f.misses p := by
  rw [mem_undetected, lacks_of_ne_method hp]

/-- The rest of a report does not depend on the defaults. -/
theorem filter_undetected (f : Findings) (d e : Request) :
    (f.undetected d).filter (· ≠ .method) = (f.undetected e).filter (· ≠ .method) := by
  rw [undetected, undetected, List.filter_filter, List.filter_filter]
  refine List.filter_congr fun p _ => ?_
  -- the filter leaves the method out, and no other part looks at the defaults
  by_cases hp : p = .method
  · simp [hp]
  · rw [lacks_of_ne_method hp, lacks_of_ne_method hp]

/-! ### Fields of a request over defaults -/

/-- What is laid over a default is the default where nothing was found, and else what is laid over
any other. -/
theorem laid_over {α : Type} {o : Option α} {d e : α} {missed : Prop} [Decidable missed]
    (h : missed ↔ o.isNone) : o.getD d = if missed then d else o.getD e := by
  cases o with
  | none => exact (if_pos (h.2 rfl)).symm
  | some a => exact (if_neg fun m => Bool.noConfusion (h.1 m)).symm

theorem map_laid_over {α β : Type} {o : Option α} (g : α → β) {d e : β} {missed : Prop}
    [Decidable missed] (h : missed ↔ o.isNone) :
    (o.map g).getD d = if missed then d else (o.map g).getD e :=
  laid_over (h.trans (by rw [Option.isNone_map]))

theorem headers_applyTo (f : Findings) (defaults : Request) :
    (f.applyTo defaults).headers = defaults.headers.override (f.applyTo {}).headers := by
  have plain : (f.applyTo {}).headers = f.fields := Fields.empty_override _
  rw [plain]
  rfl

theorem verifySsl_applyTo (f : Findings) (defaults : Request) :
    (f.applyTo defaults).verifySsl = (defaults.verifySsl && (f.applyTo {}).verifySsl) := by
  show (!f.insecure && defaults.verifySsl) = (defaults.verifySsl && (!f.insecure && true))
  rw [Bool.and_true, Bool.and_comm]

/-- The method is decided by a body exactly if none was named, a body was found, and the default is a
GET. -/
theorem promotes_iff : f.promotes defaults ↔
    f.method.method? = none ∧ (.body ∉ f.undetected defaults ∧ defaults.method = .get) := by
  have found : .body ∉ f.undetected defaults ↔ f.body.isSome := by
    rw [mem_undetected_iff_misses (by decide)]
    cases h : f.body <;> simp [misses, h]
  rw [found, promotes]
  simp only [Bool.and_eq_true, Option.isNone_iff_eq_none, decide_eq_true_eq]
  tauto

theorem method_mem_undetected : .method ∈ f.undetected defaults ↔
    f.method.method? = none ∧ ¬ (.body ∉ f.undetected defaults ∧ defaults.method = .get) := by
  have named : f.misses .method ↔ f.method.method? = none := Option.isNone_iff_eq_none
  rw [mem_undetected, lacks_method, Bool.and_eq_true, named, Bool.not_eq_true', Bool.eq_false_iff,
    Ne, promotes_iff]
  tauto

theorem method_applyTo (f : Findings) (defaults : Request) : (f.applyTo defaults).method =
    match f.method.method? with
    | some m => m
    | none =>
      if .body ∉ f.undetected defaults ∧ defaults.method = .get then .post
      else defaults.method := by
  -- the report says whether a body was found, so it decides as the findings do
  show f.method.method?.getD (if f.promotes defaults then .post else defaults.method) = _
  simp only [promotes_iff]
  cases f.method.method? with
  | some m => rfl
  | none => simp only [true_and, Option.getD_none]

end Findings

/-! ### Merging -/

/-- `report`, of a command read over defaults, is `plain`, of the same command read over none, merged
into the defaults. -/
structure Report.Merges (command : Text) (defaults : Request) (report plain : Report) : Prop where
  /-- The report names its parts in order, each once. -/
  ordered : report.undetected.Sublist [.url, .method, .headers, .body, .auth, .cookies]
  same : report.undetected.filter (· ≠ .method) = plain.undetected.filter (· ≠ .method)
  /-- The report is the one that the rules come to, step by step. -/
  struck : (Findings.ofCommand command).report? defaults = some report
  kept : report.request.timeoutMs = defaults.timeoutMs ∧
    report.request.maxRedirects = defaults.maxRedirects ∧
    report.request.proxy = defaults.proxy ∧ report.request.protocol = defaults.protocol
  url : report.request.url =
    if .url ∈ report.undetected then defaults.url else plain.request.url
  queryParams : report.request.queryParams =
    if .url ∈ report.undetected then defaults.queryParams else plain.request.queryParams
  body : report.request.body =
    if .body ∈ report.undetected then defaults.body else plain.request.body
  auth : report.request.auth =
    if .auth ∈ report.undetected then defaults.auth else plain.request.auth
  /-- Names that are there keep their places, and new ones follow in order. -/
  headerNames : report.request.headers.names = defaults.headers.names ++
    plain.request.headers.names.filter fun n => n ∉ defaults.headers.names
  headerValues : ∀ n, report.request.headers.get? n =
    (plain.request.headers.get? n).or (defaults.headers.get? n)
  cookies : report.request.cookies = defaults.cookies ++ plain.request.cookies
  verifySsl : report.request.verifySsl = (defaults.verifySsl && plain.request.verifySsl)
  followRedirects : report.request.followRedirects = (defaults.followRedirects ||
    (Command.locationSwitch.first? (Command.normalize command)).isSome)
  method : report.request.method =
    match (Command.findMethod (Command.normalize command)).method? with
    | some m => m
    | none =>
      if .body ∉ report.undetected ∧ defaults.method = .get then .post else defaults.method
  methodLacks : .method ∈ report.undetected ↔
    (Command.findMethod (Command.normalize command)).method? = none ∧
      ¬ (.body ∉ report.undetected ∧ defaults.method = .get)

/-- **Reading over defaults** is reading over none and merging what was found into the defaults. -/
theorem readCommand_merges (command : Text) (defaults : Request) :
    (readCommand command defaults).Merges command defaults (readCommand command {}) := by
  rw [readCommand_eq command defaults, readCommand_eq command {}]
  exact {
    ordered := List.filter_sublist
    same := Findings.filter_undetected _ _ _
    struck := Findings.report?_eq _ _
    kept := ⟨rfl, rfl, rfl, rfl⟩
    url := Findings.laid_over (Findings.mem_undetected_iff_misses (by decide))
    queryParams := Findings.map_laid_over Url.queryParams
      (Findings.mem_undetected_iff_misses (p := .url) (by decide))
    body := Findings.map_laid_over (Body.raw · none)
      (Findings.mem_undetected_iff_misses (p := .body) (by decide))
    auth := Findings.map_laid_over (fun u : Text × Text => Auth.basic u.1 u.2)
      (Findings.mem_undetected_iff_misses (p := .auth) (by decide))
    headerNames := (congrArg Fields.names (Findings.headers_applyTo _ _)).trans
      (Fields.names_override _ _)
    headerValues := fun n => (congrArg (Fields.get? · n) (Findings.headers_applyTo _ _)).trans
      (Fields.get?_override _ _ n)
    cookies := rfl
    verifySsl := Findings.verifySsl_applyTo _ _
    followRedirects := Bool.or_comm _ _
    method := Findings.method_applyTo _ _
    methodLacks := Findings.method_mem_undetected }

end CurlSnippets
