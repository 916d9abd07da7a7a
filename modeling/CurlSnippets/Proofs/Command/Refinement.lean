import CurlSnippets.Proofs.Command.Reading
import CurlSnippets.Proofs.Command.Report
import Mathlib.Data.List.TakeDrop

/-!
# Commands of directives mean what their directives mean

The rules search the whole text of a command, each for itself.  On a command of well-formed
directives behind a head that names the url they find together what the directives ask for
(`applyTo_ofNormal`).  So reading a command of this kind is reading its directives.
-/

namespace CurlSnippets

/-- Findings laid over no defaults. -/
theorem Findings.applyTo_default {f : Findings} {url : Text} (h : f.url = some url) :
    f.applyTo {} = {
      url := url
      method := f.method.method?.getD (if f.body.isSome then .post else .get)
      headers := f.fields
      queryParams := Url.queryParams url
      cookies := f.cookies
      verifySsl := !f.insecure
      body := (f.body.map (Body.raw · none)).getD .none
      auth := (f.user.map fun u => Auth.basic u.1 u.2).getD .none } := by
  rw [applyTo, h, Fields.empty_override, Request.mk.injEq]
  -- only the method is not immediate: a body matters where none is found
  refine ⟨rfl, ?_, rfl, rfl, List.nil_append _, rfl, Bool.or_true _, rfl, Bool.and_true _, rfl, rfl,
    rfl, rfl⟩
  show f.method.method?.getD (if f.body.isSome && f.method.method?.isNone && true then .post
    else .get) = _
  cases f.method.method? with
  | none => rw [Option.isNone_none, Bool.and_true, Bool.and_true]
  | some m => rfl

end CurlSnippets

namespace CurlSnippets.Command

open Pattern

/-! ### Headers -/

theorem addHeader_eq (written value : Text) (f : Fields) :
    Directive.addHeader f value = f.putAll (headerFinding written value).field?.toList := by
  unfold Directive.addHeader headerFinding
  obtain ⟨name, content⟩ := Text.cut ':' value
  cases content with
  -- no colon, so there is no field
  | none => rfl
  | some content =>
    -- a field without a name is passed over as well
    by_cases h : Text.trim name = []
    · simp only [h, if_true, List.isEmpty_nil]
      rfl
    · have hne : (Text.trim name).isEmpty = false := by simpa using h
      simp only [h, hne, if_false, Bool.false_eq_true]
      rfl

/-- The header that a directive gives, if it is well formed. -/
def Directive.field? (d : Directive) : Option (Text × Text) :=
  (d.given? .header).bind fun value => (headerFinding d.text value).field?

theorem putAll_fields (ds : List Directive) (f : Fields) :
    f.putAll (ds.filterMap Directive.field?) =
      (ds.filterMap (Directive.given? .header)).foldl Directive.addHeader f := by
  induction ds generalizing f with
  | nil => rfl
  | cons d ds ih =>
    rw [List.filterMap_cons, List.filterMap_cons, Directive.field?]
    cases d.given? .header with
    | none => exact ih f
    | some value =>
      have add := addHeader_eq d.text value f
      rw [Option.bind_some, List.foldl_cons, ← ih, add]
      cases (headerFinding d.text value).field? with
      | none => rfl
      | some p => rfl

/-! ### Cookies -/

/-- The two parts of a cut: what stands before the first separator, and what it leaves of the rest. -/
theorem cut_eq (sep : Char) (t : Text) : Text.cut sep t =
    (t.takeWhile (· ≠ sep), (t.dropWhile (· ≠ sep)).tail?) := by
  induction t with
  | nil => rfl
  | cons c t ih =>
    by_cases h : c = sep
    · simp [Text.cut, h]
    · simp [Text.cut, h, ih]

theorem cookie?_eq (t : Text) : cookie? t = Directive.cookieOf? t := by
  rw [cookie?, Directive.cookieOf?, cut_eq, List.span_eq_takeWhile_dropWhile]
  -- what is left behind the name is nothing, or begins with the equals sign
  cases left : (Text.trim t).dropWhile (· ≠ '=') with
  | nil => rfl
  | cons c value =>
    have sign : c = '=' := by
      have stops := List.head?_dropWhile_not (· ≠ '=') (Text.trim t)
      rw [left] at stops
      simpa using stops
    subst sign
    simp

theorem split_eq_splitOn (sep : Char) (t : Text) : Text.split sep t = t.splitOn sep := by
  induction t with
  | nil => rfl
  | cons c t ih =>
    -- at a separator a piece begins, and any other character goes to the piece behind it
    obtain ⟨piece, pieces, e⟩ := List.exists_cons_of_ne_nil (List.splitOn_ne_nil sep t)
    rw [Text.split, ih, e, List.splitOn, List.splitOnP_cons_eq_if_modifyHead, ← List.splitOn, e]
    simp

/-- The cookies of directives are those of their texts one after another. -/
theorem Directive.cookies_eq (ds : List Directive) :
    Directive.cookies ds = (ds.filterMap (Directive.given? .cookie)).flatMap cookiesOf := by
  rw [Directive.cookies, List.filterMap_flatMap]
  refine List.flatMap_congr fun value _ => ?_
  rw [cookiesOf, split_eq_splitOn, funext cookie?_eq]

/-! ### All rules together -/

theorem method?_findMethod (command : Text) : (findMethod command).method? =
    (methodOption.first? command).bind fun word => Method.ofName? (Text.upper word) := by
  unfold findMethod
  cases methodOption.first? command with
  | none => rfl
  | some word =>
    cases h : Method.ofName? (Text.upper word) with
    | none => simp only [Option.bind_some, h, MethodFinding.method?]
    | some m => simp only [Option.bind_some, h, MethodFinding.method?]

section Search

variable {ds : List Directive} (hds : ∀ d ∈ ds, d.WellFormed) {head : Text}
  (hhead : ∀ rest, Parted rest → optionStart.occurs rest none head = false)

include hds hhead

theorem fields_directives : (Findings.ofNormal (head ++ spread (ds.map Directive.text))).fields =
    Directive.headers ds := by
  -- first the findings, each with the directive it was found in
  have found : findHeaders (head ++ spread (ds.map Directive.text)) =
      ds.filterMap fun d => (d.given? .header).map (headerFinding d.text) := by
    rw [findHeaders, all_headerOption hds hhead, List.map_filterMap]
    congr 1
    funext d
    rw [Option.map_map]
    rfl
  -- then those of them that have a field
  have kept : (findHeaders (head ++ spread (ds.map Directive.text))).filterMap
      HeaderFinding.field? = ds.filterMap Directive.field? := by
    rw [found, List.filterMap_filterMap]
    congr 1
    funext d
    rw [Option.bind_map]
    rfl
  have written : (Findings.ofNormal (head ++ spread (ds.map Directive.text))).fields =
      (∅ : Fields).putAll (ds.filterMap Directive.field?) := by
    rw [← kept]
    rfl
  rw [written, putAll_fields, Directive.headers]

theorem method?_directives : (findMethod (head ++ spread (ds.map Directive.text))).method? =
    (ds.findSome? (Directive.given? .method)).bind fun word =>
      Method.ofName? (Text.upper word) := by
  rw [method?_findMethod, first?_methodOption (fun d hd => (hds d hd).contained) hhead]

theorem findCookies_directives : findCookies (head ++ spread (ds.map Directive.text)) =
    Directive.cookies ds := by
  rw [findCookies, all_cookieOption hds hhead, Directive.cookies_eq]
  clear hds hhead
  -- a directive of another kind gives no text and no cookies
  induction ds with
  | nil => rfl
  | cons d ds ih =>
    rw [List.filterMap_cons, List.filterMap_cons]
    cases d.given? .cookie with
    | none => exact ih
    | some value =>
      rw [Option.map_some, List.flatMap_cons, List.flatMap_cons, ih]

/-- What all rules find behind a head that gives the url is what the directives ask for. -/
theorem applyTo_ofNormal {url : Text}
    (hurl : findUrl (head ++ spread (ds.map Directive.text)) = some url) :
    (Findings.ofNormal (head ++ spread (ds.map Directive.text))).applyTo {} =
      Directive.request url ds := by
  -- one fact for each rule
  have contained : ∀ d ∈ ds, d.Contained := fun d hd => (hds d hd).contained
  have method := method?_directives hds hhead
  have body := findBody_directives contained hhead
  have headers := fields_directives hds hhead
  have user : userOption.first? (head ++ spread (ds.map Directive.text)) =
      ds.findSome? (Directive.given? .user) :=
    (first?_valueOption (k := .user) contained hhead (by decide)).trans
      (map_untilQuote_given? hds (by decide))
  have cookies := findCookies_directives hds hhead
  have insecure : (insecureSwitch.first? (head ++ spread (ds.map Directive.text))).isSome =
      ds.any fun d => d.kind = .insecure :=
    first?_switch (k := .insecure) contained hhead (by decide)
  rw [Findings.applyTo_default hurl, headers, Directive.request, Request.mk.injEq]
  refine ⟨rfl, ?_, rfl, rfl, cookies, rfl, rfl, rfl, congrArg (!·) insecure, rfl, rfl, ?_, ?_⟩
  · -- the method: the one that is named, else POST or GET by the body
    show (findMethod _).method?.getD (if (findBody _).isSome then .post else .get) =
      Directive.methodOf ds
    rw [method, body, Directive.methodOf]
    cases (ds.findSome? (Directive.given? .method)).bind fun word =>
        Method.ofName? (Text.upper word) with
    | none => rfl
    | some m => rfl
  · -- the body, with no type of its own
    show ((findBody _).map (Body.raw · none)).getD .none = _
    rw [body]
    cases Directive.payload ds with
    | none => rfl
    | some p => rfl
  · -- the credentials, cut at the first colon
    show ((findUser _).map fun u => Auth.basic u.1 u.2).getD .none = Directive.auth ds
    rw [findUser, user, Directive.auth]
    cases ds.findSome? (Directive.given? .user) with
    | none => rfl
    | some value => rfl

end Search

/-! ### A quoted url behind the word `curl` -/

theorem kept_curl : Kept "curl" := Kept.bare (by decide) (by decide) (by decide)

/-- No option starts in the word `curl` in front of anything. -/
theorem occurs_optionStart_curl (rest : Text) :
    optionStart.occurs rest none "curl" = false := by
  simp [Place.occurs, optionStart, looksLikeOption]

theorem named?_curl {α : Type} (value : Text → Option (α × Text)) (t : Text) :
    named? value ["curl"] ("curl" ++ ' ' :: t) = value (Text.dropBlanks t) := by
  rw [named?, List.findSome?_cons, Text.after?_append]
  simp only [show Text.isBlank ' ' = true by decide, if_true, List.findSome?_nil]
  cases value (Text.dropBlanks t) <;> rfl

theorem curl_append (t : Text) : ("curl" : Text) ++ t = 'c' :: ("url" ++ t) := rfl

theorem first?_afterCurl {value : Text → Option (Text × Text)} {t content rest : Text}
    (h : value (Text.dropBlanks t) = some (content, rest)) :
    (afterCurl value).first? ("curl" ++ ' ' :: t) = some content := by
  -- the match is right at the beginning of the command
  have named := named?_curl value t
  rw [curl_append] at named ⊢
  rw [first?, firstAfter, afterCurl, named, h]

theorem quotedUrl?_append {url : Text} (hne : url ≠ []) (hq : '\'' ∉ url ∧ '"' ∉ url)
    (rest : Text) : quotedUrl? ('\'' :: (url ++ '\'' :: rest)) = some (url, rest) := by
  have all : ∀ c ∈ url, (decide (c ≠ '\'') && decide (c ≠ '"')) = true := by
    intro c hc
    have hs : c ≠ '\'' := by rintro rfl; exact hq.1 hc
    have hd : c ≠ '"' := by rintro rfl; exact hq.2 hc
    simp [hs, hd]
  obtain ⟨taken, left⟩ := Text.run_append (c := '\'') (by decide) all rest
  obtain ⟨c, u, rfl⟩ := List.exists_cons_of_ne_nil hne
  simp only [quotedUrl?, taken, left]
  simp

theorem findUrl_quoted {url : Text} (hurl : looksLikeUrl url) (hq : '\'' ∉ url ∧ '"' ∉ url)
    (rest : Text) : findUrl ("curl" ++ ' ' :: '\'' :: (url ++ '\'' :: rest)) = some url := by
  have hne : url ≠ [] := by rintro rfl; exact absurd hurl (by decide)
  -- the quoted form is tried first, and it looks like a url
  have first := first?_afterCurl (t := '\'' :: (url ++ '\'' :: rest)) (quotedUrl?_append hne hq rest)
  rw [findUrl, List.findSome?_cons, first, Option.filter_some, if_pos hurl]
  rfl

/-- The word `curl` and a url in apostrophes. -/
def curlUrl (url : Text) : Text := "curl" ++ ' ' :: Literal.shell url

variable {url : Text}

theorem findUrl_curlUrl (hurl : looksLikeUrl url) (hq : '\'' ∉ url ∧ '"' ∉ url)
    (rest : Text) : findUrl (curlUrl url ++ rest) = some url := by
  have found := findUrl_quoted hurl hq rest
  rw [curlUrl, shell_eq, escaped_of_notMem hq.1]
  simpa using found

theorem curlUrl_eq (hq : '\'' ∉ url ∧ '"' ∉ url) :
    (("curl '" : Text) ++ url ++ ("'" : Text)) = curlUrl url := by
  rw [curlUrl, shell_eq, escaped_of_notMem hq.1]
  simp

theorem kept_curlUrl (hplain : Directive.Plain url) : Kept (curlUrl url) :=
  kept_curl.spaced hplain.kept

/-- No option starts in front of what follows the url. -/
theorem occurs_optionStart_curlUrl (hplain : Directive.Plain url) (rest : Text) :
    optionStart.occurs rest none (curlUrl url) = false := by
  have quoted : optionStart.occurs rest (some ' ') (Literal.shell url) = false :=
    Directive.Contained.occurs_argument (d := .body .data url) hplain rfl rest
  rw [curlUrl, Place.occurs_append, occurs_optionStart_curl, Place.occurs_cons, quoted]
  simp [optionStart, looksLikeOption]

theorem request_curlUrl {ds : List Directive} (hurl : looksLikeUrl url)
    (hq : '\'' ∉ url ∧ '"' ∉ url) (hplain : Directive.Plain url)
    (hds : ∀ d ∈ ds, d.WellFormed) :
    (readCommand (curlUrl url ++ spread (ds.map Directive.text)) {}).request =
      Directive.request url ds := by
  -- the command is in normal layout: its pieces are kept
  have normal : normalize (curlUrl url ++ spread (ds.map Directive.text)) =
      curlUrl url ++ spread (ds.map Directive.text) := by
    refine normalize_spread (kept_curlUrl hplain) fun p hp => ?_
    obtain ⟨d, hd, rfl⟩ := List.mem_map.1 hp
    exact (hds d hd).contained.kept
  rw [request_readCommand, Findings.ofCommand, normal]
  exact applyTo_ofNormal hds (fun rest _ => occurs_optionStart_curlUrl hplain rest)
    (findUrl_curlUrl hurl hq _)

/-- **Commands of directives.**  A quoted url behind the word `curl` and well-formed directives in any
order are read as the directives ask for. -/
theorem request_of_directives {ds : List Directive} (hurl : looksLikeUrl url)
    (hq : '\'' ∉ url ∧ '"' ∉ url) (hplain : Directive.Plain url)
    (hds : ∀ d ∈ ds, d.WellFormed) :
    (readCommand ("curl '" ++ url ++ "'" ++ spread (ds.map Directive.text)) {}).request =
      Directive.request url ds := by
  rw [curlUrl_eq hq]
  exact request_curlUrl hurl hq hplain hds

/-- The first method and the first credentials count, the last value of a header given twice, the body by
its rank, and every cookie of every option. -/
theorem request_of_repeated_options :
    (readCommand ("curl '/p?a=1' --data 'b' -H 'A: 1' -X put --cookie ' a=1; b=2=3;jar; =x' "
      ++ "-u 'u:p:q' -d 'c' --header 'A:2' -k --user 'v' --request get -L -b 'a=4'") {}).request =
      { url := "/p?a=1", method := .put, headers := Fields.ofList [("A", "2")],
        queryParams := Fields.ofList [("a", "1")],
        cookies := [{ name := "a", value := "1" }, { name := "b", value := "2=3" },
          { name := "a", value := "4" }],
        verifySsl := false, body := .raw "c" none, auth := .basic "u" "p:q" } := by
  have written : (("curl '/p?a=1' --data 'b' -H 'A: 1' -X put --cookie ' a=1; b=2=3;jar; =x' "
      ++ "-u 'u:p:q' -d 'c' --header 'A:2' -k --user 'v' --request get -L -b 'a=4'" : Text)) =
        "curl '" ++ "/p?a=1" ++ "'" ++ spread ([.body .data "b", .header true "A: 1",
          .method true "put", .cookie false " a=1; b=2=3;jar; =x", .user true "u:p:q",
          .body .short "c", .header false "A:2", .insecure true, .user false "v",
          .method false "get", .location true, .cookie true "a=4"].map Directive.text) := by
    decide +kernel
  rw [written]
  exact (request_of_directives (by decide) (by decide) (by decide) (by decide +kernel)).trans
    (by decide +kernel)

end CurlSnippets.Command
