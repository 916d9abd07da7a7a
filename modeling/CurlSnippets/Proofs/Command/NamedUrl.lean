import CurlSnippets.Proofs.Command.Refinement

/-!
# Commands that name their url

A command may give its url by an option and not behind the word `curl`.  Then the first word behind
`curl` is the name of an option, which no url looks like, and the url is that of the first url option
(`findUrl_named`), as long as the word `curl` stands with a blank behind it nowhere else.
-/

namespace CurlSnippets.Command

open Pattern

/-! ### Where the word `curl` stands -/

theorem onlyAt_afterCurl (value : Text → Option (Text × Text)) :
    (afterCurl value).OnlyAt curlWord := by
  have unnamed : ∀ t, isCurlWord t = false → named? value ["curl"] t = none := by
    intro t ht
    rw [isCurlWord] at ht
    rw [named?, List.findSome?_cons]
    cases h : Text.after? "curl" t with
    | none => rfl
    | some behind =>
      rw [h] at ht
      cases behind with
      | nil => rfl
      | cons c behind => simp only [show Text.isBlank c = false from ht]; rfl
  intro before t ht
  rw [curlWord, Bool.and_eq_false_iff] at ht
  -- the word must not be the end of a longer one
  cases before with
  | none => exact unnamed t (ht.resolve_left (by simp))
  | some c =>
    show (if Text.isWord c then none else named? value ["curl"] t) = none
    by_cases hc : Text.isWord c
    · rw [if_pos hc]
    · rw [if_neg hc]
      exact unnamed t (ht.resolve_left (by simp [hc]))

/-- The word does not stand where its letters do not. -/
theorem occurs_curlWord_of_notIn {x rest : Text} (h : Text.occursIn "curl" x = false)
    (hr : Parted rest) (before : Option Char) : curlWord.occurs rest before x = false := by
  induction x generalizing before with
  | nil => rfl
  | cons c x ih =>
    rw [Text.occursIn, Bool.or_eq_false_iff] at h
    obtain ⟨here, later⟩ := h
    have alone : Text.after? "curl" (c :: x) = none := by simpa [Text.beginsWith] using here
    -- what follows begins with a blank, which is no letter of the word
    have behind : Text.after? "curl" (c :: x ++ rest) = none := by
      cases rest with
      | nil => rw [List.append_nil, alone]
      | cons b rest =>
        have blankless : ("curl" : Text).all (fun e => !Text.isBlank e) := by decide
        have hb : b ∉ ("curl" : Text) := by
          intro hm
          have blank := List.all_eq_true.1 blankless b hm
          rw [hr b (by simp)] at blank
          exact Bool.noConfusion blank
        rw [Text.after?_append_of_notMem hb, alone, Option.map_none]
    rw [Place.occurs_cons, ih later, curlWord, isCurlWord, behind, Bool.and_false, Bool.or_false]

namespace Directive

/-- The word `curl` does not stand with a blank behind it in what a directive is given. -/
def Curlless : Directive → Prop
  | .method _ word => Text.occursIn "curl" word = false
  | .url t | .header _ t | .body _ t | .user _ t | .cookie _ t => mentionsCurl t = false
  | .insecure _ | .location _ => True

instance : DecidablePred Curlless
  | .method _ word => inferInstanceAs (Decidable (Text.occursIn "curl" word = false))
  | .url t | .header _ t | .body _ t | .user _ t | .cookie _ t =>
    inferInstanceAs (Decidable (mentionsCurl t = false))
  | .insecure _ | .location _ => inferInstanceAs (Decidable True)

variable {d : Directive} {rest : Text}

theorem notIn_name (d : Directive) : Text.occursIn "curl" d.name = false :=
  (show ∀ k ∈ OptionKind.all, ∀ n ∈ k.names, Text.occursIn "curl" n = false by decide)
    d.kind d.kind.mem_all d.name d.name_mem

theorem Curlless.occurs_argument (h : d.Curlless) {a : Text} (ha : d.argument = some a)
    (hr : Parted rest) (before : Option Char) : curlWord.occurs rest before a = false := by
  have quoted : ∀ t : Text, mentionsCurl t = false →
      curlWord.occurs rest before (Literal.shell t) = false := by
    intro t ht
    rw [Place.occurs_shell stopsAtQuote_curlWord, occurs_curlWord, ht]
  cases d with
  | method _ word => exact Option.some.inj ha ▸ occurs_curlWord_of_notIn h hr before
  | url t | header _ t | body _ t | user _ t | cookie _ t =>
    exact Option.some.inj ha ▸ quoted t h
  | insecure | location => exact absurd ha (by simp [argument])

theorem Curlless.occurs_text (h : d.Curlless) (hr : Parted rest) (before : Option Char) :
    curlWord.occurs rest before d.text = false := by
  rw [text]
  split
  · rename_i a ha
    have space : ∀ b t, curlWord b (' ' :: t) = false := by
      simp [curlWord, isCurlWord, Text.after?_cons]
    have name : curlWord.occurs (' ' :: a ++ rest) before d.name = false :=
      occurs_curlWord_of_notIn d.notIn_name (parted_cons (by decide) _) before
    rw [Place.occurs_append, name, Place.occurs_cons, h.occurs_argument ha hr, List.cons_append,
      space]
    rfl
  · exact occurs_curlWord_of_notIn d.notIn_name hr before

theorem occurs_curlWord_spread {ds : List Directive} (h : ∀ d ∈ ds, d.Curlless)
    (before : Option Char) : curlWord.occurs [] before (spread (ds.map text)) = false := by
  induction ds generalizing before with
  | nil => rfl
  | cons d ds ih =>
    have space : ∀ b t, curlWord b (' ' :: t) = false := by
      simp [curlWord, isCurlWord, Text.after?_cons]
    have here : curlWord.occurs (spread (ds.map text)) (some ' ') d.text = false :=
      (h d (by simp)).occurs_text (parted_spread _) _
    have later := ih (fun e he => h e (List.mem_cons_of_mem _ he))
    rw [List.map_cons, spread_cons, Place.occurs_cons, Place.occurs_append, later, List.append_nil,
      List.append_nil, here, space]
    rfl

end Directive

/-! ### The url of the url option -/

/-- No url in quotes is found where none follows the word `curl` and the word stands nowhere else. -/
theorem first?_quotedUrl_eq_none {t : Text} (unquoted : quotedUrl? (Text.dropBlanks t) = none)
    (alone : curlWord.occurs [] (some 'l') (' ' :: t) = false) :
    (afterCurl quotedUrl?).first? ("curl" ++ ' ' :: t) = none := by
  have here : afterCurl quotedUrl? none ("curl" ++ ' ' :: t) = none := by
    rw [afterCurl, named?_curl, unquoted]
  have later : curlWord.occurs [] (some 'c') ("url" ++ ' ' :: t) = false := by
    rw [Place.occurs_append]
    simpa [Place.occurs, curlWord, isCurlWord, Text.after?_cons] using alone
  rw [curl_append] at here ⊢
  rw [first?, firstAfter_cons_of_none here]
  exact firstAfter_eq_none (onlyAt_afterCurl _) (fun _ => stopsAtQuote_curlWord.nil _) later

/-- With an option right behind the word `curl`, which no url looks like, and the word nowhere else, the
url is that of the first url option or the first web address. -/
theorem findUrl_option {d : Directive} {ds : List Directive} (hcurl : ∀ e ∈ d :: ds, e.Curlless) :
    findUrl ("curl" ++ spread ((d :: ds).map Directive.text)) =
      ((urlOption.first? ("curl" ++ spread ((d :: ds).map Directive.text))).filter (!·.isEmpty) <|>
        address.first? ("curl" ++ spread ((d :: ds).map Directive.text))) := by
  -- a hyphen follows the word, so there is no quoted url, and the bare one is no url
  obtain ⟨u, hu⟩ := d.exists_hyphen (spread (ds.map Directive.text))
  have blankless : Text.dropBlanks ('-' :: u) = '-' :: u := by
    simp [Text.dropBlanks, show Text.isBlank '-' = false by decide]
  have quoted : (afterCurl quotedUrl?).first? ("curl" ++ ' ' :: '-' :: u) = none := by
    have spread := Directive.occurs_curlWord_spread hcurl (some 'l')
    rw [List.map_cons, spread_cons, hu] at spread
    exact first?_quotedUrl_eq_none (by rw [blankless]; rfl) spread
  -- the bare form captures the name of the option
  obtain ⟨token, behind, ht⟩ : ∃ token behind, bare? ('-' :: u) = some ('-' :: token, behind) := by
    simp [bare?, isBare, show Text.isBlank '-' = false by decide]
  have bare : (afterCurl bare?).first? ("curl" ++ ' ' :: '-' :: u) = some ('-' :: token) :=
    first?_afterCurl (by rw [blankless, ht])
  have unlike : looksLikeUrl ('-' :: token) = false := by
    simp [looksLikeUrl, Text.beginsWith, Text.after?_cons]
  rw [List.map_cons, spread_cons, hu, findUrl, List.findSome?_cons, quoted, List.findSome?_cons, bare,
    Option.filter_some, unlike]
  rfl

section Search

variable {ds : List Directive} (hds : ∀ d ∈ ds, d.WellFormed)

include hds

theorem findUrl_named (hcurl : ∀ d ∈ ds, d.Curlless) {url : Text}
    (hurl : ds.findSome? (Directive.given? .url) = some url) (hne : url ≠ []) :
    findUrl ("curl" ++ spread (ds.map Directive.text)) = some url := by
  have named : urlOption.first? ("curl" ++ spread (ds.map Directive.text)) = some url :=
    (first?_valueOption (k := .url) (fun d hd => (hds d hd).contained)
      (fun rest _ => occurs_optionStart_curl rest) (by decide)).trans
        ((map_untilQuote_given? hds (by decide)).trans hurl)
  have nonempty : url.isEmpty = false := by simpa using hne
  -- one directive at least names the url, so an option follows the word
  cases ds with
  | nil => exact absurd hurl (by simp)
  | cons d ds =>
    rw [findUrl_option hcurl, named, Option.filter_some, nonempty]
    rfl

/-- Directives that name a url, each behind a gap, are read as what they ask for. -/
theorem request_of_gapped (hcurl : ∀ d ∈ ds, d.Curlless) {url gap : Text}
    (hurl : ds.findSome? (Directive.given? .url) = some url) (hne : url ≠ []) (hgap : gap ≠ [])
    (hg : Gap gap) :
    (readCommand ("curl" ++ laidOut (ds.map fun d => (gap, d.text))) {}).request =
      Directive.request url ds := by
  have found := findUrl_named hds hcurl hurl hne
  have gaps : ∀ p ∈ ds.map (fun d => (gap, d.text)), p.1 ≠ [] ∧ Gap p.1 := by
    intro p hp
    obtain ⟨d, _, rfl⟩ := List.mem_map.1 hp
    exact ⟨hgap, hg⟩
  have kept : ∀ p ∈ ds.map (fun d => (gap, d.text)), Kept p.2 := by
    intro p hp
    obtain ⟨d, hd, rfl⟩ := List.mem_map.1 hp
    exact (hds d hd).contained.kept
  have pieces : (ds.map fun d => (gap, d.text)).map Prod.snd = ds.map Directive.text := by
    rw [List.map_map]
    rfl
  rw [request_readCommand, Findings.ofCommand, normalize_pieces kept_curl gaps kept, pieces]
  exact applyTo_ofNormal hds (fun rest _ => occurs_optionStart_curl rest) found

end Search

end CurlSnippets.Command
