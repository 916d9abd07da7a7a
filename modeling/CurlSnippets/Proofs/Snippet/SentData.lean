import CurlSnippets.Proofs.Command.Refinement
import CurlSnippets.Proofs.Http.Headers
import CurlSnippets.Proofs.Snippet.Arguments

/-!
# What the data option sends

Of the four options for a body only `--data-raw` takes every argument as it is.  For the others an
argument that begins with `@` names a file, and the contents of the file are what is sent
(`BodyName.source`).  A request is always written with `--data`.  So a raw payload is sent as it is
exactly if it does not begin with `@`, and a command that is read and written again sends the same as
before unless it gave such a payload with `--data-raw` (`payload_sent_iff`).
-/

namespace CurlSnippets

open Command

/-! ### What an argument stands for -/

/-- Where an option for a body takes what is sent from. -/
inductive Source where
  /-- The text of the option itself. -/
  | literal (content : Text)
  | file (path : Text)
deriving DecidableEq

namespace Command

/-- What the argument of an option for a body stands for. -/
def BodyName.source : BodyName → Text → Source
  | .dataRaw, argument => .literal argument
  | _, '@' :: path => .file path
  | _, argument => .literal argument

theorem BodyName.source_eq_literal_iff {name : BodyName} {argument : Text} :
    name.source argument = .literal argument ↔ (name ≠ .dataRaw → argument.head? ≠ some '@') := by
  cases argument with
  | nil => cases name <;> simp [source]
  | cons c t => by_cases hc : c = '@' <;> cases name <;> simp [source, hc]

/-- With `--data` an argument stands for the same as with another option, but for one that begins with
`@` and was taken as it is. -/
theorem BodyName.source_data_eq_iff {name : BodyName} {argument : Text} :
    BodyName.data.source argument = name.source argument ↔
      (name = .dataRaw → argument.head? ≠ some '@') := by
  cases argument with
  | nil => cases name <;> simp [source]
  | cons c t => by_cases hc : c = '@' <;> cases name <;> simp [source, hc]

namespace OptionKind

/-- Whether the word behind the name of an option belongs to it. -/
def takesArgument : OptionKind → Bool
  | .insecure | .location => false
  | _ => true

/-- What an option sends with an argument. -/
def sent : OptionKind → Text → List Source
  | .body name, argument => [name.source argument]
  | _, _ => []

/-- The kind of option that a word names. -/
def ofName? (word : Text) : Option OptionKind := all.find? fun k => word ∈ k.names

end OptionKind

/-- What the words of a command send: what the argument of each option for a body stands for. -/
def sources : List Text → List Source
  | [] => []
  | [_] => []
  | word :: next :: rest =>
    match (OptionKind.ofName? word).filter OptionKind.takesArgument with
    | some k => k.sent next ++ sources rest
    | none => sources (next :: rest)

/-- What a command sends, if the shell splits it into words. -/
def sentBy (command : Text) : Option (List Source) := (Shell.words command).map sources

/-- The option for a body that a directive is, and its payload. -/
def Directive.payload? : Directive → Option (BodyName × Text)
  | .body name t => some (name, t)
  | _ => none

/-- What directives send, one after another. -/
def Directive.sources (ds : List Directive) : List Source :=
  (ds.filterMap payload?).map fun p => p.1.source p.2

/-! ### Words of directives -/

theorem OptionKind.ofName?_of_mem {k : OptionKind} {word : Text} (h : word ∈ k.names) :
    ofName? word = some k := by
  obtain ⟨k', hk⟩ : ∃ k', ofName? word = some k' := by
    refine Option.isSome_iff_exists.1 (List.find?_isSome.2 ⟨k, k.mem_all, decide_eq_true h⟩)
  have names : word ∈ k'.names := by simpa using List.find?_some hk
  rw [hk, eq_of_mem_names names h]

/-- A word that does not begin with a hyphen names no option. -/
theorem OptionKind.ofName?_eq_none {word : Text} (h : word.head? ≠ some '-') :
    ofName? word = none := by
  have hyphen : ∀ k ∈ all, ∀ n ∈ k.names, n.head? = some '-' := by decide
  refine List.find?_eq_none.2 fun k hk named => ?_
  exact h (hyphen k hk word (of_decide_eq_true named))

theorem sources_cons_of_none {word : Text}
    (h : (OptionKind.ofName? word).filter OptionKind.takesArgument = none) (rest : List Text) :
    sources (word :: rest) = sources rest := by
  cases rest with
  | nil => rfl
  | cons next rest => rw [sources, h]

theorem sources_cons_of_some {word : Text} {k : OptionKind}
    (h : (OptionKind.ofName? word).filter OptionKind.takesArgument = some k) (next : Text)
    (rest : List Text) : sources (word :: next :: rest) = k.sent next ++ sources rest := by
  rw [sources, h]

/-- The words of a directive send what its payload stands for. -/
theorem sources_optionWords (d : Directive) (rest : List Text) :
    sources (Snippet.optionWords d ++ rest) = Directive.sources [d] ++ sources rest := by
  have named : OptionKind.ofName? d.name = some d.kind := OptionKind.ofName?_of_mem d.name_mem
  have switch : d.kind.takesArgument = false → d.given = none →
      sources (Snippet.optionWords d ++ rest) = sources rest := by
    intro hk hv
    have words : Snippet.optionWords d ++ rest = d.name :: rest := by
      rw [Snippet.optionWords, hv]
      rfl
    rw [words, sources_cons_of_none (by rw [named, Option.filter_some, hk]; rfl)]
  have value : ∀ v, d.kind.takesArgument = true → d.given = some v →
      sources (Snippet.optionWords d ++ rest) = d.kind.sent v ++ sources rest := by
    intro v hk hv
    have words : Snippet.optionWords d ++ rest = d.name :: v :: rest := by
      rw [Snippet.optionWords, hv]
      rfl
    rw [words, sources_cons_of_some (by rw [named, Option.filter_some, if_pos hk])]
  cases d with
  | insecure | location => exact switch rfl rfl
  | url t | method _ t | header _ t | body _ t | user _ t | cookie _ t => exact value t rfl rfl

theorem sources_directives (ds : List Directive) :
    sources (ds.flatMap Snippet.optionWords) = Directive.sources ds := by
  induction ds with
  | nil => rfl
  | cons d ds ih =>
    rw [List.flatMap_cons, sources_optionWords, ih]
    cases d <;> rfl

/-! ### Commands of directives -/

/-- A word of word characters is a word of the shell as it is. -/
theorem Directive.Contained.speakable {d : Directive} (h : d.Contained) : Snippet.Speakable d := by
  cases d with
  | method _ word =>
    refine ⟨h.1, List.all_eq_true.2 fun c hc => ?_⟩
    -- a word character is none of those that the shell takes for anything else
    have ne : ∀ d : Char, Text.isWord d = false → c ≠ d :=
      fun d hd => Text.ne_of_holds (List.all_eq_true.1 h.2 c hc) hd
    have unseparating : Shell.separates c = false := by
      simp [Shell.separates, ne ' ' (by decide), ne '\t' (by decide)]
    have unexpanding : Shell.expands c = false := by
      simp [Shell.expands, ne '$' (by decide), ne Literal.backquote (by decide)]
    have uncontrolling : Shell.controls c = false := by
      simp [Shell.controls, ne '\n' (by decide), ne '|' (by decide), ne '&' (by decide),
        ne ';' (by decide), ne '<' (by decide), ne '>' (by decide), ne '(' (by decide),
        ne ')' (by decide)]
    simp [Shell.isOrdinary, Shell.step, ne '\'' (by decide), ne '"' (by decide),
      ne '\\' (by decide), unseparating, unexpanding, uncontrolling]
  | _ => trivial

variable {ds : List Directive} {url : Text}

theorem spaced_spread (pieces : List Text) : Snippet.Spaced (spread pieces) := by
  cases pieces with
  | nil => exact .inl rfl
  | cons piece pieces => exact .inr ⟨_, rfl⟩

theorem wordsFrom_spread (hds : ∀ d ∈ ds, Snippet.Speakable d) :
    Shell.wordsFrom .bare none (spread (ds.map Directive.text)) =
      some (ds.flatMap Snippet.optionWords) := by
  induction ds with
  | nil => rfl
  | cons d ds ih =>
    obtain ⟨first, rest⟩ := List.forall_mem_cons.1 hds
    rw [List.map_cons, spread_cons, Shell.wordsFrom_space_none,
      Snippet.wordsFrom_text first (spaced_spread _), ih rest]
    rfl

theorem words_curlUrl (hds : ∀ d ∈ ds, Snippet.Speakable d) :
    Shell.words (curlUrl url ++ spread (ds.map Directive.text)) =
      some (("curl" : Text) :: url :: ds.flatMap Snippet.optionWords) := by
  have ordinary : ("curl" : Text).all Shell.isOrdinary := by decide
  have written : curlUrl url ++ spread (ds.map Directive.text) =
      "curl" ++ ' ' :: (Literal.shell url ++ spread (ds.map Directive.text)) := by
    rw [curlUrl, List.append_assoc, List.cons_append]
  rw [written, Shell.words, Shell.wordsFrom_ordinary (by decide) ordinary, Shell.wordsFrom_space,
    Shell.wordsFrom_shell, Snippet.wordsFrom_begun (spaced_spread _), wordsFrom_spread hds]
  rfl

/-- A command of directives sends what they send. -/
theorem sentBy_curlUrl (hurl : looksLikeUrl url) (hds : ∀ d ∈ ds, Snippet.Speakable d) :
    sentBy (curlUrl url ++ spread (ds.map Directive.text)) = some (Directive.sources ds) := by
  have name : OptionKind.ofName? "curl" = none := OptionKind.ofName?_eq_none (by decide)
  have address : OptionKind.ofName? url = none := by
    refine OptionKind.ofName?_eq_none fun hyphen => ?_
    cases url with
    | nil => exact absurd hyphen (by simp)
    | cons c t =>
      obtain rfl : c = '-' := by simpa using hyphen
      simp [looksLikeUrl, Text.beginsWith, Text.after?] at hurl
  rw [sentBy, words_curlUrl hds, Option.map_some, sources_cons_of_none (by rw [name]; rfl),
    sources_cons_of_none (by rw [address]; rfl), sources_directives]

end Command

namespace Snippet

variable {r : Request} {data : Option Text}

/-! ### Written commands -/

theorem arguments_eq_directives (r : Request) (data : Option Text) :
    arguments r data = ("curl" : Text) :: (directives r data).flatMap optionWords := by
  have headers : (r.effectiveHeaders false).entries.flatMap headerWords =
      ((r.effectiveHeaders false).entries.map fun p =>
        Directive.header false (headerText p)).flatMap optionWords := by
    rw [List.flatMap_map]
    rfl
  rw [arguments_eq, directives, headers, List.flatMap_cons, List.flatMap_cons, List.flatMap_append]

/-- A written command sends what its data option stands for. -/
theorem sources_arguments (r : Request) (data : Option Text) :
    sources (arguments r data) = (data.map BodyName.data.source).toList := by
  have none_of_map : ∀ {ι : Type} (items : List ι) (f : ι → Directive),
      (∀ i, (f i).payload? = none) → (items.map f).filterMap Directive.payload? = [] := by
    intro ι items f h
    refine List.filterMap_eq_nil_iff.2 fun d hd => ?_
    obtain ⟨i, -, rfl⟩ := List.mem_map.1 hd
    exact h i
  have switch : (if r.verifySsl then [] else [Directive.insecure false]).filterMap
      Directive.payload? = [] := by
    refine List.filterMap_eq_nil_iff.2 fun d hd => ?_
    obtain rfl := eq_insecure_of_mem hd
    rfl
  have payloads : (directives r data).filterMap Directive.payload? =
      data.toList.map fun t => (BodyName.data, t) := by
    rw [directives, trailing, List.filterMap_cons, List.filterMap_cons, List.filterMap_append,
      List.filterMap_append, List.filterMap_append, none_of_map _ _ fun _ => rfl,
      none_of_map _ _ fun _ => rfl, switch]
    cases data <;> rfl
  have name : OptionKind.ofName? "curl" = none := OptionKind.ofName?_eq_none (by decide)
  rw [arguments_eq_directives, sources_cons_of_none (by rw [name]; rfl), sources_directives,
    Directive.sources, payloads]
  cases data <;> rfl

/-- A command ends with its data option. -/
theorem curl_eq_append {content : Text} (hd : curlData? r = .ok (some content)) :
    ∃ front, curl r = .ok (front ++ (Directive.body .data content).text) := by
  obtain ⟨options, last⟩ : ∃ options, curlOptions r (some content) =
      options ++ [(Directive.body .data content).text] := by
    rw [curlOptions_eq_append, trailing, Option.toList_some, List.map_append, List.map_append,
      List.map_cons, List.map_cons, List.map_nil, ← List.append_assoc, ← List.append_assoc,
      ← List.cons_append, ← List.cons_append]
    exact ⟨_, rfl⟩
  refine ⟨"curl" ++ (lines options ++ Shell.lineGap), ?_⟩
  rw [curl_eq_lines hd, last, lines, List.flatMap_append, List.flatMap_singleton, List.append_assoc,
    List.append_assoc]
  rfl

theorem sentBy_text (name : BodyName) (t : Text) :
    sentBy (Directive.body name t).text = some [name.source t] := by
  have words : Shell.words (Directive.body name t).text = some (optionWords (.body name t)) := by
    have read := wordsFrom_text (d := .body name t) trivial (.inl (rfl : ([] : Text) = []))
    rwa [List.append_nil] at read
  rw [sentBy, words]
  exact congrArg some (sources_optionWords (.body name t) [])

/-- Without apostrophes in its headers the whole command sends what its data option does. -/
theorem sentBy_curl (hd : curlData? r = .ok data)
    (quoteless : ∀ p ∈ (r.effectiveHeaders false).entries, '\'' ∉ p.1 ∧ '\'' ∉ p.2) :
    ∃ command, curl r = .ok command ∧
      sentBy command = some (data.map BodyName.data.source).toList := by
  obtain ⟨command, written, words⟩ := words_curl hd
  refine ⟨command, written, ?_⟩
  rw [sentBy, words.2 quoteless, Option.map_some, sources_arguments]

theorem curlData?_raw {content : Text} {contentType : Option Text}
    (body : r.body = .raw content contentType) (undeclared : namesJson contentType = false) :
    curlData? r = .ok (some content) := by
  rw [curlData?, body]
  simp only [jsonPayload?, undeclared]
  rfl

/-! ### What was read -/

section Read

variable {ds : List Directive} {url : Text}

/-- No apostrophe stands in the headers of well-formed directives. -/
theorem quoteless_headers (hds : ∀ d ∈ ds, d.WellFormed) :
    ∀ p ∈ (Directive.headers ds).entries, '\'' ∉ p.1 ∧ '\'' ∉ p.2 := by
  intro p hp
  rw [Directive.headers, ← putAll_fields] at hp
  obtain ⟨d, hd, field⟩ := List.mem_filterMap.1 <|
    (Pairs.mem_or_mem_of_mem_putAll hp).resolve_right List.not_mem_nil
  obtain ⟨value, given, found⟩ := Option.bind_eq_some_iff.1 field
  have quoteless : '\'' ∉ value := by
    cases d with
    | header _ t =>
      obtain rfl : t = value := Option.some.inj given
      exact (hds _ hd).1
    | _ => exact absurd given (by simp [Directive.given?, Directive.kind])
  have sides : '\'' ∉ (Text.cut ':' value).1 ++ (Text.cut ':' value).2.getD [] :=
    Text.notMem_cut quoteless
  unfold headerFinding at found
  split at found
  · exact absurd found (by simp [HeaderFinding.field?])
  · rename_i name content cut
    rw [cut] at sides
    obtain ⟨hn, hc⟩ := not_or.1 (List.mem_append.not.1 sides)
    -- a name that is empty sets no header
    split at found
    · exact absurd found (by simp [HeaderFinding.field?])
    · obtain rfl := Option.some.inj found
      exact ⟨fun h => hn ((Text.trim_infix _).subset h), fun h => hc ((Text.trim_infix _).subset h)⟩

/-- No apostrophe stands in the cookies of a text without apostrophes. -/
theorem quoteless_cookiesOf {t : Text} (h : '\'' ∉ t) :
    ∀ c ∈ cookiesOf t, '\'' ∉ c.name ∧ '\'' ∉ c.value := by
  intro c hc
  obtain ⟨piece, hp, found⟩ := List.mem_filterMap.1 hc
  have quoteless : '\'' ∉ Text.trim piece :=
    fun inside => Text.notMem_of_mem_split h piece hp ((Text.trim_infix _).subset inside)
  have sides : '\'' ∉ (Text.cut '=' (Text.trim piece)).1 ++ (Text.cut '=' (Text.trim piece)).2.getD [] :=
    Text.notMem_cut quoteless
  unfold cookie? at found
  split at found
  · exact absurd found (by simp)
  · rename_i name value cut
    rw [cut] at sides
    obtain ⟨hn, hv⟩ := not_or.1 (List.mem_append.not.1 sides)
    split at found
    · exact absurd found (by simp)
    · obtain rfl := Option.some.inj found
      exact ⟨hn, hv⟩

/-- Neither the credentials nor the payload of directives is sent in a header. -/
theorem authorization?_request (url : Text) (ds : List Directive) :
    (Directive.request url ds).authorization? false = none := by
  have auth : (Directive.request url ds).auth = Directive.auth ds := rfl
  rw [Request.authorization?, auth, Directive.auth]
  cases ds.findSome? (Directive.given? .user) <;> rfl

theorem contentType?_request (url : Text) (ds : List Directive) :
    (Directive.request url ds).body.contentType? = none := by
  rw [Directive.request]
  cases Directive.payload ds <;> rfl

/-- No apostrophe stands in a header that a request of well-formed directives sends. -/
theorem quoteless_request (hds : ∀ d ∈ ds, d.WellFormed) :
    ∀ p ∈ ((Directive.request url ds).effectiveHeaders false).entries, '\'' ∉ p.1 ∧ '\'' ∉ p.2 := by
  intro p hp
  rcases Pairs.mem_or_mem_of_mem_putAll hp with derived | given
  · rcases (Request.mem_derivedHeaders.1 derived).2 with ⟨-, authorization⟩ | ⟨name, cookies⟩ |
      ⟨-, contentType⟩
    · -- credentials of a command are sent by an option
      rw [authorization?_request] at authorization
      exact absurd authorization (by simp)
    · -- the cookies that were given, joined
      refine ⟨by rw [name]; decide, ?_⟩
      unfold Request.cookieHeader? at cookies
      split at cookies
      · exact absurd cookies (by simp)
      · rw [← Option.some.inj cookies]
        refine Text.notMem_join (by decide) (List.forall_mem_map.2 fun c hc => ?_)
        have hc : c ∈ Directive.cookies ds := hc
        rw [Directive.cookies_eq] at hc
        obtain ⟨t, ht, hc⟩ := List.mem_flatMap.1 hc
        obtain ⟨d, hd, given⟩ := List.mem_filterMap.1 ht
        have quoteless : '\'' ∉ t := by
          cases d with
          | cookie _ u =>
            obtain rfl : u = t := Option.some.inj given
            exact (hds _ hd).1
          | _ => exact absurd given (by simp [Directive.given?, Directive.kind])
        obtain ⟨hn, hv⟩ := quoteless_cookiesOf quoteless c hc
        simp [hn, hv]
    · rw [contentType?_request] at contentType
      exact absurd contentType (by simp)
  · exact quoteless_headers hds p given

/-- The payload of directives of which one is an option for a body. -/
theorem payload_of_one {name : BodyName} {t : Text}
    (one : ds.filterMap Directive.payload? = [(name, t)]) : Directive.payload ds = some t := by
  have given : ∀ n : BodyName, ds.findSome? (Directive.given? (.body n)) =
      if n = name then some t else none := by
    intro n
    -- the option is looked for by its name among all options for a body
    have told : Directive.given? (.body n) =
        fun d => d.payload?.bind fun p => if n = p.1 then some p.2 else none := by
      funext d
      cases d with
      | body m u =>
        by_cases h : n = m
        · subst h
          simp [Directive.given?, Directive.kind, Directive.given, Directive.payload?]
        · simp [Directive.given?, Directive.kind, Directive.payload?, h, Ne.symm h]
      | _ => rfl
    rw [← List.head?_filterMap, told, ← List.filterMap_filterMap, one]
    by_cases h : n = name <;> simp [h]
  rw [Directive.payload]
  simp only [given, BodyName.findSome?_all]

end Read

/-- **What a raw payload sends.**  The command of a request ends with its data option, and this option
sends the payload as it is exactly if it does not begin with `@`; without apostrophes in the headers the
whole command sends the same.  A command of directives, one of them for a body with the payload, is read
and written as a command that sends the same exactly if the payload does not begin with `@` or the
directive was no `--data-raw`. -/
theorem payload_sent_iff (content : Text) (name : BodyName) :
    (∀ (r : Request) (contentType : Option Text),
      r.body = .raw content contentType → namesJson contentType = false →
      ∃ front, curl r = .ok (front ++ ("--data " ++ Literal.shell content)) ∧
        (sentBy ("--data " ++ Literal.shell content) = some [.literal content] ↔
          content.head? ≠ some '@') ∧
        ((∀ p ∈ (r.effectiveHeaders false).entries, '\'' ∉ p.1 ∧ '\'' ∉ p.2) →
          sentBy (front ++ ("--data " ++ Literal.shell content)) =
            sentBy ("--data " ++ Literal.shell content))) ∧
    ∀ (url : Text) (ds : List Directive) (command : Text),
      looksLikeUrl url → '\'' ∉ url ∧ '"' ∉ url → Directive.Plain url → (∀ d ∈ ds, d.WellFormed) →
      ds.filterMap Directive.payload? = [(name, content)] →
      command = "curl '" ++ url ++ "'" ++ spread (ds.map Directive.text) →
      sentBy command = some [name.source content] ∧
      ∃ translated, curl (readCommand command {}).request = .ok translated ∧
        (sentBy translated = sentBy command ↔ (name = .dataRaw → content.head? ≠ some '@')) := by
  constructor
  · intro r contentType body undeclared
    have data := curlData?_raw body undeclared
    have option : sentBy ("--data " ++ Literal.shell content) = some [BodyName.data.source content] :=
      sentBy_text .data content
    obtain ⟨front, written⟩ := curl_eq_append data
    refine ⟨front, written, ?_, fun quoteless => ?_⟩
    · rw [option, Option.some.injEq, List.singleton_inj, BodyName.source_eq_literal_iff]
      exact ⟨fun h => h (by decide), fun h _ => h⟩
    · obtain ⟨command, again, sent⟩ := sentBy_curl data quoteless
      obtain rfl := Except.ok.inj (written.symm.trans again)
      exact sent.trans option.symm
  · intro url ds command hurl hq hplain hds one spelled
    have speakable : ∀ d ∈ ds, Speakable d := fun d hd => (hds d hd).contained.speakable
    have original : sentBy command = some [name.source content] := by
      rw [spelled, curlUrl_eq hq, sentBy_curlUrl hurl speakable, Directive.sources, one]
      rfl
    have body : (Directive.request url ds).body = .raw content none := by
      have told := payload_of_one one
      rw [Directive.request, told]
    obtain ⟨translated, written, sent⟩ :=
      sentBy_curl (curlData?_raw body rfl) (quoteless_request hds)
    rw [← request_of_directives hurl hq hplain hds, ← spelled] at written
    -- both send one thing each, so they are compared by what the options make of the payload
    refine ⟨original, translated, written, ?_⟩
    rw [sent, original, Option.some.injEq, ← BodyName.source_data_eq_iff]
    exact List.singleton_inj

/-- A payload of two lines is sent as it is, and so is one with `@` inside it that `--data-raw` gave
between other options; a file is still named where one was. -/
theorem payload_sent_alike :
    (∃ command, curl awkward = .ok command ∧ sentBy command = some [.literal "it's\n -k"]) ∧
    (∃ translated,
      curl (readCommand "curl 'https://h' -X put --data-raw 'a@b' -b 'c=1'" {}).request =
        .ok translated ∧ sentBy translated = some [.literal "a@b"]) ∧
    ∃ translated, curl (readCommand "curl 'https://h' -d '@f' -H 'A: 1'" {}).request =
      .ok translated ∧ sentBy translated = some [.file "f"] := by
  obtain ⟨front, written, literal, whole⟩ :=
    (payload_sent_iff "it's\n -k" .data).1 awkward _ rfl rfl
  obtain ⟨sentRaw, raw, writtenRaw, sameRaw⟩ := (payload_sent_iff "a@b" .dataRaw).2 "https://h"
    [.method true "put", .body .dataRaw "a@b", .cookie true "c=1"]
    "curl 'https://h' -X put --data-raw 'a@b' -b 'c=1'" (by decide) (by decide) (by decide)
    (by decide +kernel) rfl (by decide +kernel)
  obtain ⟨sentFile, file, writtenFile, sameFile⟩ := (payload_sent_iff "@f" .short).2 "https://h"
    [.body .short "@f", .header true "A: 1"]
    "curl 'https://h' -d '@f' -H 'A: 1'" (by decide) (by decide) (by decide) (by decide +kernel) rfl
    (by decide +kernel)
  refine ⟨⟨_, written, ?_⟩, ⟨raw, writtenRaw, (sameRaw.2 fun _ => by decide).trans sentRaw⟩,
    ⟨file, writtenFile, (sameFile.2 nofun).trans sentFile⟩⟩
  exact (whole (by decide +kernel)).trans (literal.2 (by decide))

/-- A payload that begins with `@` is sent as the contents of a file, also if `--data-raw` gave it. -/
theorem payload_sent_as_file :
    (curl { url := "https://h", method := .post, body := .raw "@x" none }).map sentBy =
      .ok (some [.file "x"]) ∧
    sentBy "curl 'https://h' --data-raw '@x'" = some [.literal "@x"] ∧
    (curl (readCommand "curl 'https://h' --data-raw '@x'" {}).request).map sentBy =
      .ok (some [.file "x"]) := by
  decide +kernel

end Snippet

end CurlSnippets
