import CurlSnippets.Proofs.Command.Refinement

/-!
# Options inside a quoted payload

The rules search a command without regard to its quotes: only the blank before a name tells an option,
so one inside a quoted payload is found like any other.  A payload is silent if the rules find nothing
in its quoted word that would change the request (`Silent`).  Exactly the silent payloads are read as
nothing but a payload (`request_payload_eq_iff`).
-/

namespace CurlSnippets.Command

open Pattern

variable {α : Type}

/-! ### Captures are short -/

/-- A reader of values whose captures are no longer than what it reads. -/
def Shortens (value : Text → Option (Text × Text)) : Prop :=
  ∀ t a rest, value t = some (a, rest) → a.length ≤ t.length

theorem shortens_bare? : Shortens bare? := by
  intro t a rest h
  rw [bare?] at h
  split at h
  · exact absurd h (by simp)
  · obtain ⟨rfl, -⟩ := Prod.mk.inj (Option.some.inj h)
    exact (List.takeWhile_sublist _).length_le

theorem shortens_quotedBy? (quote : Char) : Shortens (quotedBy? quote) := by
  intro t a rest h
  cases t with
  | nil => exact absurd h (by simp [quotedBy?])
  | cons c t =>
    rw [quotedBy?] at h
    split at h
    · rw [closed?] at h
      split at h
      · exact absurd h (by simp)
      · obtain ⟨rfl, -⟩ := Prod.mk.inj (Option.some.inj h)
        exact Nat.le_succ_of_le ((List.takeWhile_sublist _).length_le)
    · exact absurd h (by simp)

theorem shortens_escapedSingle? : Shortens escapedSingle? := by
  intro t a rest h
  unfold escapedSingle? at h
  split at h
  · rename_i u
    obtain ⟨n, -, hn⟩ := Option.map_eq_some_iff.1 h
    obtain ⟨rfl, -⟩ := Prod.mk.inj hn
    exact Nat.le_succ_of_le (List.length_take_le' _ u)
  · exact absurd h (by simp)

/-- The name of an option and a blank stand before what it captures. -/
theorem length_of_option {value : Text → Option (Text × Text)} (hv : Shortens value) {n y a rest : Text}
    {before : Option Char} (h : option [n] value before y = some (a, rest)) :
    a.length + n.length < y.length := by
  rw [option] at h
  split at h
  · rw [named?, List.findSome?_cons] at h
    split at h
    · rename_i _ behind hb
      obtain rfl : behind = (a, rest) := Option.some.inj h
      -- the name is there, and a blank behind it
      split at hb
      · rename_i c u hu
        split at hb
        · have short := hv _ _ _ hb
          have dropped : (Text.dropBlanks u).length ≤ u.length := (List.dropWhile_sublist _).length_le
          rw [Text.eq_append_of_after? hu, List.length_append, List.length_cons]
          omega
        · exact absurd hb (by simp)
      · exact absurd hb (by simp)
    · exact absurd h (by simp)
  · exact absurd h (by simp)

theorem length_unfoldQuotes_le (t : Text) : (unfoldQuotes t).length ≤ t.length := by
  fun_induction unfoldQuotes t with
  | case1 => exact Nat.le_refl _
  | case2 rest ih =>
    simp only [List.length_cons]
    omega
  | case3 c rest _ ih =>
    simp only [List.length_cons]
    omega

/-! ### Searching behind a payload option -/

/-- The payload option `--data` and a text in apostrophes. -/
def payloadText (t : Text) : Text := '-' :: ("-data " ++ Literal.shell t)

theorem text_body (t : Text) : (Directive.body .data t).text = payloadText t := by
  have written : (Directive.body .data t).text = "--data" ++ ' ' :: Literal.shell t := rfl
  rw [written]
  unfold payloadText
  simp

section Behind

variable {p : Pattern α} (hp : p.OnlyAt optionStart) {head t : Text}
  (hhead : ∀ rest, Parted rest → optionStart.occurs rest none head = false)
  (hnone : p (some ' ') (payloadText t) = none)

include hp

theorem option_before_quote (before : Option Char) (u : Text) :
    p before ('\'' :: u) = none := hp _ _ (stopsAtQuote_optionStart.quote _ _)

theorem option_at_space (before : Option Char) (u : Text) : p before (' ' :: u) = none :=
  hp _ _ (by simp [optionStart, looksLikeOption])

omit hp in
/-- Behind its first hyphen no option starts in the name of the payload option. -/
theorem occurs_optionStart_data (rest : Text) :
    optionStart.occurs rest (some '-') "-data " = false := by
  simp [Place.occurs, optionStart, beginsToken, looksLikeOption, Text.isBlank]

include hhead hnone

theorem first?_payload :
    p.first? (head ++ ' ' :: payloadText t) = p.first? (Literal.shell t) := by
  have parted : Parted (' ' :: payloadText t) := parted_cons (by decide) _
  have quoted : ∀ before, p.firstAfter before (Literal.shell t) =
      p.firstAfter (some '\'') (escaped t ++ ['\'']) := by
    intro before
    rw [shell_eq, firstAfter_cons_of_none (option_before_quote hp _ _)]
  -- passed over one after another: the head, the space, the hyphen, the rest of the name
  rw [first?, firstAfter_append hp (hhead _ parted),
    firstAfter_cons_of_none (option_at_space hp _ _), payloadText,
    firstAfter_cons_of_none hnone, firstAfter_append hp (occurs_optionStart_data _), quoted,
    first?, quoted]

theorem all_payload : p.all (head ++ ' ' :: payloadText t) = p.all (Literal.shell t) := by
  have parted : Parted (' ' :: payloadText t) := parted_cons (by decide) _
  have quoted : ∀ before, p.allAfter before 0 (Literal.shell t) =
      p.allAfter (some '\'') 0 (escaped t ++ ['\'']) := by
    intro before
    rw [shell_eq, allAfter_cons_of_none (option_before_quote hp _ _)]
  rw [all, allAfter_append hp (hhead _ parted), allAfter_cons_of_none (option_at_space hp _ _),
    payloadText, allAfter_cons_of_none hnone, allAfter_append hp (occurs_optionStart_data _), quoted,
    all, quoted]

end Behind

/-! ### Silent payloads -/

/-- The forms of a payload, by rank. -/
def payloadForms : List (Text → Option (Text × Text)) := [escapedSingle?, quotedBy? '"', bare?]

/-- The payload of the option `-d`, which counts before that of any other. -/
def shortPayload? (command : Text) : Option Text :=
  payloadForms.findSome? fun value => (option ["-d"] value).first? command

/-- A payload in whose quoted word the rules find nothing that would change the request. -/
structure Silent (t : Text) : Prop where
  method : (findMethod (Literal.shell t)).method?.getD .post = .post
  fields : (Findings.ofNormal (Literal.shell t)).fields = ∅
  body : shortPayload? (Literal.shell t) = none
  user : findUser (Literal.shell t) = none
  insecure : (insecureSwitch.first? (Literal.shell t)).isSome = false
  cookies : findCookies (Literal.shell t) = []

instance : DecidablePred Silent := fun t =>
  decidable_of_iff ((findMethod (Literal.shell t)).method?.getD .post = .post ∧
      (Findings.ofNormal (Literal.shell t)).fields = ∅ ∧ shortPayload? (Literal.shell t) = none ∧
      findUser (Literal.shell t) = none ∧
      (insecureSwitch.first? (Literal.shell t)).isSome = false ∧
      findCookies (Literal.shell t) = [])
    ⟨fun ⟨hm, hf, hb, hu, hi, hc⟩ => ⟨hm, hf, hb, hu, hi, hc⟩,
      fun h => ⟨h.method, h.fields, h.body, h.user, h.insecure, h.cookies⟩⟩

theorem shortens_of_mem {value : Text → Option (Text × Text)} (h : value ∈ payloadForms) :
    Shortens value := by
  simp only [payloadForms, List.mem_cons, List.not_mem_nil, or_false] at h
  rcases h with rfl | rfl | rfl
  · exact shortens_escapedSingle?
  · exact shortens_quotedBy? '"'
  · exact shortens_bare?

/-- A payload found inside a quoted text without apostrophes is shorter than the text. -/
theorem length_of_shortPayload? {t a : Text} (ht : '\'' ∉ t)
    (h : shortPayload? (Literal.shell t) = some a) : a.length < t.length := by
  obtain ⟨value, hv, found⟩ := List.exists_of_findSome?_eq_some h
  obtain ⟨b, y, rest, hy, captured⟩ := exists_of_firstAfter found
  have short := length_of_option (shortens_of_mem hv) captured
  have name : ("-d" : Text).length = 2 := rfl
  -- the option stands in the quoted word, and its name and the quotes are not captured
  have within := hy.length_le
  rw [shell_eq, escaped_of_notMem ht] at within
  simp only [List.length_cons, List.length_append, List.length_nil] at within
  omega

section Payload

variable {head t : Text} (hhead : ∀ rest, Parted rest → optionStart.occurs rest none head = false)

include hhead

theorem first?_option_payload {k : OptionKind} (hk : k ≠ .body .data)
    (value : Text → Option (α × Text)) :
    (option k.names value).first? (head ++ ' ' :: payloadText t) =
      (option k.names value).first? (Literal.shell t) := by
  have none : option k.names value (some ' ') ((Directive.body .data t).text ++ []) = none :=
    Directive.option_of_kind_ne (Ne.symm hk) parted_nil
  rw [List.append_nil, text_body] at none
  exact first?_payload (onlyAt_option Directive.isName_of_mem) hhead none

theorem all_option_payload {k : OptionKind} (hk : k ≠ .body .data)
    (value : Text → Option (α × Text)) :
    (option k.names value).all (head ++ ' ' :: payloadText t) =
      (option k.names value).all (Literal.shell t) := by
  have none : option k.names value (some ' ') ((Directive.body .data t).text ++ []) = none :=
    Directive.option_of_kind_ne (Ne.symm hk) parted_nil
  rw [List.append_nil, text_body] at none
  exact all_payload (onlyAt_option Directive.isName_of_mem) hhead none

theorem first?_switch_payload {k : OptionKind} (hk : k ≠ .body .data) :
    (switch k.names).first? (head ++ ' ' :: payloadText t) =
      (switch k.names).first? (Literal.shell t) := by
  have none := Directive.switch_of_kind_ne (d := .body .data t) (k := k) (Ne.symm hk) parted_nil
  rw [List.append_nil, text_body] at none
  exact first?_payload (onlyAt_switch Directive.isName_of_mem) hhead none

/-- The payload of the command is the quoted text, unless there is one for `-d` inside. -/
theorem findBody_payload (ht : '\'' ∉ t) :
    findBody (head ++ ' ' :: payloadText t) =
      some (((shortPayload? (Literal.shell t)).map unfoldQuotes).getD t) := by
  -- `-d` comes first by rank, and is found in the quoted word if at all
  have short : payloadForms.findSome? (fun value =>
      (option ["-d"] value).first? (head ++ ' ' :: payloadText t)) =
        shortPayload? (Literal.shell t) := by
    unfold shortPayload?
    congr 1
    funext value
    exact first?_option_payload (k := .body .short) hhead (by decide) value
  -- then `--data`, which is found where it stands
  have long : (option ["--data"] escapedSingle?).first? (head ++ ' ' :: payloadText t) = some t := by
    have only : (option ["--data"] escapedSingle?).OnlyAt optionStart :=
      onlyAt_option (Directive.isName_of_mem (k := .body .data))
    have here : option ["--data"] escapedSingle? (some ' ') ((Directive.body .data t).text ++ []) =
        some (t, []) := by
      have read := escapedSingle?_shell t parted_nil
      rw [escaped_of_notMem ht] at read
      exact (Directive.option_of_first (k := .body .data) rfl rfl
        ⟨'\'', _, shell_eq t, by decide⟩).trans read
    rw [List.append_nil, text_body, payloadText] at here
    rw [first?, firstAfter_append only (hhead _ (parted_cons (by decide) _)),
      firstAfter_cons_of_none (option_at_space only _ _), payloadText, firstAfter, here]
  have ranked : bodyOptions = payloadForms.map (option ["-d"]) ++
      (option ["--data"] escapedSingle? :: [option ["--data"] (quotedBy? '"'),
        option ["--data"] bare?] ++ ["--data-raw", "--data-binary"].flatMap fun name =>
          payloadForms.map (option [name])) := rfl
  have first : (payloadForms.map (option ["-d"])).findSome? (fun p =>
      p.first? (head ++ ' ' :: payloadText t)) = shortPayload? (Literal.shell t) := by
    rw [List.findSome?_map, ← short]
    rfl
  rw [findBody, ranked, List.findSome?_append, first, List.cons_append, List.findSome?_cons, long]
  -- a text without apostrophes has nothing to unfold
  cases shortPayload? (Literal.shell t) with
  | none =>
    have unfolded := unfoldQuotes_escaped t
    rw [escaped_of_notMem ht] at unfolded
    show some (unfoldQuotes t) = some t
    rw [unfolded]
  | some a => rfl

theorem applyTo_payload (ht : '\'' ∉ t) {url : Text}
    (hurl : findUrl (head ++ ' ' :: payloadText t) = some url) :
    (Findings.ofNormal (head ++ ' ' :: payloadText t)).applyTo {} = {
      url := url
      method := (findMethod (Literal.shell t)).method?.getD .post
      headers := (Findings.ofNormal (Literal.shell t)).fields
      queryParams := Url.queryParams url
      cookies := findCookies (Literal.shell t)
      verifySsl := !(insecureSwitch.first? (Literal.shell t)).isSome
      body := .raw (((shortPayload? (Literal.shell t)).map unfoldQuotes).getD t) none
      auth := ((findUser (Literal.shell t)).map fun u => Auth.basic u.1 u.2).getD .none } := by
  -- every rule but that for the body finds what it finds in the quoted word
  have method : findMethod (head ++ ' ' :: payloadText t) = findMethod (Literal.shell t) := by
    have first : methodOption.first? (head ++ ' ' :: payloadText t) =
        methodOption.first? (Literal.shell t) :=
      first?_option_payload (k := .method) hhead (by decide) word?
    rw [findMethod, findMethod, first]
  have headers : findHeaders (head ++ ' ' :: payloadText t) = findHeaders (Literal.shell t) := by
    have all : headerOption.all (head ++ ' ' :: payloadText t) =
        headerOption.all (Literal.shell t) :=
      all_option_payload (k := .header) hhead (by decide) value?
    rw [findHeaders, findHeaders, all]
  have user : findUser (head ++ ' ' :: payloadText t) = findUser (Literal.shell t) := by
    have first : userOption.first? (head ++ ' ' :: payloadText t) =
        userOption.first? (Literal.shell t) :=
      first?_option_payload (k := .user) hhead (by decide) value?
    rw [findUser, findUser, first]
  have insecure : insecureSwitch.first? (head ++ ' ' :: payloadText t) =
      insecureSwitch.first? (Literal.shell t) :=
    first?_switch_payload (k := .insecure) hhead (by decide)
  have cookies : findCookies (head ++ ' ' :: payloadText t) = findCookies (Literal.shell t) := by
    have all : cookieOption.all (head ++ ' ' :: payloadText t) =
        cookieOption.all (Literal.shell t) :=
      all_option_payload (k := .cookie) hhead (by decide) value?
    rw [findCookies, findCookies, all]
  have body := findBody_payload hhead ht
  have fields : (Findings.ofNormal (head ++ ' ' :: payloadText t)).fields =
      (Findings.ofNormal (Literal.shell t)).fields := by
    unfold Findings.fields Findings.ofNormal
    rw [headers]
  rw [Findings.applyTo_default hurl, fields, Request.mk.injEq]
  refine ⟨rfl, ?_, rfl, rfl, cookies, rfl, rfl, rfl, ?_, rfl, rfl, ?_, ?_⟩
  · show (findMethod _).method?.getD (if (findBody _).isSome then .post else .get) = _
    rw [method, body]
    rfl
  · show (!(insecureSwitch.first? _).isSome) = _
    rw [insecure]
  · show ((findBody _).map (Body.raw · none)).getD .none = _
    rw [body]
    rfl
  · show ((findUser _).map fun u => Auth.basic u.1 u.2).getD .none = _
    rw [user]

end Payload

theorem payload_command_eq {url t : Text} (hq : '\'' ∉ url ∧ '"' ∉ url) (ht : '\'' ∉ t) :
    (("curl '" : Text) ++ url ++ ("'" : Text) ++ (" --data '" : Text) ++ t ++ ("'" : Text)) =
      curlUrl url ++ ' ' :: payloadText t := by
  rw [curlUrl_eq hq, payloadText, shell_eq, escaped_of_notMem ht]
  simp

/-- What is read in a command with one quoted payload: the rest of the request is what the rules find in
the quoted word. -/
theorem request_payload {url t : Text} (hurl : looksLikeUrl url)
    (hq : '\'' ∉ url ∧ '"' ∉ url) (hplain : Directive.Plain url) (ht : '\'' ∉ t)
    (hc : continuesLine t = false) :
    (readCommand ("curl '" ++ url ++ "'" ++ " --data '" ++ t ++ "'") {}).request = {
      url := url
      method := (findMethod (Literal.shell t)).method?.getD .post
      headers := (Findings.ofNormal (Literal.shell t)).fields
      queryParams := Url.queryParams url
      cookies := findCookies (Literal.shell t)
      verifySsl := !(insecureSwitch.first? (Literal.shell t)).isSome
      body := .raw (((shortPayload? (Literal.shell t)).map unfoldQuotes).getD t) none
      auth := ((findUser (Literal.shell t)).map fun u => Auth.basic u.1 u.2).getD .none } := by
  have piece : Kept (payloadText t) := by
    rw [← text_body]
    exact (Directive.body .data t).kept_name.spaced (Kept.shell hc)
  rw [payload_command_eq hq ht, request_readCommand, Findings.ofCommand,
    ((kept_curlUrl hplain).spaced piece).normalize_eq]
  exact applyTo_payload (fun rest _ => occurs_optionStart_curlUrl hplain rest) ht
    (findUrl_curlUrl hurl hq _)

/-- A payload is read as nothing but a payload exactly if it is silent. -/
theorem request_payload_eq_iff {url t : Text} (hurl : looksLikeUrl url)
    (hq : '\'' ∉ url ∧ '"' ∉ url) (hplain : Directive.Plain url) (ht : '\'' ∉ t)
    (hc : continuesLine t = false) :
    (readCommand ("curl '" ++ url ++ "'" ++ " --data '" ++ t ++ "'") {}).request =
        Directive.request url [.body .data t] ↔ Silent t := by
  rw [request_payload hurl hq hplain ht hc, Directive.request, Request.mk.injEq]
  constructor
  · rintro ⟨-, method, fields, -, cookies, -, -, -, insecure, -, -, body, auth⟩
    refine ⟨method, fields, ?_, ?_, by simpa [Directive.kind] using insecure, cookies⟩
    · cases h : shortPayload? (Literal.shell t) with
      | none => rfl
      | some a =>
        -- what `-d` captures inside is too short to be the whole payload
        have short := length_of_shortPayload? ht h
        have unfolded := length_unfoldQuotes_le a
        rw [h] at body
        have same : unfoldQuotes a = t := (Body.raw.inj body).1
        rw [same] at unfolded
        omega
    · cases h : findUser (Literal.shell t) with
      | none => rfl
      | some u =>
        rw [h] at auth
        exact absurd auth Auth.noConfusion
  · intro h
    rw [h.body, h.user, h.insecure]
    exact ⟨rfl, h.method, h.fields, rfl, h.cookies, rfl, rfl, rfl, rfl, rfl, rfl, rfl, rfl⟩

/-- A text without anything that looks like an option behind a blank is silent. -/
theorem silent_of_plain {t : Text} (ht : '\'' ∉ t) (h : Directive.Plain t) : Silent t := by
  have quoteless : '\'' ∉ ("/" : Text) ∧ '"' ∉ ("/" : Text) := by decide
  have wellFormed : ∀ d ∈ [Directive.body .data t], d.WellFormed := by
    intro d hd
    obtain rfl := List.mem_singleton.1 hd
    exact h
  have read : (readCommand (curlUrl "/" ++ spread ([.body .data t].map Directive.text)) {}).request =
      Directive.request "/" [.body .data t] :=
    request_curlUrl (by decide) quoteless (by decide) wellFormed
  have command : curlUrl "/" ++ spread ([.body .data t].map Directive.text) =
      "curl '" ++ "/" ++ "'" ++ " --data '" ++ t ++ "'" := by
    rw [payload_command_eq quoteless ht, List.map_cons, text_body]
    simp
  rw [command] at read
  exact (request_payload_eq_iff (by decide) quoteless (by decide) ht h.unbroken).1 read

/-- **Quoted payloads.**  The request of a command with one quoted payload has nothing in it but the url
and the payload exactly if the rules find nothing in the quoted word. -/
theorem request_of_payload_iff {t : Text} (ht : '\'' ∉ t) (hc : continuesLine t = false) :
    (readCommand ("curl 'https://h' --data '" ++ t ++ "'") {}).request =
        { url := "https://h", method := .post, body := .raw t none } ↔ Silent t := by
  have command : (("curl 'https://h' --data '" : Text) ++ t ++ ("'" : Text)) =
      "curl '" ++ "https://h" ++ "'" ++ " --data '" ++ t ++ "'" := rfl
  have asked : Directive.request "https://h" [.body .data t] =
      { url := "https://h", method := .post, body := .raw t none } := rfl
  rw [command, ← asked]
  exact request_payload_eq_iff (by decide) (by decide) (by decide) ht hc

/-- An option right behind the opening quote is no option, and one in front of the closing quote takes
no value. -/
theorem request_of_hyphens :
    (readCommand "curl 'https://h' --data '-k: a-u b, --user'" {}).request =
      { url := "https://h", method := .post, body := .raw "-k: a-u b, --user" none } := by
  have command : ("curl 'https://h' --data '-k: a-u b, --user'" : Text) =
      "curl 'https://h' --data '" ++ "-k: a-u b, --user" ++ "'" := by decide +kernel
  rw [command]
  exact (request_of_payload_iff (by decide) (by decide)).2 (by decide +kernel)

/-- A switch between blanks turns the check of certificates off. -/
theorem request_of_switch_in_payload :
    '\'' ∉ ("a -k b" : Text) ∧ continuesLine "a -k b" = false ∧
      (readCommand "curl 'https://h' --data 'a -k b'" {}).request ≠
        { url := "https://h", method := .post, body := .raw "a -k b" none } ∧
      (readCommand "curl 'https://h' --data 'a -k b'" {}).request.verifySsl = false := by
  decide +kernel

end CurlSnippets.Command
