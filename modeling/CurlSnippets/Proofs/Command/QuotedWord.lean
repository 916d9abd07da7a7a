import CurlSnippets.Proofs.Command.NamedUrl
import CurlSnippets.Proofs.Command.Stretches
import CurlSnippets.Proofs.Shell.Words

/-!
# Words in apostrophes, as they are read

Any text can be written as a word in apostrophes, with `'\''` for an apostrophe of its own.  Where a
space or the end follows the word, the normal layout takes it for one quoted stretch, a body option
gives the text, and so does the shell (`readers_shell`).

The other options with a value do not know the escape: they end at the first apostrophe of the text.  So
a url or credentials without blanks are read back exactly if there is no apostrophe in them
(`request_of_shell_iff`).
-/

namespace CurlSnippets.Command

open Pattern

/-! ### Readers that know the escape -/

/-- An option that a text begins with is found with the value behind its name. -/
theorem first?_option {α : Type} {name : Text} (hname : IsName name)
    {value : Text → Option (α × Text)} {t rest : Text} {a : α}
    (h : value (Text.dropBlanks t) = some (a, rest)) :
    (option [name] value).first? (name ++ ' ' :: t) = some a := by
  have named : named? value [name] (name ++ ' ' :: t) = some (a, rest) := by
    rw [named?_of_mem (by simpa using hname) hname (by simp), h]
  obtain ⟨c, u, rfl⟩ : ∃ c u, name = c :: u :=
    List.exists_cons_of_ne_nil (by rintro rfl; exact absurd hname.1 (by decide))
  -- the beginning of the text begins a token as well
  have here : option [c :: u] value none (c :: (u ++ ' ' :: t)) = some (a, rest) := by
    rw [option, if_pos (by rfl)]
    exact named
  rw [first?, List.cons_append, firstAfter, here]

/-- **All readers of quoted words agree.**  A text in apostrophes, at the end or with a space behind it,
is one quoted stretch, the payload of any body option, and one word of the shell, whatever follows. -/
theorem readers_shell (v : Text) {s : Text} (hs : ∀ c ∈ s.head?, c = ' ') :
    (∃ n, spanLength? (Literal.shell v ++ s) = some n ∧
        (Literal.shell v ++ s).splitAt (n + 1) = (Literal.shell v, s)) ∧
      (∀ name ∈ bodyNames, ((option [name] escapedSingle?).first?
        (name ++ ' ' :: (Literal.shell v ++ s))).map unfoldQuotes = some v) ∧
      Shell.wordFrom .bare [] (Literal.shell v ++ s) = some (v, s) := by
  have parted : Parted s := fun c hc => by rw [hs c hc]; decide
  refine ⟨?_, fun name hname => ?_, ?_⟩
  · -- the normal layout
    have ends : (Token.single v).Ends s := parted.not_resumes
    have length : (escaped v).length + 1 + 1 = (Literal.shell v).length := by simp [shell_eq]
    refine ⟨_, spanLength?_eq_some_iff.2 ⟨.single v, s, rfl, length, ends⟩, ?_⟩
    rw [length, List.splitAt_eq, List.take_left, List.drop_left]
  · -- a body option
    have isName : IsName name := (show ∀ n ∈ bodyNames, IsName n by decide) name hname
    have blankless : Text.dropBlanks (Literal.shell v ++ s) = Literal.shell v ++ s := by
      rw [shell_eq]
      rfl
    have captured := escapedSingle?_shell v parted
    rw [← blankless] at captured
    rw [first?_option isName captured, Option.map_some, unfoldQuotes_escaped]
  · -- the shell
    rw [Shell.wordFrom_append (Shell.run_shell v), List.nil_append]
    cases s with
    | nil => rfl
    | cons c s =>
      obtain rfl := hs c rfl
      rfl

/-- Apostrophes and backslashes in the text, and the escape again in what follows it. -/
theorem readers_shell_quotes :
    (∃ n, spanLength? "'\\'\\'''\\''\\' 'b'\\'' \"" = some n ∧
        ("'\\'\\'''\\''\\' 'b'\\'' \"" : Text).splitAt (n + 1) =
          (("'\\'\\'''\\''\\'" : Text), (" 'b'\\'' \"" : Text))) ∧
      ((option ["-d"] escapedSingle?).first?
        ("-d" ++ ' ' :: "'\\'\\'''\\''\\' 'b'\\'' \"")).map unfoldQuotes = some ("\\''\\" : Text) ∧
      Shell.wordFrom .bare [] "'\\'\\'''\\''\\' 'b'\\'' \"" =
        some (("\\''\\" : Text), (" 'b'\\'' \"" : Text)) := by
  have word : ("'\\'\\'''\\''\\'" : Text) = Literal.shell "\\''\\" := by decide +kernel
  have text : ("'\\'\\'''\\''\\' 'b'\\'' \"" : Text) =
      Literal.shell "\\''\\" ++ " 'b'\\'' \"" := by decide +kernel
  have space : ∀ c ∈ (" 'b'\\'' \"" : Text).head?, c = ' ' := by simp
  obtain ⟨stretch, payload, read⟩ := readers_shell "\\''\\" space
  rw [text, word]
  exact ⟨stretch, payload "-d" (by decide), read⟩

/-! ### Options that end at an apostrophe -/

section Blankless

variable {t : Text} (h : ∀ c ∈ t, Text.isBlank c = false)

include h

/-- A text without blanks is taken for nothing else between apostrophes. -/
theorem plain_of_blankless : Directive.Plain t where
  unbroken := by
    -- a continuation has a line feed in it, which is a blank
    have lineless : '\n' ∉ t := fun hn => absurd (h '\n' hn) (by decide)
    have unmarked : ∀ {mark : Text}, '\n' ∈ mark → Text.occursIn mark t = false := by
      intro mark hm
      rw [Bool.eq_false_iff, Ne, Text.occursIn_iff]
      exact fun inside => lineless (inside.subset hm)
    rw [continuesLine, unmarked (by decide), unmarked (by decide)]
    rfl
  optionless := by
    cases t with
    | nil => rfl
    | cons c t =>
      obtain ⟨hc, ht⟩ := List.forall_mem_cons.1 h
      rw [← occurs_optionStart]
      exact Directive.occurs_optionStart_of_bare ht [] hc

theorem mentionsCurl_of_blankless : mentionsCurl t = false := by
  have passed : ∀ before, curlWord.occurs [] before t = false := by
    induction t with
    | nil => exact fun _ => rfl
    | cons c t ih =>
      intro before
      -- the word needs a blank behind it
      have unlike : isCurlWord (c :: t ++ []) = false := by
        rw [List.append_nil, isCurlWord]
        split
        · rename_i d behind hd
          refine h d ?_
          rw [Text.eq_append_of_after? hd]
          simp
        · rfl
      rw [Place.occurs_cons, ih (List.forall_mem_cons.1 h).2, curlWord, unlike, Bool.and_false,
        Bool.or_false]
  exact passed none

end Blankless

/-- No apostrophe stands in a web address. -/
theorem notMem_address {t url : Text} (h : address.first? t = some url) : '\'' ∉ url := by
  obtain ⟨_, u, behind, -, captured⟩ := exists_of_firstAfter h
  -- what the bare form captures is bare
  have bare : ∀ {x token rest : Text}, bare? x = some (token, rest) → '\'' ∉ token := by
    intro x token rest hx inside
    rw [bare?] at hx
    split at hx
    · exact absurd hx (by simp)
    · obtain ⟨rfl, -⟩ := Prod.mk.inj (Option.some.inj hx)
      exact absurd (List.mem_takeWhile_imp inside) (by decide)
  rw [address] at captured
  obtain ⟨scheme, hs, read⟩ := List.exists_of_findSome?_eq_some captured
  have schemeless : '\'' ∉ scheme :=
    (show ∀ scheme ∈ (["https://", "http://"] : List Text), '\'' ∉ scheme by decide) scheme hs
  split at read
  · obtain ⟨⟨token, rest⟩, ht, written⟩ := Option.map_eq_some_iff.1 read
    obtain ⟨rfl, -⟩ := Prod.mk.inj written
    exact fun inside => (List.mem_append.1 inside).elim schemeless (bare ht)
  · exact absurd read (by simp)

section Directives

variable {ds : List Directive} (contained : ∀ d ∈ ds, d.Contained)

include contained

/-- Behind the word `curl` directives with a space before each are in normal layout already. -/
theorem readCommand_spread : (readCommand ("curl" ++ spread (ds.map Directive.text)) {}).request =
    (Findings.ofNormal ("curl" ++ spread (ds.map Directive.text))).applyTo {} := by
  have kept : ∀ p ∈ ds.map Directive.text, Kept p := by
    intro p hp
    obtain ⟨d, hd, rfl⟩ := List.mem_map.1 hp
    exact (contained d hd).kept
  rw [request_readCommand, Findings.ofCommand, normalize_spread kept_curl kept]

/-- The credentials are those of the first option for them, up to its first apostrophe. -/
theorem auth_spread {value : Text} (given : ds.findSome? (Directive.given? .user) = some value) :
    (readCommand ("curl" ++ spread (ds.map Directive.text)) {}).request.auth =
      .basic (Text.cut ':' (untilQuote value)).1 ((Text.cut ':' (untilQuote value)).2.getD []) := by
  have found := first?_valueOption (k := .user) contained
    (fun rest _ => occurs_optionStart_curl rest) (by decide)
  rw [given, Option.map_some] at found
  have user : findUser ("curl" ++ spread (ds.map Directive.text)) =
      some ((Text.cut ':' (untilQuote value)).1, (Text.cut ':' (untilQuote value)).2.getD []) :=
    congrArg (Option.map _) found
  rw [readCommand_spread contained]
  show ((findUser _).map fun u => Auth.basic u.1 u.2).getD _ = _
  rw [user]
  rfl

variable (curlless : ∀ d ∈ ds, d.Curlless) {url : Text}
  (given : ds.findSome? (Directive.given? .url) = some url)

include curlless given

/-- The url is that of the first url option, up to its first apostrophe, or else some web address. -/
theorem url_spread : (readCommand ("curl" ++ spread (ds.map Directive.text)) {}).request.url =
    ((some (untilQuote url)).filter (!·.isEmpty) <|>
      address.first? ("curl" ++ spread (ds.map Directive.text))).getD [] := by
  have found := first?_valueOption (k := .url) contained
    (fun rest _ => occurs_optionStart_curl rest) (by decide)
  rw [given, Option.map_some] at found
  rw [readCommand_spread contained]
  show (findUrl _).getD _ = _
  cases ds with
  | nil => exact absurd given (by simp)
  | cons d ds =>
    rw [findUrl_option curlless, ← found]
    rfl

/-- A url without apostrophes is read back, and no other one is. -/
theorem url_spread_eq_iff (hne : url ≠ []) :
    (readCommand ("curl" ++ spread (ds.map Directive.text)) {}).request.url = url ↔
      '\'' ∉ url := by
  rw [url_spread contained curlless given]
  constructor
  · intro read
    rw [← read]
    -- whichever rule has read the url, it stops at an apostrophe
    by_cases empty : (untilQuote url).isEmpty
    · rw [Option.filter_some, empty]
      cases found : address.first? ("curl" ++ spread (ds.map Directive.text)) with
      | none => exact List.not_mem_nil
      | some u => exact notMem_address found
    · rw [Option.filter_some, if_pos (by simpa using empty)]
      exact notMem_untilQuote url
  · intro quoteless
    have nonempty : url.isEmpty = false := by simpa using hne
    rw [untilQuote_of_notMem quoteless, Option.filter_some, nonempty]
    rfl

end Directives

/-- A user name and a password are read back if there is no apostrophe in them, and no other ones. -/
theorem cut_untilQuote_eq_iff {u p : Text} (hu : ':' ∉ u) :
    Auth.basic (Text.cut ':' (untilQuote (u ++ ':' :: p))).1
        ((Text.cut ':' (untilQuote (u ++ ':' :: p))).2.getD []) = .basic u p ↔ '\'' ∉ u ++ p := by
  constructor
  · -- neither part of what is in front of an apostrophe has one
    intro read
    obtain ⟨user, password⟩ := Auth.basic.inj read
    have quoteless : '\'' ∉ (Text.cut ':' (untilQuote (u ++ ':' :: p))).1 ++
        (Text.cut ':' (untilQuote (u ++ ':' :: p))).2.getD [] :=
      Text.notMem_cut (notMem_untilQuote _)
    rwa [user, password] at quoteless
  · intro quoteless
    have all : '\'' ∉ u ++ ':' :: p := by simpa using quoteless
    rw [untilQuote_of_notMem all, Text.cut_append hu]
    rfl

/-- **Options other than a body end at an apostrophe.**  A url, and a user name and a password, each
without blanks and written as quoted words, are read back exactly if there is no apostrophe in them. -/
theorem request_of_shell_iff {v u p : Text} (hne : v ≠ []) (hv : ∀ c ∈ v, Text.isBlank c = false)
    (hu : ':' ∉ u) (hup : ∀ c ∈ u ++ p, Text.isBlank c = false) :
    ((readCommand ("curl --request GET --url " ++ Literal.shell v) {}).request.url = v ↔
        '\'' ∉ v) ∧
      ((readCommand ("curl --request GET --url 'https://h' --user " ++
        Literal.shell (u ++ ':' :: p)) {}).request.auth = .basic u p ↔ '\'' ∉ u ++ p) := by
  have get : (Directive.method false "GET").Contained := ⟨by decide, by decide⟩
  constructor
  · have written : ("curl --request GET --url " : Text) ++ Literal.shell v =
        "curl" ++ spread ([Directive.method false "GET", .url v].map Directive.text) := by
      simp [Directive.text, Directive.argument, Directive.name]
    have contained : ∀ d ∈ [Directive.method false "GET", .url v], d.Contained := by
      simpa using ⟨get, plain_of_blankless hv⟩
    have curlless : ∀ d ∈ [Directive.method false "GET", .url v], d.Curlless := by
      simpa using ⟨by decide, mentionsCurl_of_blankless hv⟩
    rw [written]
    exact url_spread_eq_iff contained curlless rfl hne
  · have written : ("curl --request GET --url 'https://h' --user " : Text) ++
        Literal.shell (u ++ ':' :: p) = "curl" ++ spread
          ([Directive.method false "GET", .url "https://h", .user false (u ++ ':' :: p)].map
            Directive.text) := by
      simp [Directive.text, Directive.argument, Directive.name, Literal.shell, Literal.enclose,
        Literal.shellEscape]
    have blankless : ∀ c ∈ u ++ ':' :: p, Text.isBlank c = false := by
      simpa [or_imp, forall_and, show Text.isBlank ':' = false by decide] using hup
    have contained : ∀ d ∈ [Directive.method false "GET", .url "https://h",
        .user false (u ++ ':' :: p)], d.Contained := by
      simpa using ⟨get, plain_of_blankless (by decide), plain_of_blankless blankless⟩
    rw [written, auth_spread contained rfl]
    exact cut_untilQuote_eq_iff hu

/-- Double quotes, hyphens and colons between apostrophes. -/
theorem request_of_shell_quotes :
    (readCommand "curl --request GET --url '\"-X'" {}).request.url = "\"-X" ∧
      (readCommand "curl --request GET --url 'https://h' --user '-k:\"p:w'" {}).request.auth =
        .basic "-k" "\"p:w" := by
  have named : ("curl --request GET --url '\"-X'" : Text) =
      "curl --request GET --url " ++ Literal.shell "\"-X" := by decide +kernel
  have signed : ("curl --request GET --url 'https://h' --user '-k:\"p:w'" : Text) =
      "curl --request GET --url 'https://h' --user " ++ Literal.shell ("-k" ++ ':' :: "\"p:w") := by
    decide +kernel
  obtain ⟨url, auth⟩ := @request_of_shell_iff "\"-X" "-k" "\"p:w" (by decide) (by decide) (by decide)
    (by decide)
  rw [named, signed]
  exact ⟨url.2 (by decide), auth.2 (by decide)⟩

/-- What stands behind an apostrophe in a url or a password is lost. -/
theorem request_of_apostrophe :
    ("https://h/it's" : Text).all (fun c => !Text.isBlank c && c ≠ '\\') ∧
      Literal.shell "https://h/it's" = "'https://h/it'\\''s'" ∧
      (readCommand "curl --request GET --url 'https://h/it'\\''s'" {}).request.url = "https://h/it" ∧
      ("p'w" : Text).all (fun c => !Text.isBlank c && c ≠ '\\') ∧
      Literal.shell ("u" ++ ':' :: "p'w") = "'u:p'\\''w'" ∧
      (readCommand "curl --request GET --url 'https://h' --user 'u:p'\\''w'" {}).request.auth =
        .basic "u" "p" ∧
      Auth.basic "u" "p" ≠ .basic "u" "p'w" := by
  decide +kernel

end CurlSnippets.Command
