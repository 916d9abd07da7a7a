import CurlSnippets.Proofs.Command.DoubleQuoted
import CurlSnippets.Proofs.Snippet.HeaderPolicy

/-!
# Cookies in a header and in a command

A header writes cookies as pairs with semicolons between them, and a cookie option reads such pairs.
Pairs whose parts do not run into each other (`Cookie.Apart`) are read one by one (`cookiesOf_join`),
whatever else is in them: the option takes its whole quoted value, so that nothing inside is looked at
as an option (`all_cookieOption_last`).  So the header of such cookies, given to a cookie option, gives
the cookies again (`cookies_reread`).
-/

namespace CurlSnippets

/-! ### Pairs -/

namespace Cookie

/-- How a cookie stands in a header. -/
def pair (c : Cookie) : Text := c.name ++ '=' :: c.value

/-- The cookie with nothing but its name and its value. -/
def bare (c : Cookie) : Cookie := { name := c.name, value := c.value }

/-- A cookie whose pair can be told from others and stand between apostrophes: it has a name, the name
has no equals sign in it, neither part has a semicolon or an apostrophe in it, and no blank stands at
either end of the pair. -/
structure Apart (c : Cookie) : Prop where
  named : c.name ≠ []
  name : '=' ∉ c.name ∧ ';' ∉ c.name ∧ '\'' ∉ c.name
  value : ';' ∉ c.value ∧ '\'' ∉ c.value
  front : ∀ d ∈ c.name.head?, Text.isBlank d = false
  back : ∀ d ∈ c.value.getLast?, Text.isBlank d = false

instance : DecidablePred Apart := fun c =>
  decidable_of_iff (c.name ≠ [] ∧ ('=' ∉ c.name ∧ ';' ∉ c.name ∧ '\'' ∉ c.name) ∧
      (';' ∉ c.value ∧ '\'' ∉ c.value) ∧ c.name.head?.all (fun d => !Text.isBlank d) ∧
      c.value.getLast?.all fun d => !Text.isBlank d)
    ⟨fun ⟨named, name, value, front, back⟩ => ⟨named, name, value,
        Text.all_not_isBlank_iff.1 front, Text.all_not_isBlank_iff.1 back⟩,
      fun h => ⟨h.named, h.name, h.value, Text.all_not_isBlank_iff.2 h.front,
        Text.all_not_isBlank_iff.2 h.back⟩⟩

variable {c : Cookie}

theorem Apart.notMem_pair (h : c.Apart) : ';' ∉ c.pair ∧ '\'' ∉ c.pair := by
  obtain ⟨-, nameSemicolon, nameQuote⟩ := h.name
  obtain ⟨valueSemicolon, valueQuote⟩ := h.value
  simp [pair, nameSemicolon, nameQuote, valueSemicolon, valueQuote]

/-- No blank stands at either end of a pair, also where the value is empty. -/
theorem Apart.trim_pair (h : c.Apart) : Text.trim c.pair = c.pair := by
  refine Text.trim_eq_self (fun d hd => ?_) (fun d hd => ?_)
  · -- in front stands the name
    obtain ⟨e, rest, hn⟩ := List.exists_cons_of_ne_nil h.named
    refine h.front d ?_
    rw [pair, hn] at hd
    rw [hn]
    exact hd
  · -- at the end the value, or the equals sign in front of an empty one
    rw [pair, List.getLast?_append, List.getLast?_cons, Option.some_or, Option.mem_some_iff] at hd
    cases hv : c.value.getLast? with
    | none =>
      rw [hv] at hd
      rw [← hd]
      decide
    | some e =>
      rw [hv] at hd
      exact h.back d (by rw [hv, ← hd]; rfl)

end Cookie

namespace Command

open Pattern

/-! ### Reading pairs -/

/-- A pair is read as its name and its value behind any blanks. -/
theorem cookie?_pair {c : Cookie} (h : c.Apart) {x : Text} (hx : ∀ d ∈ x, Text.isBlank d) :
    cookie? (x ++ c.pair) = some c.bare := by
  have named : c.name.isEmpty = false := by simpa using h.named
  rw [cookie?, Text.trim_blanks_append hx, h.trim_pair, Cookie.pair, Text.cut_append h.name.1]
  simp only [named, Bool.false_eq_true, if_false]
  rfl

/-- Pairs with a semicolon and a space between them are read in order. -/
theorem cookiesOf_join {cookies : List Cookie} (h : ∀ c ∈ cookies, c.Apart) :
    cookiesOf (Text.join "; " (cookies.map Cookie.pair)) = cookies.map Cookie.bare := by
  cases cookies with
  | nil => decide
  | cons c cookies =>
    obtain ⟨first, others⟩ := List.forall_mem_cons.1 h
    -- split at the semicolons, every pair but the first has a space in front of it
    have gap : Text.join "; " ((c :: cookies).map Cookie.pair) =
        Text.join [';'] (c.pair :: (cookies.map Cookie.pair).map ([' '] ++ ·)) :=
      Text.join_cons_gap ';' [' '] c.pair (cookies.map Cookie.pair)
    have closed : ∀ p ∈ c.pair :: (cookies.map Cookie.pair).map ([' '] ++ ·), ';' ∉ p := by
      refine List.forall_mem_cons.2 ⟨first.notMem_pair.1, ?_⟩
      rw [List.map_map, List.forall_mem_map]
      intro d hd
      simpa using (others d hd).notMem_pair.1
    have head : cookie? c.pair = some c.bare := cookie?_pair (x := []) first (List.forall_mem_nil _)
    have tail : ∀ d ∈ cookies, cookie? ([' '] ++ d.pair) = some d.bare :=
      fun d hd => cookie?_pair (others d hd) (List.forall_mem_singleton.2 (by decide))
    rw [cookiesOf, gap, Text.split_join (by simp) closed, List.filterMap_cons_some head,
      List.map_map, List.filterMap_map, List.map_cons]
    congr 1
    rw [← List.filterMap_eq_map]
    exact List.filterMap_congr tail

/-! ### Reading the option -/

/-- A cookie option at the end of a command takes its whole quoted value, whatever stands in it. -/
theorem all_cookieOption_last {head t : Text} (hq : '\'' ∉ t)
    (hhead : ∀ rest, optionStart.occurs rest none head = false) :
    cookieOption.all (head ++ ' ' :: (Directive.cookie false t).text) =
      [((Directive.cookie false t).text, t)] := by
  have only : cookieOption.OnlyAt optionStart :=
    onlyAt_option (Directive.isName_of_mem (k := .cookie))
  have taken : cookieOption (some ' ') (Directive.cookie false t).text = some (t, []) := by
    have quoted : ∃ c u, Literal.shell t = c :: u ∧ Text.isBlank c = false :=
      ⟨'\'', _, shell_eq t, by decide⟩
    have value : cookieOption (some ' ') ((Directive.cookie false t).text ++ []) =
        value? (Literal.shell t ++ []) := Directive.option_of_first (k := .cookie) rfl rfl quoted
    rwa [List.append_nil, value?_shell hq] at value
  exact all_append_last only (hhead _) (fun _ _ => by simp [optionStart, looksLikeOption]) rfl taken

theorem findCookies_last {head t : Text} (hq : '\'' ∉ t)
    (hhead : ∀ rest, optionStart.occurs rest none head = false) :
    findCookies (head ++ ' ' :: (Directive.cookie false t).text) = cookiesOf t := by
  rw [findCookies, all_cookieOption_last hq hhead, List.flatMap_cons, List.flatMap_nil,
    List.append_nil]

/-- The cookies of a command are those of its only cookie option. -/
theorem cookies_readCommand {t : Text} (hq : '\'' ∉ t) (unbroken : continuesLine t = false) :
    (readCommand ("curl https://h --cookie '" ++ t ++ "'") {}).request.cookies = cookiesOf t := by
  have kept : Kept (Directive.cookie false t).text :=
    (Directive.cookie false t).kept_name.spaced (.shell unbroken)
  have written : ("curl https://h --cookie '" : Text) ++ t ++ ("'" : Text) =
      "curl https://h" ++ ' ' :: (Directive.cookie false t).text := by
    have text : (Directive.cookie false t).text = "--cookie" ++ ' ' :: Literal.shell t := rfl
    rw [text, shell_eq, escaped_of_notMem hq]
    simp
  rw [written, request_readCommand]
  show [] ++ findCookies (normalize _) = _
  rw [(kept_bareUrl.spaced kept).normalize_eq, findCookies_last hq occurs_optionStart_bareUrl,
    List.nil_append]

end Command

/-! ### The header -/

open Command

theorem Request.get?_cookie {r : Request} {basic : Bool} (filled : r.cookies ≠ [])
    (unset : r.Unset "Cookie") : (r.effectiveHeaders basic).get? "Cookie" =
      some (Text.join "; " (r.cookies.map Cookie.pair)) := by
  have pairs : (r.cookies.map fun c => c.name ++ ['='] ++ c.value) = r.cookies.map Cookie.pair :=
    List.map_congr_left fun c _ => by rw [Cookie.pair, List.append_assoc, List.singleton_append]
  have follows : r.cookieHeader? = some (Text.join "; " (r.cookies.map Cookie.pair)) := by
    rw [cookieHeader?, if_neg (by simpa using filled), pairs]
  exact get?_derived (mem_derivedHeaders.2 ⟨unset_iff.1 unset, .inr (.inl ⟨rfl, follows⟩)⟩)

/-- **Cookies are read again** from the header that is derived for them, if no line continuation stands
in it: in order, with those given twice, and with their names and values alone. -/
theorem cookies_reread {r : Request} (filled : r.cookies ≠ []) (unset : r.Unset "Cookie")
    (apart : ∀ c ∈ r.cookies, c.Apart) (basic : Bool) :
    ∃ sent, (r.effectiveHeaders basic).get? "Cookie" = some sent ∧
      (continuesLine sent = false →
        (readCommand ("curl https://h --cookie '" ++ sent ++ "'") {}).request.cookies =
          r.cookies.map fun c => { name := c.name, value := c.value }) := by
  refine ⟨_, Request.get?_cookie filled unset, fun unbroken => ?_⟩
  have quoteless : '\'' ∉ Text.join "; " (r.cookies.map Cookie.pair) :=
    Text.notMem_join (by decide) (List.forall_mem_map.2 fun c hc => (apart c hc).notMem_pair.2)
  rw [cookies_readCommand quoteless unbroken, cookiesOf_join apart]
  rfl

/-- A request with cookies of one name, blanks and quotes in them, and what looks like options. -/
def jar : Request where
  url := "https://h"
  headers := Fields.ofList [("X-Cookie", "x")]
  cookies := [{ name := "a b ", value := " \"1\" -k --cookie c=d", domain := some "h" },
    { name := "a b ", value := "" }, { name := "-b", value := "x\n\\" }]

/-- Blanks inside a pair are kept, and nothing in a value is taken for an option. -/
theorem cookies_reread_jar :
    jar.cookies ≠ [] ∧ jar.Unset "Cookie" ∧ (∀ c ∈ jar.cookies, c.Apart) ∧
      ∃ sent, (jar.effectiveHeaders true).get? "Cookie" = some sent ∧
        continuesLine sent = false ∧
        (readCommand ("curl https://h --cookie '" ++ sent ++ "'") {}).request.cookies =
          [{ name := "a b ", value := " \"1\" -k --cookie c=d" }, { name := "a b ", value := "" },
            { name := "-b", value := "x\n\\" }] := by
  have filled : jar.cookies ≠ [] := by decide
  have unset : jar.Unset "Cookie" := Request.unset_iff.2 (by decide +kernel)
  have apart : ∀ c ∈ jar.cookies, c.Apart := by decide +kernel
  obtain ⟨sent, header, reread⟩ := cookies_reread filled unset apart true
  have written : sent = "a b = \"1\" -k --cookie c=d; a b =; -b=x\n\\" :=
    Option.some.inj (header.symm.trans (by decide +kernel))
  have unbroken : continuesLine sent = false := by
    rw [written]
    decide +kernel
  exact ⟨filled, unset, apart, sent, header, unbroken, reread unbroken⟩

end CurlSnippets
