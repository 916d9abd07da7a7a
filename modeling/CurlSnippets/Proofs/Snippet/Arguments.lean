import CurlSnippets.Proofs.Command.Reading
import CurlSnippets.Proofs.Shell.Words
import CurlSnippets.Proofs.Snippet.Directives

/-!
# Curl commands as words of the shell

The words a curl command is meant to have are the name and the text of each option (`arguments`).  A
directive is read as its words (`wordsFrom_text`), and so is a header option without apostrophes.  A
header with one is not, whatever follows it (`wordsFrom_headers`).  So a command has the words it is
meant to have exactly if no apostrophe stands in its headers; every other text may be any text.
-/

namespace CurlSnippets.Snippet

open Command Shell

variable {r : Request} {data : Option Text}

/-- The words that a header option is to be. -/
def headerWords (p : Text × Text) : List Text := ["--header", headerText p]

/-- The words of the command that a request is to be written as. -/
def arguments (r : Request) (data : Option Text) : List Text := List.flatten [
  ["curl", "--request", r.method.name, "--url", r.url],
  (r.effectiveHeaders false).entries.flatMap headerWords,
  (sentUser? r).toList.flatMap fun u => ["--user", u.1 ++ [':'] ++ u.2],
  if r.verifySsl then [] else ["--insecure"],
  data.toList.flatMap fun d => ["--data", d]]

/-! ### Words of directives -/

/-- The words that a directive is to be. -/
def optionWords (d : Directive) : List Text := d.name :: d.given.toList

/-- A directive whose word, if it is given a bare one, is a word of the shell as it is. -/
def Speakable : Directive → Prop
  | .method _ word => word ≠ [] ∧ word.all isOrdinary
  | _ => True

theorem isOrdinary_name (d : Directive) : d.name ≠ [] ∧ d.name.all isOrdinary :=
  (show ∀ k ∈ OptionKind.all, ∀ n ∈ k.names, n ≠ [] ∧ n.all isOrdinary by decide +kernel)
    d.kind d.kind.mem_all d.name d.name_mem

/-- Whether a text is at its end or goes on with a space. -/
def Spaced (t : Text) : Prop := t = [] ∨ ∃ u, t = ' ' :: u

theorem wordsFrom_begun {rest : Text} (hr : Spaced rest) (word : Text) :
    wordsFrom .bare (some word) rest = (wordsFrom .bare none rest).map (word :: ·) := by
  rcases hr with rfl | ⟨u, rfl⟩
  · rfl
  · rw [wordsFrom_space, wordsFrom_space_none]
    rfl

theorem wordsFrom_text {d : Directive} (hd : Speakable d) {rest : Text} (hr : Spaced rest) :
    wordsFrom .bare none (d.text ++ rest) =
      (wordsFrom .bare none rest).map (optionWords d ++ ·) := by
  obtain ⟨hne, ordinary⟩ := isOrdinary_name d
  have named : ∀ t, wordsFrom .bare none (d.name ++ t) = wordsFrom .bare (some d.name) t :=
    fun t => wordsFrom_ordinary hne ordinary none t
  -- a word that is given, as it is written
  have given : ∀ a v, d.argument = some a → d.given = some v →
      (∀ t, wordsFrom .bare none (a ++ t) = wordsFrom .bare (some v) t) →
        wordsFrom .bare none (d.text ++ rest) =
          (wordsFrom .bare none rest).map (optionWords d ++ ·) := by
    intro a v ha hv read
    have text : d.text ++ rest = d.name ++ ' ' :: (a ++ rest) := by
      simp [Directive.text, ha]
    rw [text, named, wordsFrom_space, read, wordsFrom_begun hr, Option.map_map, optionWords, hv]
    rfl
  have quoted : ∀ v, d.argument = some (Literal.shell v) → d.given = some v →
      wordsFrom .bare none (d.text ++ rest) =
        (wordsFrom .bare none rest).map (optionWords d ++ ·) :=
    fun v ha hv => given _ v ha hv fun t => wordsFrom_shell none v t
  have switch : d.argument = none → d.given = none →
      wordsFrom .bare none (d.text ++ rest) =
        (wordsFrom .bare none rest).map (optionWords d ++ ·) := by
    intro ha hv
    have text : d.text = d.name := by simp [Directive.text, ha]
    rw [text, named, wordsFrom_begun hr, optionWords, hv]
    rfl
  cases d with
  | method _ word => exact given word word rfl rfl fun t => wordsFrom_ordinary hd.1 hd.2 none t
  | url t | header _ t | body _ t | user _ t | cookie _ t => exact quoted t rfl rfl
  | insecure | location => exact switch rfl rfl

/-! ### Words of lines -/

/-- The lines of a command behind the first one. -/
def lines (options : List Text) : Text := options.flatMap (lineGap ++ ·)

theorem spaced_lines (options : List Text) : Spaced (lines options) := by
  cases options with
  | nil => exact .inl rfl
  | cons o options => exact .inr ⟨_, rfl⟩

theorem wordsFrom_line (option rest : Text) :
    wordsFrom .bare none (lineGap ++ option ++ rest) = wordsFrom .bare none (option ++ rest) := by
  rw [List.append_assoc, wordsFrom_lineGap]
  cases wordsFrom .bare none (option ++ rest) <;> rfl

theorem wordsFrom_lines_cons {d : Directive} (hd : Speakable d) (options : List Text) :
    wordsFrom .bare none (lines (d.text :: options)) =
      (wordsFrom .bare none (lines options)).map (optionWords d ++ ·) := by
  have split : lines (d.text :: options) = lineGap ++ d.text ++ lines options := rfl
  rw [split, wordsFrom_line, wordsFrom_text hd (spaced_lines options)]

theorem wordsFrom_lines {ds : List Directive} (hds : ∀ d ∈ ds, Speakable d) :
    wordsFrom .bare none (lines (ds.map Directive.text)) = some (ds.flatMap optionWords) := by
  induction ds with
  | nil => rfl
  | cons d ds ih =>
    have tail := ih fun e he => hds e (List.mem_cons_of_mem _ he)
    rw [List.map_cons, wordsFrom_lines_cons (hds d (by simp)), tail]
    rfl

/-! ### Words of headers -/

/-- The lines of options begin with a hyphen each. -/
theorem lines_eq {options : List Text} (h : ∀ o ∈ options, ∃ u, o = '-' :: u) :
    lines options = [] ∨ ∃ u, lines options = lineGap ++ '-' :: u := by
  cases options with
  | nil => exact .inl rfl
  | cons o options =>
    obtain ⟨u, rfl⟩ := h o (by simp)
    exact .inr ⟨u ++ lines options, by simp [lines]⟩

theorem wordsFrom_curlHeader (p : Text × Text) (rest : Text) :
    wordsFrom .bare none (curlHeader p ++ rest) =
      (wordsFrom .bare none ('\'' :: (headerText p ++ '\'' :: rest))).map
        (("--header" : Text) :: ·) := by
  have option : curlHeader p ++ rest =
      "--header" ++ ' ' :: '\'' :: (headerText p ++ '\'' :: rest) := by
    unfold curlHeader headerText
    simp
  have ordinary : ("--header" : Text).all isOrdinary := by decide
  rw [option, wordsFrom_ordinary (by decide) ordinary, wordsFrom_space]
  rfl

/-- A header option is read as it is meant exactly if no apostrophe stands in the header. -/
theorem wordsFrom_headers {headers : List (Text × Text)} {ds : List Directive}
    (hds : ∀ d ∈ ds, Speakable d) :
    wordsFrom .bare none (lines (headers.map curlHeader ++ ds.map Directive.text)) =
        some (headers.flatMap headerWords ++ ds.flatMap optionWords) ↔
      ∀ p ∈ headers, '\'' ∉ p.1 ∧ '\'' ∉ p.2 := by
  induction headers with
  | nil => simpa using wordsFrom_lines hds
  | cons p headers ih =>
    have options : ∀ o ∈ headers.map curlHeader ++ ds.map Directive.text, ∃ u, o = '-' :: u := by
      intro o ho
      rcases List.mem_append.1 ho with ho | ho
      · obtain ⟨q, -, rfl⟩ := List.mem_map.1 ho
        exact ⟨_, rfl⟩
      · obtain ⟨d, -, rfl⟩ := List.mem_map.1 ho
        simpa using d.exists_hyphen []
    have ending := lines_eq options
    have spaced := spaced_lines (headers.map curlHeader ++ ds.map Directive.text)
    generalize hr : lines (headers.map curlHeader ++ ds.map Directive.text) = rest at ih ending spaced
    have split : lines ((p :: headers).map curlHeader ++ ds.map Directive.text) =
        lineGap ++ curlHeader p ++ rest := by
      rw [← hr]
      rfl
    have meant : (p :: headers).flatMap headerWords ++ ds.flatMap optionWords =
        ("--header" : Text) :: headerText p :: (headers.flatMap headerWords ++ ds.flatMap optionWords) := rfl
    rw [split, wordsFrom_line, wordsFrom_curlHeader, meant, List.forall_mem_cons,
      ← quoteless_headerText, ← ih]
    -- an apostrophe in the header ends the quotes, and what was meant is read in no other way
    by_cases hp : '\'' ∈ headerText p
    · have never := wordsFrom_unescaped_ne hp ending
        (headers.flatMap headerWords ++ ds.flatMap optionWords)
      constructor
      · intro h
        obtain ⟨ws, read, same⟩ := Option.map_eq_some_iff.1 h
        obtain rfl := (List.cons.inj same).2
        exact absurd read never
      · rintro ⟨h, -⟩
        exact absurd hp h
    · -- without one the header stands between its quotes as any text does
      have quoted : '\'' :: (headerText p ++ '\'' :: rest) =
          Literal.shell (headerText p) ++ rest := by
        rw [shell_eq, escaped_of_notMem hp]
        simp
      rw [quoted, wordsFrom_shell, wordsFrom_begun spaced]
      cases wordsFrom .bare none rest with
      | none => simp
      | some ws => simp [hp]

/-! ### Words of a command -/

theorem speakable_method (m : Method) : Speakable (.method false m.name) :=
  (show ∀ m ∈ Method.all, m.name ≠ [] ∧ m.name.all isOrdinary by decide +kernel) m m.mem_all

theorem speakable_trailing : ∀ d ∈ trailing r data, Speakable d := by
  intro d hd
  simp only [trailing, List.mem_append, List.mem_map] at hd
  rcases hd with ⟨u, -, rfl⟩ | hd | ⟨t, -, rfl⟩
  · trivial
  · obtain rfl := eq_insecure_of_mem hd
    trivial
  · trivial

theorem arguments_eq (r : Request) (data : Option Text) :
    arguments r data = ("curl" : Text) :: (optionWords (.method false r.method.name) ++
      (optionWords (.url r.url) ++ ((r.effectiveHeaders false).entries.flatMap headerWords ++
        (trailing r data).flatMap optionWords))) := by
  have switch : (if r.verifySsl then [] else [("--insecure" : Text)]) =
      (if r.verifySsl then [] else [Directive.insecure false]).flatMap optionWords := by
    by_cases hs : r.verifySsl
    · simp only [hs, if_true]
      rfl
    · simp only [hs, if_false, Bool.false_eq_true]
      rfl
  rw [arguments, switch, trailing, List.flatMap_append, List.flatMap_append, List.flatMap_map,
    List.flatMap_map]
  simp only [List.flatten_cons, List.flatten_nil, List.append_nil]
  rfl

theorem map_append_eq_some_iff {ws : Option (List Text)} {front back : List Text} :
    ws.map (front ++ ·) = some (front ++ back) ↔ ws = some back := by
  cases ws with
  | none => simp
  | some ws => simp

theorem curl_eq_lines (hd : curlData? r = .ok data) :
    curl r = .ok ("curl" ++ lines (curlOptions r data)) := by
  rw [curl, hd]
  exact congrArg Except.ok (Text.join_cons _ _ _)

/-- **The words of a curl command** are the name and the text of each option exactly if no apostrophe
stands in a header. -/
theorem words_curl (hd : curlData? r = .ok data) :
    ∃ command, curl r = .ok command ∧
      (Shell.words command = some (arguments r data) ↔
        ∀ p ∈ (r.effectiveHeaders false).entries, '\'' ∉ p.1 ∧ '\'' ∉ p.2) := by
  refine ⟨_, curl_eq_lines hd, ?_⟩
  have ordinary : ("curl" : Text).all isOrdinary := by decide
  have front : Shell.words ("curl" ++ lines (curlOptions r data)) =
      (wordsFrom .bare none (lines (curlOptions r data))).map ([("curl" : Text)] ++ ·) := by
    rw [Shell.words, wordsFrom_ordinary (by decide) ordinary, wordsFrom_begun (spaced_lines _)]
    rfl
  have cons : arguments r data = [("curl" : Text)] ++ (optionWords (.method false r.method.name) ++
      (optionWords (.url r.url) ++ ((r.effectiveHeaders false).entries.flatMap headerWords ++
        (trailing r data).flatMap optionWords))) := arguments_eq r data
  rw [front, cons, map_append_eq_some_iff, curlOptions_eq_append,
    wordsFrom_lines_cons (speakable_method r.method), map_append_eq_some_iff,
    wordsFrom_lines_cons (d := .url r.url) trivial, map_append_eq_some_iff,
    wordsFrom_headers speakable_trailing]

/-- A request with apostrophes, operators and a line feed where they do no harm. -/
def awkward : Request where
  url := "https://h/'$(x)"
  headers := Fields.ofList [("A", "b; c")]
  verifySsl := false
  body := .raw "it's\n -k" none
  auth := .basic "o'n" "\\ & #"

theorem words_curl_awkward : ∃ command, curl awkward = .ok command ∧
    Shell.words command = some (["curl", "--request", "GET", "--url", "https://h/'$(x)", "--header",
      "A: b; c", "--user", "o'n:\\ & #", "--insecure", "--data", "it's\n -k"] : List Text) := by
  have data : curlData? awkward = .ok (some "it's\n -k") := by decide +kernel
  obtain ⟨command, written, read⟩ := words_curl data
  exact ⟨command, written, (read.2 (by decide +kernel)).trans (by decide +kernel)⟩

/-- A request with a header that ends the quotes it is put in. -/
def injecting : Request where
  url := "https://h"
  headers := Fields.ofList [("X", "a' --insecure 'b")]

/-- Such a header brings words of its own. -/
theorem words_curl_injecting :
    (curl injecting).map Shell.words = .ok (some ["curl", "--request", "GET", "--url", "https://h",
      "--header", "X: a", "--insecure", "b"]) ∧
    curlData? injecting = .ok none ∧
    (curl injecting).map Shell.words ≠ .ok (some (arguments injecting none)) := by
  decide +kernel

end CurlSnippets.Snippet
