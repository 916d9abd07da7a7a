import CurlSnippets.Proofs.Command.Directive
import CurlSnippets.Proofs.Command.Layout
import CurlSnippets.Snippet.Curl

/-!
# The directives of a curl command

A request is written as the word `curl` and one directive a line (`curl_eq`).  Headers are put between
apostrophes as they are, so theirs are the written forms of directives only if no apostrophe stands in
them; all other options are written as their directives are (`curlOptions_eq_append`).
-/

namespace CurlSnippets.Snippet

open Command

variable {r : Request} {data : Option Text}

/-! ### The directives of a command -/

/-- User name and password that are given by an option. -/
def sentUser? (r : Request) : Option (Text × Text) :=
  match r.auth with
  | .basic username password =>
    if r.hasHeader "Authorization" then none else some (username, password)
  | _ => none

theorem curlUser_eq (r : Request) : curlUser r =
    (sentUser? r).toList.map fun u => "--user " ++ Literal.shell (u.1 ++ [':'] ++ u.2) := by
  unfold curlUser sentUser?
  cases r.auth with
  | basic username password =>
    by_cases h : r.hasHeader "Authorization"
    · simp only [h, if_true]
      rfl
    · simp only [h, if_false, Bool.false_eq_true]
      rfl
  | none | bearer => rfl

theorem auth_of_sentUser? {u : Text × Text} (h : sentUser? r = some u) :
    r.auth = .basic u.1 u.2 ∧ r.hasHeader "Authorization" = false := by
  unfold sentUser? at h
  split at h
  · rename_i username password hauth
    split at h
    · exact absurd h (by simp)
    · rename_i hset
      obtain rfl : (username, password) = u := Option.some.inj h
      exact ⟨hauth, by simpa using hset⟩
  · exact absurd h (by simp)

/-- The text of a header option. -/
def headerText (p : Text × Text) : Text := p.1 ++ ": " ++ p.2

/-- The directives behind the headers. -/
def trailing (r : Request) (data : Option Text) : List Directive :=
  (sentUser? r).toList.map (fun u => .user false (u.1 ++ [':'] ++ u.2)) ++
    ((if r.verifySsl then [] else [.insecure false]) ++ data.toList.map (.body .data))

/-- The directives of the command that a request is written as. -/
def directives (r : Request) (data : Option Text) : List Directive :=
  .method false r.method.name :: .url r.url ::
    ((r.effectiveHeaders false).entries.map (fun p => .header false (headerText p)) ++
      trailing r data)

theorem eq_insecure_of_mem {d : Directive}
    (h : d ∈ if r.verifySsl then [] else [Directive.insecure false]) : d = .insecure false := by
  by_cases hs : r.verifySsl
  · rw [if_pos hs] at h
    exact absurd h (by simp)
  · rw [if_neg hs] at h
    exact List.mem_singleton.1 h

theorem text_header (t : Text) :
    (Directive.header false t).text = "--header " ++ Literal.shell t := by
  simp [Directive.text, Directive.argument, Directive.name]

theorem quoteless_headerText {p : Text × Text} :
    '\'' ∉ headerText p ↔ '\'' ∉ p.1 ∧ '\'' ∉ p.2 := by
  have colon : '\'' ∉ (": " : Text) := by decide
  unfold headerText
  simp only [List.mem_append, colon, or_false, not_or]

theorem curlHeader_eq {p : Text × Text} (h : '\'' ∉ p.1 ∧ '\'' ∉ p.2) :
    curlHeader p = (Directive.header false (headerText p)).text := by
  rw [text_header, shell_eq, escaped_of_notMem (quoteless_headerText.2 h)]
  unfold curlHeader headerText
  simp

theorem curlOptions_eq_append (r : Request) (data : Option Text) :
    curlOptions r data =
      (Directive.method false r.method.name).text :: (Directive.url r.url).text ::
        ((r.effectiveHeaders false).entries.map curlHeader ++
          (trailing r data).map Directive.text) := by
  have user : curlUser r = ((sentUser? r).toList.map fun u =>
      Directive.user false (u.1 ++ [':'] ++ u.2)).map Directive.text := by
    rw [curlUser_eq, List.map_map]
    rfl
  have switch : (if r.verifySsl then [] else [("--insecure" : Text)]) =
      (if r.verifySsl then [] else [Directive.insecure false]).map Directive.text := by
    by_cases hs : r.verifySsl <;> simp [hs, Directive.text, Directive.argument, Directive.name]
  have body : (data.map curlData).toList = (data.toList.map (Directive.body .data)).map
      Directive.text := by
    cases data <;> rfl
  rw [curlOptions, user, switch, body, trailing]
  simp only [List.flatten_cons, List.flatten_nil, List.append_nil, List.map_append]
  rfl

theorem curlOptions_eq
    (h : ∀ p ∈ (r.effectiveHeaders false).entries, '\'' ∉ p.1 ∧ '\'' ∉ p.2) :
    curlOptions r data = (directives r data).map Directive.text := by
  have headers : (r.effectiveHeaders false).entries.map curlHeader =
      ((r.effectiveHeaders false).entries.map fun p =>
        Directive.header false (headerText p)).map Directive.text := by
    rw [List.map_map]
    exact List.map_congr_left fun p hp => curlHeader_eq (h p hp)
  rw [curlOptions_eq_append, headers, directives, List.map_cons, List.map_cons, List.map_append]

/-- The command: the word `curl` and the directives, each on a line of its own. -/
theorem curl_eq (hd : curlData? r = .ok data)
    (h : ∀ p ∈ (r.effectiveHeaders false).entries, '\'' ∉ p.1 ∧ '\'' ∉ p.2) :
    curl r = .ok ("curl" ++ laidOut ((directives r data).map fun d => (" \\\n  ", d.text))) := by
  have pieces : laidOut ((directives r data).map fun d => (" \\\n  ", d.text)) =
      ((directives r data).map Directive.text).flatMap ((" \\\n  " : Text) ++ ·) := by
    rw [laidOut, List.flatMap_map, List.flatMap_map]
  rw [curl, hd, pieces, ← curlOptions_eq h, ← Text.join_cons]
  rfl

/-! ### What the directives ask for -/

/-- What the options of a kind are given in the command. -/
def written (r : Request) (data : Option Text) : OptionKind → List Text
  | .method => [r.method.name]
  | .url => [r.url]
  | .header => (r.effectiveHeaders false).entries.map headerText
  | .user => (sentUser? r).toList.map fun u => u.1 ++ [':'] ++ u.2
  | .body .data => data.toList
  | _ => []

/-- Directives of one kind give what they are given, and nothing for another kind. -/
theorem filterMap_given_map {ι : Type} {k k' : OptionKind} {f : ι → Directive} {t : ι → Text}
    (hk : ∀ i, (f i).kind = k') (ht : ∀ i, (f i).given = some (t i)) (items : List ι) :
    (items.map f).filterMap (Directive.given? k) = if k' = k then items.map t else [] := by
  rw [List.filterMap_map]
  split
  · rename_i h
    have given : ∀ i, (Directive.given? k ∘ f) i = some (t i) := by
      intro i
      rw [Function.comp_apply, Directive.given?, if_pos ((hk i).trans h), ht i]
    rw [funext given]
    exact congrFun List.filterMap_eq_map' items
  · rename_i h
    refine List.filterMap_eq_nil_iff.2 fun i _ => ?_
    exact Directive.given?_of_ne fun e => h ((hk i).symm.trans e)

theorem filterMap_given (k : OptionKind) :
    (directives r data).filterMap (Directive.given? k) = written r data k := by
  have header := filterMap_given_map (k := k) (f := fun p => .header false (headerText p))
    (fun _ => rfl) (fun _ => rfl) (r.effectiveHeaders false).entries
  have user := filterMap_given_map (k := k)
    (f := fun u : Text × Text => .user false (u.1 ++ [':'] ++ u.2))
    (fun _ => rfl) (fun _ => rfl) (sentUser? r).toList
  have body := filterMap_given_map (k := k) (f := Directive.body .data) (t := id)
    (fun _ => rfl) (fun _ => rfl) data.toList
  have switch : (if r.verifySsl then [] else [Directive.insecure false]).filterMap
      (Directive.given? k) = [] := by
    refine List.filterMap_eq_nil_iff.2 fun d hd => ?_
    obtain rfl := eq_insecure_of_mem hd
    by_cases h : (Directive.insecure false).kind = k
    · exact if_pos h
    · exact Directive.given?_of_ne h
  rw [List.map_id] at body
  rw [directives, trailing, List.filterMap_cons, List.filterMap_cons, List.filterMap_append,
    List.filterMap_append, List.filterMap_append, header, user, switch, body]
  -- the parts of the command, of which one at most is of the kind
  cases k with
  | body name => cases name <;> simp [Directive.given?, Directive.kind, written]
  | _ => simp [Directive.given?, Directive.kind, Directive.given, written]

end CurlSnippets.Snippet
