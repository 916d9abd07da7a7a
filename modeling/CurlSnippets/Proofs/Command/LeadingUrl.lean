import CurlSnippets.Proofs.Command.NamedUrl
import CurlSnippets.Proofs.Command.Stretches

/-!
# The url behind the leading word

A bare url right behind the word `curl` that a command begins with.  The rules for the url are tried by
rank, and each one is searched in the whole command.  The rule for a bare url matches at the leading word
(`first?_bare_leading`), before anything that a later url or url option could say.  The rule for a quoted
url comes before it and cannot match there, but may match at the word `curl` further on: inside a quoted
body, or at the end of the url itself.  Its url is then taken, and the leading one only where there is no
other (`findUrl_leading`, `leading_url_iff`).
-/

namespace CurlSnippets.Command

open Pattern

/-! ### The normal layout of a beginning -/

theorem Parted.of_begins {s t : Text} (h : Parted t) (hs : s <+: t) : Parted s := by
  intro c hc
  obtain ⟨u, rfl⟩ := hs
  exact h c (by rw [List.head?_append, Option.mem_def.1 hc, Option.some_or]; rfl)

theorem Parted.joinLines {t : Text} (h : Parted t) : Parted (joinLines t) := by
  cases t with
  | nil => exact parted_nil
  | cons c t =>
    have blank := h c (by simp)
    rw [joinLines_blank_cons blank]
    exact parted_cons blank _

theorem Parted.squeeze {t : Text} (h : Parted t) : Parted (squeeze 0 t) := by
  cases t with
  | nil => exact parted_nil
  | cons c t =>
    obtain ⟨u, hu⟩ := exists_squeeze_blank (h c (by simp)) t
    rw [hu]
    exact parted_cons (by decide) u

/-- Only blanks behind a kept piece are trimmed. -/
theorem Kept.trim_append {t : Text} (h : Kept t) (s : Text) :
    Text.trim (t ++ s) = t ++ s.rdropWhile Text.isBlank := by
  obtain ⟨c, u, hu, hc⟩ := h.first
  obtain ⟨v, d, hv, hd⟩ := h.last
  -- a kept piece begins with no blank
  have front : (t ++ s).dropWhile Text.isBlank = t ++ s := by
    rw [hu, List.cons_append, List.dropWhile_cons_of_neg (by simp [hc])]
  rw [Text.trim_eq, front]
  clear front
  -- from the end: the trimming stops in `s`, or at the last character of the piece
  induction s using List.reverseRecOn with
  | nil => rw [List.append_nil, hv, List.rdropWhile_concat_neg _ _ _ (by simp [hd])]; simp
  | append_singleton s e ih =>
    rw [← List.append_assoc, List.rdropWhile_concat, List.rdropWhile_concat, ih]
    split
    · rfl
    · rw [List.append_assoc]

/-- A kept piece stays at the beginning of a command, and what is squeezed behind it loses at most blanks
at its end. -/
theorem Kept.normalize_append {t rest : Text} (h : Kept t) (hr : Parted rest) :
    ∃ tail, tail <+: Command.squeeze 0 (Command.joinLines rest) ∧
      normalize (t ++ rest) = t ++ tail := by
  have begins := List.rdropWhile_prefix Text.isBlank (Command.squeeze 0 (Command.joinLines rest))
  refine ⟨_, begins, ?_⟩
  rw [normalize, h.joinLines, h.squeeze _ hr.joinLines, h.trim_append]

/-! ### Words of the normal layout -/

/-- The second text is the first with a space in the place of some stretches. -/
inductive Blanked : Text → Text → Prop where
  | nil : Blanked [] []
  | keep (c : Char) {s t : Text} : Blanked s t → Blanked (c :: s) (c :: t)
  | space (x : Text) {s t : Text} : Blanked s t → Blanked (x ++ s) (' ' :: t)

theorem blanked_joinLines (t : Text) : Blanked t (joinLines t) := by
  fun_induction joinLines t with
  | case1 => exact .nil
  | case2 rest ih => exact .space ['\\', '\r', '\n'] ih
  | case3 rest ih => exact .space ['\\', '\n'] ih
  | case4 c rest _ _ ih => exact .keep c ih

theorem blanked_squeeze (k : Nat) (t : Text) : Blanked t (squeeze k t) := by
  fun_induction squeeze k t with
  | case1 => exact .nil
  | case2 k c rest ih => exact .keep c ih
  | case3 c rest n span ih => exact .keep c ih
  | case4 c rest _ _ next ih =>
    -- a blank before other blanks joins the stretch that their space stands for
    obtain ⟨d, v, rfl⟩ : ∃ d v, rest = d :: v := by
      cases rest with
      | nil => exact absurd next (by decide)
      | cons d v => exact ⟨d, v, rfl⟩
    obtain ⟨u, hu⟩ := exists_squeeze_blank next v
    rw [hu] at ih ⊢
    generalize hr : d :: v = rest at ih
    cases ih with
    | keep _ tail => exact .space [c, ' '] tail
    | space x tail => exact .space (c :: x) tail
  | case5 c rest _ _ _ ih => exact .space [c] ih
  | case6 c rest _ _ ih => exact .keep c ih

theorem Blanked.append {s t : Text} (h : Blanked s t) (x : Text) : Blanked (x ++ s) (x ++ t) := by
  induction x with
  | nil => exact h
  | cons c x ih => exact .keep c ih

section Blanked

variable {s t w : Text} (hw : ∀ c ∈ w, Text.isBlank c = false)

include hw

theorem Blanked.begins (h : Blanked s t) (hp : w <+: t) : w <+: s := by
  induction h generalizing w with
  | nil => exact hp
  | keep c _ ih =>
    cases w with
    | nil => exact List.nil_prefix
    | cons d w =>
      obtain ⟨rfl, tail⟩ := List.cons_prefix_cons.1 hp
      exact List.cons_prefix_cons.2 ⟨rfl, ih (fun e he => hw e (List.mem_cons_of_mem _ he)) tail⟩
  | space x _ ih =>
    -- the space is none of the word, so the word is empty
    cases w with
    | nil => exact List.nil_prefix
    | cons d w =>
      obtain ⟨rfl, -⟩ := List.cons_prefix_cons.1 hp
      exact absurd (hw ' ' (by simp)) (by decide)

/-- A word was there before any space was put into the text. -/
theorem Blanked.occurs (h : Blanked s t) (hi : w <:+: t) : w <:+: s := by
  induction h with
  | nil => exact hi
  | keep c h ih =>
    -- a word that begins here was begun here before
    rcases List.infix_cons_iff.1 hi with first | later
    · exact (Blanked.begins hw (.keep c h) first).isInfix
    · exact (ih later).trans (List.suffix_cons c _).isInfix
  | space x h ih =>
    rcases List.infix_cons_iff.1 hi with first | later
    · exact (Blanked.begins hw (.space x h) first).isInfix
    · exact (ih later).trans (List.suffix_append x _).isInfix

end Blanked

/-! ### The rules at the leading word -/

section Leading

variable {u rest : Text}

theorem bare?_append (hne : u ≠ []) (hu : ∀ c ∈ u, isBare c) (hr : Parted rest) :
    bare? (u ++ rest) = some (u, rest) := by
  have stop : ∀ c ∈ rest.head?, isBare c = false := by
    intro c hc
    simp [isBare, hr c hc]
  obtain ⟨taken, left⟩ := Text.run_append_of_head? hu stop
  obtain ⟨c, v, rfl⟩ := List.exists_cons_of_ne_nil hne
  simp only [bare?, taken, left]

theorem dropBlanks_bare (hne : u ≠ []) (hu : ∀ c ∈ u, isBare c) (rest : Text) :
    Text.dropBlanks (u ++ rest) = u ++ rest := by
  obtain ⟨c, v, rfl⟩ := List.exists_cons_of_ne_nil hne
  have solid : Text.isBlank c = false := (isBare_iff.1 (hu c (by simp))).1
  rw [Text.dropBlanks, List.cons_append, List.dropWhile_cons_of_neg (by simp [solid])]

/-- The rule for a bare url takes the one behind the leading word. -/
theorem first?_bare_leading (hne : u ≠ []) (hu : ∀ c ∈ u, isBare c) (hr : Parted rest) :
    (afterCurl bare?).first? ("curl" ++ ' ' :: (u ++ rest)) = some u := by
  have read : bare? (Text.dropBlanks (u ++ rest)) = some (u, rest) := by
    rw [dropBlanks_bare hne hu, bare?_append hne hu hr]
  exact first?_afterCurl read

/-- The url is that of the rule for quoted urls, and the leading one where that rule finds none. -/
theorem findUrl_leading (hurl : looksLikeUrl u) (hu : ∀ c ∈ u, isBare c) (hr : Parted rest) :
    findUrl ("curl" ++ ' ' :: (u ++ rest)) =
      some ((((afterCurl quotedUrl?).first? ("curl" ++ ' ' :: (u ++ rest))).filter
        looksLikeUrl).getD u) := by
  have hne : u ≠ [] := by rintro rfl; exact absurd hurl (by decide)
  rw [findUrl, List.findSome?_cons]
  cases ((afterCurl quotedUrl?).first? ("curl" ++ ' ' :: (u ++ rest))).filter looksLikeUrl with
  -- a quoted url was found further on
  | some v => rfl
  | none =>
    -- the next rule is that for the bare one behind the word
    simp only [List.findSome?_cons, first?_bare_leading hne hu hr, Option.filter_some, if_pos hurl]
    rfl

end Leading

/-! ### Reading the command -/

/-- What is found and passes a test is taken instead of `a`; it is `a` exactly if nothing else passes. -/
theorem getD_filter_eq_iff {α : Type} {o : Option α} {p : α → Bool} {a : α} :
    (o.filter p).getD a = a ↔ ∀ b, o = some b → p b → b = a := by
  cases o with
  | none => simp
  | some b =>
    rw [Option.filter_some]
    by_cases hb : p b <;> simp [hb]

theorem url_readCommand (command : Text) (defaults : Request) :
    (readCommand command defaults).request.url =
      (findUrl (normalize command)).getD defaults.url := by
  rw [request_readCommand]
  rfl

theorem queryParams_readCommand (command : Text) (defaults : Request) :
    (readCommand command defaults).request.queryParams =
      ((findUrl (normalize command)).map Url.queryParams).getD defaults.queryParams := by
  rw [request_readCommand]
  rfl

section Command

variable {u rest : Text} (hurl : looksLikeUrl u) (hu : ∀ c ∈ u, isBare c ∧ c ≠ '\\')
  (hr : Parted rest)

include hurl hu hr

/-- The normal layout keeps the word and the url behind it, and blank or at its end is what follows. -/
theorem exists_normalize_leading : ∃ tail, Parted tail ∧ tail <+: squeeze 0 (joinLines rest) ∧
    normalize ("curl " ++ u ++ rest) = "curl" ++ ' ' :: (u ++ tail) := by
  have hne : u ≠ [] := by rintro rfl; exact absurd hurl (by decide)
  have kept : Kept ("curl" ++ ' ' :: u) := kept_curl.spaced <|
    Kept.of_isBare hne (fun c hc => (hu c hc).1) fun last => (hu _ (List.mem_of_getLast? last)).2 rfl
  obtain ⟨tail, begins, normal⟩ := kept.normalize_append hr
  refine ⟨tail, hr.joinLines.squeeze.of_begins begins, begins, ?_⟩
  rw [show ("curl " ++ u ++ rest : Text) = "curl" ++ ' ' :: u ++ rest by simp, normal,
    List.append_assoc, List.cons_append]

/-- Where `curl` is not written again no quoted url is found. -/
theorem first?_quotedUrl_of_notIn (alone : Text.occursIn "curl" (u ++ rest) = false) :
    (afterCurl quotedUrl?).first? (normalize ("curl " ++ u ++ rest)) = none := by
  obtain ⟨tail, parted, begins, normal⟩ := exists_normalize_leading hurl hu hr
  have hne : u ≠ [] := by rintro rfl; exact absurd hurl (by decide)
  have bare : ∀ c ∈ u, isBare c := fun c hc => (hu c hc).1
  have joined : Blanked (u ++ rest) (u ++ joinLines rest) := (blanked_joinLines rest).append u
  have squeezed : Blanked (u ++ joinLines rest) (u ++ squeeze 0 (joinLines rest)) :=
    (blanked_squeeze 0 _).append u
  have solid : ∀ c ∈ ("curl" : Text), Text.isBlank c = false := by decide
  -- the normal layout has brought no `curl` about: spaces are all it puts in
  have alone' : Text.occursIn "curl" (u ++ tail) = false := by
    refine Bool.eq_false_iff.2 fun found => Bool.eq_false_iff.1 alone ?_
    have kept := (Text.occursIn_iff.1 found).trans ((List.prefix_append_right_inj u).2 begins).isInfix
    exact Text.occursIn_iff.2 (joined.occurs solid (squeezed.occurs solid kept))
  -- and right behind the word stands no quote
  have unquoted : quotedUrl? (Text.dropBlanks (u ++ tail)) = none := by
    rw [dropBlanks_bare hne bare]
    obtain ⟨c, v, rfl⟩ := List.exists_cons_of_ne_nil hne
    obtain ⟨-, hs, hd⟩ := isBare_iff.1 (bare c (by simp))
    simp [quotedUrl?, hs, hd]
  rw [normal]
  refine first?_quotedUrl_eq_none unquoted (occurs_curlWord_of_notIn ?_ parted_nil _)
  rw [Text.occursIn, alone', Bool.or_false]
  simp [Text.beginsWith, Text.after?_cons]

theorem findUrl_normalize_leading : findUrl (normalize ("curl " ++ u ++ rest)) =
    some ((((afterCurl quotedUrl?).first? (normalize ("curl " ++ u ++ rest))).filter
      looksLikeUrl).getD u) := by
  obtain ⟨tail, parted, -, normal⟩ := exists_normalize_leading hurl hu hr
  rw [normal, findUrl_leading hurl (fun c hc => (hu c hc).1) parted]

/-- A leading url counts whatever follows it, as long as `curl` is not written there again. -/
theorem leading_url_of_notIn (alone : Text.occursIn "curl" (u ++ rest) = false)
    (defaults : Request) : (readCommand ("curl " ++ u ++ rest) defaults).request.url = u := by
  rw [url_readCommand, findUrl_normalize_leading hurl hu hr,
    first?_quotedUrl_of_notIn hurl hu hr alone]
  rfl

/-- **A url behind the leading word.**  The request has it, and its parameters, exactly if the rule for
quoted urls finds no other behind a later word `curl`. -/
theorem leading_url_iff (defaults : Request) :
    ((readCommand ("curl " ++ u ++ rest) defaults).request.url = u ∧
      (readCommand ("curl " ++ u ++ rest) defaults).request.queryParams = Url.queryParams u) ↔
    ∀ v, (afterCurl quotedUrl?).first? (normalize ("curl " ++ u ++ rest)) = some v →
      looksLikeUrl v → v = u := by
  rw [url_readCommand, queryParams_readCommand, findUrl_normalize_leading hurl hu hr,
    ← getD_filter_eq_iff, Option.map_some, Option.getD_some, Option.getD_some]
  exact ⟨And.left, fun h => ⟨h, congrArg Url.queryParams h⟩⟩

end Command

/-- Other urls, url options and quoted texts do not count behind a leading url. -/
theorem leading_url_iff_crowded :
    (readCommand "curl /a?x=1 --url '/b' 'http://i' -d '\"/c\"'" {}).request.url = "/a?x=1" ∧
      (readCommand "curl /a?x=1 --url '/b' 'http://i' -d '\"/c\"'" {}).request.queryParams =
        Url.queryParams "/a?x=1" := by
  have only := @leading_url_iff "/a?x=1" " --url '/b' 'http://i' -d '\"/c\"'" (by decide)
    (by decide) (parted_cons (by decide) _) {}
  have quoted : (afterCurl quotedUrl?).first?
      (normalize ("curl " ++ "/a?x=1" ++ " --url '/b' 'http://i' -d '\"/c\"'")) = none := by
    decide +kernel
  exact only.2 fun v found => absurd (quoted.symm.trans found) (by simp)

/-- A quoted url behind the word `curl` in the text of a body is taken for the url of the command. -/
theorem url_of_curl_in_body :
    looksLikeUrl "https://h/a" ∧ (∀ c ∈ ("https://h/a" : Text), isBare c ∧ c ≠ '\\') ∧
      (readCommand "curl https://h/a -d 'see curl \"https://i/b\"'" {}).request.url =
        "https://i/b" := by
  decide +kernel

end CurlSnippets.Command
