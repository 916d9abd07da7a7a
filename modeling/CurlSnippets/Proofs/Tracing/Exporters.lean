import CurlSnippets.Proofs.Text.Laws
import CurlSnippets.Settings
import Mathlib.Data.List.Forall2

/-!
# Exporters in a text and in a list

Exporters are configured as a list of entries or as one text with commas between the entries.  Such a
text may have blanks around its entries and pieces that are nothing but blank (`Holds`): its entries are
those of the list (`entriesIn_join`).  Reading goes through the entries in order and ends at the first
one that describes no exporter (`configs_append`, `validated_entries`).  So text and list are read
alike, wherever the setting comes from (`exporters_joined`).
-/

namespace CurlSnippets.Tracing

/-! ### Entries between commas -/

/-- A text that can be an entry: there is something in it, no comma, and no blank at either end. -/
structure IsEntry (e : Text) : Prop where
  filled : e ≠ []
  commaless : ',' ∉ e
  front : ∀ c ∈ e.head?, Text.isBlank c = false
  back : ∀ c ∈ e.getLast?, Text.isBlank c = false

instance : DecidablePred IsEntry := fun e =>
  decidable_of_iff (e ≠ [] ∧ ',' ∉ e ∧ e.head?.all (fun c => !Text.isBlank c) ∧
      e.getLast?.all fun c => !Text.isBlank c)
    ⟨fun ⟨filled, commaless, front, back⟩ =>
        ⟨filled, commaless, Text.all_not_isBlank_iff.1 front, Text.all_not_isBlank_iff.1 back⟩,
      fun h => ⟨h.filled, h.commaless, Text.all_not_isBlank_iff.2 h.front,
        Text.all_not_isBlank_iff.2 h.back⟩⟩

/-- The pieces hold the entries in order, each with blanks around it; any other piece is blank. -/
inductive Holds : (pieces entries : List Text) → Prop where
  | nil : Holds [] []
  | blank {x : Text} {pieces entries : List Text} :
      (∀ c ∈ x, Text.isBlank c) → Holds pieces entries → Holds (x :: pieces) entries
  | entry {x y e : Text} {pieces entries : List Text} :
      (∀ c ∈ x, Text.isBlank c) → (∀ c ∈ y, Text.isBlank c) → Holds pieces entries →
        Holds ((x ++ (e ++ y)) :: pieces) (e :: entries)

variable {pieces entries : List Text}

theorem trim_blanks {x : Text} (h : ∀ c ∈ x, Text.isBlank c) : Text.trim x = [] := by
  have dropped := Text.trim_append_blanks h []
  rwa [List.nil_append] at dropped

theorem notMem_blanks {x : Text} (h : ∀ c ∈ x, Text.isBlank c) : ',' ∉ x :=
  fun inside => absurd (h ',' inside) (by decide)

theorem IsEntry.trim {e x y : Text} (h : IsEntry e) (hx : ∀ c ∈ x, Text.isBlank c)
    (hy : ∀ c ∈ y, Text.isBlank c) : Text.trim (x ++ (e ++ y)) = e := by
  rw [Text.trim_blanks_append hx, Text.trim_append_blanks hy, Text.trim_eq_self h.front h.back]

theorem Holds.notMem (held : Holds pieces entries) (h : ∀ e ∈ entries, IsEntry e) :
    ∀ p ∈ pieces, ',' ∉ p := by
  induction held with
  | nil => exact List.forall_mem_nil _
  | blank hx _ ih => exact List.forall_mem_cons.2 ⟨notMem_blanks hx, ih h⟩
  | entry hx hy _ ih =>
    obtain ⟨first, others⟩ := List.forall_mem_cons.1 h
    refine List.forall_mem_cons.2 ⟨?_, ih others⟩
    simp [notMem_blanks hx, first.commaless, notMem_blanks hy]

/-- Of the pieces the entries are left when blanks are trimmed and what is blank is dropped. -/
theorem Holds.filter_trim (held : Holds pieces entries) (h : ∀ e ∈ entries, IsEntry e) :
    (pieces.map Text.trim).filter (fun e => !e.isEmpty) = entries := by
  induction held with
  | nil => rfl
  | blank hx _ ih =>
    rw [List.map_cons, trim_blanks hx]
    exact ih h
  | entry hx hy _ ih =>
    obtain ⟨first, others⟩ := List.forall_mem_cons.1 h
    rw [List.map_cons, first.trim hx hy, List.filter_cons_of_pos (by simpa using first.filled),
      ih others]

/-- The entries of a text are those that its pieces hold. -/
theorem entriesIn_join (held : Holds pieces entries) (h : ∀ e ∈ entries, IsEntry e) :
    entriesIn (Text.join "," pieces) = entries := by
  by_cases empty : pieces = []
  · -- no pieces: the empty text splits into one empty piece
    subst empty
    cases held
    decide
  · have apart : Text.split ',' (Text.join "," pieces) = pieces :=
      Text.split_join empty (held.notMem h)
    rw [entriesIn, apart, held.filter_trim h]

/-! ### Entries in order -/

/-- A list is gone through up to the first of its elements that stands in a relation to nothing. -/
theorem exists_done {α β : Type} (R : α → β → Prop) (l : List α) :
    ∃ done out rest, l = done ++ rest ∧ List.Forall₂ R done out ∧ ∀ a ∈ rest.head?, ∀ b, ¬ R a b := by
  induction l with
  | nil => exact ⟨[], [], [], rfl, .nil, by simp⟩
  | cons a l ih =>
    -- the walk goes on, or ends here
    by_cases related : ∃ b, R a b
    · obtain ⟨b, hb⟩ := related
      obtain ⟨done, out, rest, rfl, all, stop⟩ := ih
      exact ⟨a :: done, b :: out, rest, rfl, .cons hb all, stop⟩
    · exact ⟨[], [], a :: l, rfl, .nil, by simpa using related⟩

theorem exists_of_forall₂ {α β : Type} {R : α → β → Prop} {l : List α} {m : List β}
    (h : List.Forall₂ R l m) : ∀ a ∈ l, ∃ b, R a b :=
  ((List.forall₂_and_left l m).1 (h.imp fun _ b hab => ⟨⟨b, hab⟩, hab⟩)).1

theorem configs_cons_of_ok {e : Entry} {c : Config} (h : e.config? = .ok c) (es : List Entry) :
    configs (e :: es) = (configs es).map (c :: ·) := by
  rw [configs, h]

theorem configs_cons_of_error {e : Entry} {x : ConfigError} (h : e.config? = .error x)
    (es : List Entry) : configs (e :: es) = .error x := by
  rw [configs, h]

/-- Behind entries that describe exporters, reading goes on with the rest. -/
theorem configs_append {done : List Entry} {cs : List Config}
    (h : List.Forall₂ (fun e c => e.config? = .ok c) done cs) (rest : List Entry) :
    configs (done ++ rest) = (configs rest).map (cs ++ ·) := by
  induction h with
  | nil =>
    show configs rest = (configs rest).map id
    cases configs rest <;> rfl
  | cons first _ ih =>
    rw [List.cons_append, configs_cons_of_ok first, ih]
    cases configs rest <;> rfl

/-! ### The setting -/

/-- What the setting becomes: the exporters of all entries, or the error of the first entry that
describes none. -/
inductive Validated : List Text → Except Settings.Fault (Option (List Config)) → Prop where
  | all {es : List Text} {cs : List Config} :
      List.Forall₂ (fun e c => Config.ofText e = .ok c) es cs → Validated es (.ok (some cs))
  | first {before after : List Text} {e : Text} {cause : ConfigError} :
      (∀ b ∈ before, ∃ c, Config.ofText b = .ok c) → Config.ofText e = .error cause →
        Validated (before ++ e :: after) (.error (.exporter cause))

theorem Validated.exists_of_ok {es : List Text} {accepted : Option (List Config)}
    (h : Validated es (.ok accepted)) :
    ∃ cs, accepted = some cs ∧ List.Forall₂ (fun e c => Config.ofText e = .ok c) es cs := by
  cases h with
  | all described => exact ⟨_, rfl, described⟩

theorem readExporters_of_ok {source : Source} {cs : Option (List Config)}
    (h : source.read = .ok cs) : Settings.readExporters source = .ok cs := by
  rw [Settings.readExporters, h]

theorem readExporters_of_error {source : Source} {cause : ConfigError}
    (h : source.read = .error cause) :
    Settings.readExporters source = .error (.exporter cause) := by
  rw [Settings.readExporters, h]

theorem validated_entries (es : List Text) :
    Validated es (Settings.readExporters (.entries (es.map .text))) := by
  obtain ⟨done, cs, rest, rfl, described, stop⟩ :=
    exists_done (fun e c => Config.ofText e = .ok c) es
  have read : ∀ after, configs ((done ++ after).map Entry.text) =
      (configs (after.map Entry.text)).map (cs ++ ·) := by
    intro after
    rw [List.map_append]
    exact configs_append (List.forall₂_map_left_iff.2 described) _
  cases rest with
  | nil =>
    have all : (Source.entries ((done ++ []).map .text)).read = .ok (some cs) := by
      rw [Source.read, read, List.map_nil, configs, Except.map, Except.map, List.append_nil]
    rw [readExporters_of_ok all, List.append_nil]
    exact .all described
  | cons e after =>
    obtain ⟨cause, refused⟩ : ∃ cause, Config.ofText e = .error cause := by
      cases he : Config.ofText e with
      | error cause => exact ⟨cause, rfl⟩
      | ok c => exact absurd he (stop e rfl c)
    have first : (Source.entries ((done ++ e :: after).map .text)).read = .error cause := by
      rw [Source.read, read, List.map_cons, configs_cons_of_error (e := .text e) refused,
        Except.map, Except.map]
    rw [readExporters_of_error first]
    exact .first (exists_of_forall₂ described) refused

/-- Pieces with commas between them are read as the list of the entries that they hold. -/
theorem readExporters_join (held : Holds pieces entries) (h : ∀ e ∈ entries, IsEntry e) :
    Settings.readExporters (.text (Text.join "," pieces)) =
      Settings.readExporters (.entries (entries.map .text)) := by
  rw [Settings.readExporters, Source.read, entriesIn_join held h, Settings.readExporters, Source.read]

/-- Nothing else in the settings depends on how the exporters are given. -/
theorem read_congr {env : Settings.Environment} {given : Settings.Given} {s s' : Option Source}
    {source source' : Source}
    (hs : (s <|> (Settings.fromEnvironment? env .tracingExporters).map .text) = some source)
    (hs' : (s' <|> (Settings.fromEnvironment? env .tracingExporters).map .text) = some source')
    (same : Settings.readExporters source = Settings.readExporters source') :
    Settings.read env { given with tracingExporters := s } =
      Settings.read env { given with tracingExporters := s' } := by
  have alike : Settings.readOr none Settings.readExporters (some source) =
      Settings.readOr none Settings.readExporters (some source') := same
  simp only [Settings.read, hs, hs', alike]

/-- **Exporters in a text and in a list** mean the same, as a value that is given and in the
environment: all of them are configured in order, or the first entry that describes none is refused. -/
theorem exporters_joined (held : Holds pieces entries) (h : ∀ e ∈ entries, IsEntry e) :
    Validated entries (Settings.readExporters (.entries (entries.map .text))) ∧
      Settings.readExporters (.text (Text.join "," pieces)) =
        Settings.readExporters (.entries (entries.map .text)) ∧
      ∀ (env : Settings.Environment) (given : Settings.Given),
        Settings.read env { given with tracingExporters := some (.text (Text.join "," pieces)) } =
            Settings.read env { given with tracingExporters := some (.entries (entries.map .text)) } ∧
          (env.lookup ("CURLBRIDGE_TRACING_EXPORTERS" : Text) = some (Text.join "," pieces) →
            Settings.read env { given with tracingExporters := none } =
              Settings.read env
                { given with tracingExporters := some (.entries (entries.map .text)) }) := by
  have same := readExporters_join held h
  refine ⟨validated_entries entries, same, fun env given => ⟨read_congr rfl rfl same, fun set => ?_⟩⟩
  have found : Settings.fromEnvironment? env .tracingExporters = some (Text.join "," pieces) := by
    have names : Settings.Field.environmentNames .tracingExporters =
        [("CURLBRIDGE_TRACING_EXPORTERS" : Text)] := by decide +kernel
    rw [Settings.fromEnvironment?, names, List.findSome?_cons, set]
  exact read_congr (by rw [found]; rfl) rfl same

example : Settings.readExporters (.text ", console\t,\u2003,otlp+grpc://h?secure=0\n") =
    .ok (some [⟨"console", [], true⟩, ⟨"otlp+grpc", "h", false⟩]) := by decide +kernel

/-- An environment with exporters in one text. -/
def withExporters (t : Text) : Settings.Environment := [("CURLBRIDGE_TRACING_EXPORTERS", t)]

/-- Blank pieces do not count, and of two entries that describe no exporter the first is refused. -/
theorem exporters_joined_refused :
    Holds [" console", "\t", "jaeger://a ", "b", []] ["console", "jaeger://a", "b"] ∧
      (∀ e ∈ [("console" : Text), "jaeger://a", "b"], IsEntry e) ∧
      Settings.read (withExporters " console,\t,jaeger://a ,b,") {} =
        Settings.read (withExporters " console,\t,jaeger://a ,b,")
          { tracingExporters := some (.entries [.text "console", .text "jaeger://a", .text "b"]) } ∧
      Settings.read (withExporters " console,\t,jaeger://a ,b,") {} =
        .error [(.tracingExporters, .exporter (.scheme "jaeger://a"))] := by
  have none : ∀ c ∈ ([] : Text), Text.isBlank c := List.forall_mem_nil _
  have space : ∀ c ∈ [' '], Text.isBlank c := List.forall_mem_singleton.2 (by decide)
  have tab : ∀ c ∈ ['\t'], Text.isBlank c := List.forall_mem_singleton.2 (by decide)
  have held : Holds [" console", "\t", "jaeger://a ", "b", []] ["console", "jaeger://a", "b"] :=
    .entry (e := "console") space none (.blank tab (.entry (e := "jaeger://a") none space
      (.entry (e := "b") none none (.blank none .nil))))
  have entries : ∀ e ∈ [("console" : Text), "jaeger://a", "b"], IsEntry e := by decide +kernel
  have settings := (exporters_joined held entries).2.2 (withExporters " console,\t,jaeger://a ,b,") {}
  exact ⟨held, entries, settings.2 (by decide +kernel), by decide +kernel⟩

end CurlSnippets.Tracing
