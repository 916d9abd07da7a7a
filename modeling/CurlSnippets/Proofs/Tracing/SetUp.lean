import CurlSnippets.Proofs.Tracing.Exporters
import CurlSnippets.Tracing.SetUp

/-!
# Set-up is all or nothing

Set-up goes through the configured exporters in order.  For one of a supported scheme it attaches the
exporter that sends where the configuration says (`Sends`, `exporter?_eq_some_iff`) and goes on
(`acts_append`); the first of any other scheme ends it with an error.  The provider is installed behind
all of them, so that no failure leaves one in use (`setUp_allOrNothing`).
-/

namespace CurlSnippets.Tracing

/-! ### One exporter -/

/-- The schemes that set-up supports. -/
def supported : List Text := ["otlp+https", "otlp+http", "otlp+grpc", "console"]

/-- The exporter sends where a configuration of a supported scheme says. -/
inductive Sends : Config → Exporter → Prop where
  | console (host : Text) (secure : Bool) : Sends ⟨"console", host, secure⟩ .console
  | https (host : Text) (secure : Bool) :
      Sends ⟨"otlp+https", host, secure⟩ (.http ("https://" ++ host))
  | http (host : Text) (secure : Bool) :
      Sends ⟨"otlp+http", host, secure⟩ (.http ("http://" ++ host))
  | grpc (host : Text) (secure : Bool) : Sends ⟨"otlp+grpc", host, secure⟩ (.grpc host (!secure))

theorem Scheme.sends (s : Scheme) (c : Config) (h : c.scheme = s.name) :
    Sends c (s.exporter c) := by
  obtain ⟨scheme, host, secure⟩ := c
  obtain rfl : scheme = s.name := h
  cases s with
  | otlpHttps => exact .https host secure
  | otlpHttp => exact .http host secure
  | otlpGrpc => exact .grpc host secure
  | console => exact .console host secure

theorem exporter?_of_sends {c : Config} {e : Exporter} (h : Sends c e) : c.exporter? = some e := by
  cases h with
  | console | https | http | grpc => rfl

/-- A configuration stands for the exporter that sends where it says. -/
theorem exporter?_eq_some_iff {c : Config} {e : Exporter} : c.exporter? = some e ↔ Sends c e := by
  refine ⟨fun h => ?_, exporter?_of_sends⟩
  obtain ⟨s, named, rfl⟩ := Option.map_eq_some_iff.1 h
  exact s.sends c (Scheme.name_eq_of_ofName? named).symm

/-- An exporter is there for the supported schemes and no others. -/
theorem exists_sends_iff {c : Config} : (∃ e, Sends c e) ↔ c.scheme ∈ supported := by
  constructor
  · rintro ⟨e, h⟩
    cases h with
    | console | https | http | grpc => simp [supported]
  · intro h
    have names : supported = Scheme.all.map Scheme.name := rfl
    rw [names] at h
    obtain ⟨s, -, hs⟩ := List.mem_map.1 h
    exact ⟨_, s.sends c hs.symm⟩

/-! ### The acts of set-up -/

theorem acts_cons_of_sends {c : Config} {e : Exporter} (h : Sends c e) (cs : List Config) :
    acts (c :: cs) = (.attach e :: (acts cs).1, (acts cs).2) := by
  rw [acts, exporter?_of_sends h]

theorem acts_cons_of_notMem {c : Config} (h : c.scheme ∉ supported) (cs : List Config) :
    acts (c :: cs) = ([], some ⟨c.scheme⟩) := by
  have none : c.exporter? = none := by
    rw [Option.eq_none_iff_forall_ne_some]
    exact fun e he => h (exists_sends_iff.1 ⟨e, exporter?_eq_some_iff.1 he⟩)
  rw [acts, none]

/-- Behind exporters that are attached in order, set-up goes on with the rest. -/
theorem acts_append {done : List Config} {es : List Exporter} (h : List.Forall₂ Sends done es)
    (rest : List Config) :
    acts (done ++ rest) = (es.map .attach ++ (acts rest).1, (acts rest).2) := by
  induction h with
  | nil => rfl
  | cons first _ ih =>
    rw [List.cons_append, acts_cons_of_sends first, ih, List.map_cons, List.cons_append]

theorem setUp_eq {cs : List Config} (h : cs ≠ []) :
    setUp true (some cs) = ⟨(acts cs).1, (acts cs).2, [startRecord]⟩ := by
  obtain ⟨c, cs, rfl⟩ := List.exists_cons_of_ne_nil h
  rfl

/-! ### How set-up ends -/

/-- Set-up went through: it attached the exporters of all configurations, each where its own says, and
installed the provider behind them. -/
structure Completed (cs : List Config) (es : List Exporter) (o : Outcome) : Prop where
  sends : List.Forall₂ Sends cs es
  acts : o.acts = es.map .attach ++ [.install]
  failure : o.failure = none

/-- Set-up met a configuration of no kind: it attached the exporters of those before it, failed with its
scheme and installed no provider. -/
structure BrokenOff (done : List Config) (met : Config) (es : List Exporter) (o : Outcome) : Prop where
  sends : List.Forall₂ Sends done es
  acts : o.acts = es.map .attach
  failure : o.failure = some ⟨met.scheme⟩
  installed : o.installed = false

variable {cs : List Config}

theorem exists_completed (filled : cs ≠ []) (all : ∀ c ∈ cs, c.scheme ∈ supported) :
    ∃ es, Completed cs es (setUp true (some cs)) := by
  obtain ⟨done, es, rest, rfl, sends, stop⟩ := exists_done Sends cs
  cases rest with
  | nil =>
    -- nothing is left, so all of them are attached
    rw [List.append_nil] at filled ⊢
    have run := acts_append sends []
    rw [List.append_nil] at run
    rw [setUp_eq filled, run]
    exact ⟨es, sends, rfl, rfl⟩
  | cons c after =>
    -- the next one is of a supported scheme, and yet stands for no exporter
    obtain ⟨e, he⟩ := exists_sends_iff.2 (all c (List.mem_append_right done List.mem_cons_self))
    exact absurd he (stop c rfl e)

theorem exists_brokenOff (filled : cs ≠ []) (other : ∃ c ∈ cs, c.scheme ∉ supported) :
    ∃ done c after es, cs = done ++ c :: after ∧ (∀ b ∈ done, b.scheme ∈ supported) ∧
      c.scheme ∉ supported ∧ BrokenOff done c es (setUp true (some cs)) := by
  obtain ⟨done, es, rest, rfl, sends, stop⟩ := exists_done Sends cs
  have before : ∀ b ∈ done, b.scheme ∈ supported :=
    fun b hb => exists_sends_iff.1 (exists_of_forall₂ sends b hb)
  cases rest with
  | nil =>
    -- all are of supported schemes, and one is not
    obtain ⟨c, hc, refused⟩ := other
    rw [List.append_nil] at hc
    exact absurd (before c hc) refused
  | cons c after =>
    have refused : c.scheme ∉ supported := fun h => (exists_sends_iff.2 h).elim (stop c rfl)
    refine ⟨done, c, after, es, rfl, before, refused, ?_⟩
    rw [setUp_eq filled, acts_append sends, acts_cons_of_notMem refused, List.append_nil]
    exact ⟨sends, rfl, rfl, by simp [Outcome.installed]⟩

/-- **Set-up is all or nothing.**  If all schemes are supported, it goes through.  Otherwise the first
configuration of another scheme breaks it off. -/
theorem setUp_allOrNothing (filled : cs ≠ []) :
    ((∀ c ∈ cs, c.scheme ∈ supported) → ∃ es, Completed cs es (setUp true (some cs))) ∧
      ((∃ c ∈ cs, c.scheme ∉ supported) → ∃ done c after es, cs = done ++ c :: after ∧
        (∀ b ∈ done, b.scheme ∈ supported) ∧ c.scheme ∉ supported ∧
        BrokenOff done c es (setUp true (some cs))) :=
  ⟨exists_completed filled, exists_brokenOff filled⟩

/-- Configurations of every supported scheme, of which two are not secure. -/
def fleet : List Config :=
  [⟨"console", "h", true⟩, ⟨"otlp+grpc", "h:1", false⟩, ⟨"otlp+https", "h", true⟩,
    ⟨"otlp+http", "h", false⟩]

theorem setUp_allOrNothing_fleet :
    (∀ c ∈ fleet, c.scheme ∈ supported) ∧ (∃ es, Completed fleet es (setUp true (some fleet))) ∧
      (∃ c ∈ fleet ++ ⟨"jaeger", "h", true⟩ :: fleet, c.scheme ∉ supported) ∧
      ∃ done c after es, fleet ++ ⟨"jaeger", "h", true⟩ :: fleet = done ++ c :: after ∧
        (∀ b ∈ done, b.scheme ∈ supported) ∧ c.scheme ∉ supported ∧
        BrokenOff done c es (setUp true (some (fleet ++ ⟨"jaeger", "h", true⟩ :: fleet))) := by
  have all : ∀ c ∈ fleet, c.scheme ∈ supported := by decide
  have other : ∃ c ∈ fleet ++ ⟨"jaeger", "h", true⟩ :: fleet, c.scheme ∉ supported := by decide
  exact ⟨all, (setUp_allOrNothing (by decide)).1 all, other,
    (setUp_allOrNothing (by decide)).2 other⟩

/-! ### Exporters from the settings -/

/-- All schemes that set-up looks at are supported; it looks at none if tracing is not available. -/
def Supports (available : Bool) (exporters : Option (List Config)) : Prop :=
  available = true → ∀ cs, exporters = some cs → ∀ c ∈ cs, c.scheme ∈ supported

variable {available : Bool} {exporters : Option (List Config)}

theorem failure_setUp_of_supports (h : Supports available exporters) :
    (setUp available exporters).failure = none := by
  cases available with
  | false =>
    cases exporters with
    | none => rfl
    | some cs => cases cs <;> rfl
  | true =>
    cases exporters with
    | none => rfl
    | some cs =>
      rcases eq_or_ne cs [] with rfl | filled
      · rfl
      · obtain ⟨es, completed⟩ := exists_completed filled (h rfl cs rfl)
        exact completed.failure

theorem exists_failure_setUp (h : ¬ Supports available exporters) :
    ∃ scheme ∉ supported, (setUp available exporters).failure = some ⟨scheme⟩ := by
  simp only [Supports, not_forall] at h
  obtain ⟨rfl, cs, rfl, other⟩ := h
  obtain ⟨c, mem, refused⟩ : ∃ c ∈ cs, c.scheme ∉ supported := by simpa using other
  obtain ⟨_, first, _, _, -, -, refused, broken⟩ :=
    exists_brokenOff (List.ne_nil_of_mem mem) ⟨c, mem, refused⟩
  exact ⟨first.scheme, refused, broken.failure⟩

theorem scheme_mem_supported {t : Text} {c : Config} (h : Config.ofText t = .ok c) :
    c.scheme ∈ supported := by
  have named : ∀ s : Scheme, s.name ∈ supported := fun s => by cases s <;> decide
  rw [Config.ofText] at h
  split at h
  · -- the word for the console
    obtain rfl := Except.ok.inj h
    exact named .console
  · split at h
    · exact nomatch h
    · split at h
      · exact nomatch h
      · obtain rfl := Except.ok.inj h
        exact named _

/-- What the settings accept from a text, set-up does not refuse. -/
theorem failure_setUp_of_read {t : Text} {accepted : Option (List Config)}
    (h : Settings.readExporters (.text t) = .ok accepted) (available : Bool) :
    (setUp available accepted).failure = none := by
  have validated : Validated (entriesIn t) (.ok accepted) := h ▸ validated_entries (entriesIn t)
  obtain ⟨cs, rfl, described⟩ := validated.exists_of_ok
  apply failure_setUp_of_supports
  rintro - _ ⟨⟩ c hc
  -- each was described by an entry
  obtain ⟨e, he⟩ := exists_of_forall₂ described.flip c hc
  exact scheme_mem_supported he

theorem readExporters_of_read {env : Settings.Environment} {given : Settings.Given}
    {settings : Settings} (h : Settings.read env given = .ok settings) :
    Settings.readOr none Settings.readExporters (given.tracingExporters <|>
      (Settings.fromEnvironment? env .tracingExporters).map .text) = .ok settings.tracingExporters := by
  simp only [Settings.read] at h
  split at h
  · obtain rfl := Except.ok.inj h
    assumption
  · cases h

/-- Settings from the environment alone have no exporter that set-up refuses. -/
theorem failure_setUp_of_environment {env : Settings.Environment} {settings : Settings}
    (h : Settings.read env {} = .ok settings) (available : Bool) :
    (setUp available settings.tracingExporters).failure = none := by
  have accepted := readExporters_of_read h
  cases written : Settings.fromEnvironment? env .tracingExporters with
  | none =>
    rw [written] at accepted
    rw [← Except.ok.inj accepted]
    rfl
  | some t =>
    -- the environment gives a text
    rw [written] at accepted
    exact failure_setUp_of_read accepted available

end CurlSnippets.Tracing
