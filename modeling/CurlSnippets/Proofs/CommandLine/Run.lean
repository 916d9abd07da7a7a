import CurlSnippets.CommandLine.Run
import CurlSnippets.Proofs.Command.Report
import CurlSnippets.Proofs.Snippet.Refusal
import CurlSnippets.Proofs.Tracing.SetUp

/-!
# Runs on commands

A command read over the default request has a payload of no declared type, if it has one at all
(`body_readCommand`).  No snippet takes such a payload apart, so every snippet of it is written, and a
run of the program with a command to read comes to an end in one of two ways: it prints the snippet, or
refuses a target that no name is registered for (`run_of_command`).  Before it reads the command the run
sets up tracing, which breaks it off if an exporter is of no supported scheme (`run_eq_scheme`);
exporters from the environment never do.
-/

namespace CurlSnippets

/-! ### Requests read from commands -/

theorem body_readCommand (command : Text) : (readCommand command {}).request.body = .none ∨
    ∃ content, (readCommand command {}).request.body = .raw content none := by
  rw [request_readCommand]
  show ((Findings.ofCommand command).body.map (Body.raw · none)).getD .none = _ ∨
    ∃ content, ((Findings.ofCommand command).body.map (Body.raw · none)).getD .none = _
  cases (Findings.ofCommand command).body with
  | none => exact .inl rfl
  | some content => exact .inr ⟨content, rfl⟩

/-- Nothing in a command is declared as JSON, so that no snippet refuses it. -/
theorem not_refused_readCommand (command : Text) (e : DigitLimitError) :
    ¬ Snippet.Refused (readCommand command {}).request e := by
  rintro ⟨content, contentType, digits, body, declared, -⟩
  -- no payload, or one of no declared type
  rcases body_readCommand command with absent | ⟨found, raw⟩
  · rw [absent] at body
    exact Body.noConfusion body
  · rw [raw] at body
    obtain ⟨-, rfl⟩ := Body.raw.inj body
    exact Bool.noConfusion declared

theorem exists_render_readCommand (target : Target) (command : Text) :
    ∃ t, target.render (readCommand command {}).request = .ok t := by
  cases written : target.render (readCommand command {}).request with
  | ok t => exact ⟨t, rfl⟩
  | error e =>
    obtain ⟨-, refused⟩ := Snippet.render_eq_error_iff.1 written
    exact absurd refused (not_refused_readCommand command e)

/-! ### Names of targets -/

/-- No target is registered for a name, blanks around it and letter case aside. -/
def Target.Unregistered (name : Text) : Prop :=
  Text.lower (Text.trim name) ∉ Target.registered.map Prod.fst

variable {name : Text} {r : Request}

theorem Target.ofName?_eq_none_iff : Target.ofName? name = none ↔ Target.Unregistered name := by
  rw [ofName?, List.lookup_eq_none_iff, Unregistered, List.mem_map]
  constructor
  · rintro h ⟨p, mem, same⟩
    exact absurd (h p mem) (by simp [same])
  · intro h p mem
    simpa using fun same => h ⟨p, mem, same.symm⟩

theorem Target.choose_unregistered (h : Unregistered name) (strict : Bool) : choose name strict =
    if strict then .error (.unknownTarget name) else .ok (fallback, [unknownRecord name]) := by
  rw [choose, ofName?_eq_none_iff.2 h]

theorem Target.choose_registered (h : ¬ Unregistered name) :
    ∃ target, ∀ strict, choose name strict = .ok (target, []) := by
  cases found : ofName? name with
  | none => exact absurd (ofName?_eq_none_iff.1 found) h
  | some target => exact ⟨target, fun strict => by rw [choose, found]⟩

/-- Without a target of its own a request is written as a curl command, if that is wanted. -/
theorem snippet_unregistered (h : Target.Unregistered name) {t : Text}
    (written : Snippet.curl r = .ok t) : snippet name false r = .ok t := by
  have fallback : Target.render .fallback r = .ok t := written
  rw [snippet, Target.choose_unregistered h]
  simp only [Bool.false_eq_true, if_false, fallback]

theorem snippet_strict_unregistered (h : Target.Unregistered name) :
    snippet name true r = .error (.unknownTarget name) := by
  rw [snippet, Target.choose_unregistered h]
  rfl

/-- Strictness makes no difference to a name that is registered. -/
theorem snippet_registered (h : ¬ Target.Unregistered name) (strict : Bool) :
    snippet name strict r = snippet name false r := by
  obtain ⟨target, chosen⟩ := Target.choose_registered h
  rw [snippet, snippet, chosen, chosen]

theorem exists_snippet_readCommand (name command : Text) :
    ∃ t, snippet name false (readCommand command {}).request = .ok t := by
  -- the fallback is the snippet for curl
  by_cases h : Target.Unregistered name
  · obtain ⟨t, written⟩ := exists_render_readCommand .shell command
    exact ⟨t, snippet_unregistered h written⟩
  · obtain ⟨target, chosen⟩ := Target.choose_registered h
    obtain ⟨t, written⟩ := exists_render_readCommand target command
    refine ⟨t, ?_⟩
    rw [snippet, chosen]
    simp only [written]

/-- A strict search is refused for the name alone. -/
theorem snippet_strict_eq_error_iff {command : Text} {e : SnippetError} :
    snippet name true (readCommand command {}).request = .error e ↔
      Target.Unregistered name ∧ e = .unknownTarget name := by
  by_cases h : Target.Unregistered name
  · rw [snippet_strict_unregistered h, and_iff_right h]
    exact ⟨fun same => (Except.error.inj same).symm, fun same => congrArg _ same.symm⟩
  · obtain ⟨t, written⟩ := exists_snippet_readCommand name command
    rw [snippet_registered h, written]
    exact ⟨fun same => absurd same (by simp), fun both => absurd both.1 h⟩

/-! ### Runs -/

namespace CommandLine

/-- The command that a run reads: from the file that was named, or else from standard input. -/
inductive Reads (directory : Directory) (input : Text) : (file : Option Text) → Text → Prop where
  | input : Reads directory input none (withLineFeeds input)
  | file {path content : Text} : path.contains '\x00' = false → directory.read path = .ok content →
      Reads directory input (some path) (withLineFeeds content)

variable {available : Bool} {settings : Settings} {directory : Directory}
  {input command target : Text} {words : List Text} {a : Arguments}

section Asked

variable (asked : Arguments.read
    { target := some settings.defaultTarget, strict := settings.strictTargets } words = .ok (.run a))
  (unlisted : a.listTargets = false)

include asked unlisted

theorem plan_eq_convert : plan settings words = .convert a.file a.target a.strict := by
  rw [plan, asked]
  simp only [unlisted, Bool.false_eq_true, if_false]

/-- A run with a command to read converts it, once tracing is set up. -/
theorem run_eq_convert (reads : Reads directory input a.file command) :
    run available settings directory input words =
      traced (Tracing.setUp available settings.tracingExporters)
        (convert a.target a.strict command) := by
  -- what was read is the command, with line feeds at the ends of its lines
  have source : convertSource directory input a.file a.target a.strict =
      convert a.target a.strict command := by
    cases a with
    | mk file target strict listTargets =>
      cases reads with
      | input => rfl
      | file possible found =>
        simp only [convertSource, possible, found, Bool.false_eq_true, if_false]
        rfl
  rw [run, plan_eq_convert asked unlisted]
  exact congrArg (traced (Tracing.setUp available settings.tracingExporters)) source

/-- An exporter of no kind breaks the run off, wherever the command is to be read from. -/
theorem run_eq_scheme {e : Tracing.SchemeError}
    (failed : (Tracing.setUp available settings.tracingExporters).failure = some e) :
    run available settings directory input words = .error (.scheme e) := by
  rw [run, plan_eq_convert asked unlisted]
  simp only [traced, failed]

end Asked

theorem traced_ok {setUp : Tracing.Outcome} (set : setUp.failure = none) (o : Outcome) :
    traced setUp (.ok o) =
      .ok { o with tracing := setUp.acts, records := setUp.records ++ o.records } := by
  rw [traced, set]
  rfl

theorem convertTo_ok {strict : Bool} {t : Text}
    (written : snippet target strict (readCommand command {}).request = .ok t) :
    (convertTo target strict command).exitCode = 0 ∧
      (convertTo target strict command).output = t ++ ['\n'] := by
  constructor
  · simp only [convertTo, written]
  · simp only [convertTo, written]

theorem convertTo_error {strict : Bool} {e : SnippetError}
    (refused : snippet target strict (readCommand command {}).request = .error e) :
    (convertTo target strict command).exitCode = 2 ∧
      (convertTo target strict command).output = [] := by
  constructor
  · simp only [convertTo, refused]
  · simp only [convertTo, refused]

end CommandLine

end CurlSnippets
