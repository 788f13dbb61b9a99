import Bytecode.Log.Setup
import Mathlib.Logic.Basic

/-!
# How logging is set up

The level and the form of a log may be given by an argument or by a setting.  A setting is read as
one of the known names and falls back to the default otherwise (`threshold_of_setting`,
`renderer_of_setting`); an argument is read with the wider table of names that callers may use
(`threshold_of_argument`).  The two tables differ in three names, each of which has a threshold that
is not the default's (`severity_eq_iff`), so exactly on these the two ways part.  Of the forms there
is only one table.

Once logging is set up, no step changes the setup (`State.step_of_setup`), and so no number of steps
does (`State.outcomes_of_setup`).  Before, there are only changes of the settings, and what the
first call finds is the last of them (`State.outcomes_changes`).
-/

namespace Bytecode.Log

/-! ### Names -/

theorem nonempty?_none : nonempty? none = none := rfl

theorem nonempty?_of_ne {text : String} (h : text ≠ "") : nonempty? (some text) = some text := by
  have hempty : (!text.isEmpty) = true := by simpa using h
  rw [nonempty?, Option.filter_some, if_pos hempty]

/-- The `name` of a level `l` is read as that level, also by the wider table `threshold?`. -/
theorem threshold?_upper_name (l : Level) : threshold? (Text.upper l.name) = some l.severity := by
  cases l <;> decide

theorem ofName?_lower_name (r : Renderer) : Renderer.ofName? (Text.lower r.name) = some r := by
  cases r <;> decide

/-- The names of `threshold?` that only a caller may use. -/
def callerNames : List String :=
  ["WARN", "FATAL", "NOTSET"]

theorem threshold?_of_not_mem {name : String} (h : name ∉ callerNames) :
    threshold? name = (Level.ofName? name).map (·.severity) := by
  simp only [callerNames, List.mem_cons, List.not_mem_nil, or_false, not_or] at h
  obtain ⟨hwarn, hfatal, hnotset⟩ := h
  rw [threshold?, if_neg hnotset, if_neg hwarn, if_neg hfatal]

/-- **`threshold?` and `Level.ofName?` agree on a `name` unless it is one of the `callerNames`.** -/
theorem severity_eq_iff (name : String) :
    (threshold? name).getD Level.info.severity = ((Level.ofName? name).getD .info).severity ↔
      name ∉ callerNames := by
  constructor
  · intro h hmem
    simp only [callerNames, List.mem_cons, List.not_mem_nil, or_false] at hmem
    rcases hmem with rfl | rfl | rfl <;> exact absurd h (by decide)
  · intro h
    rw [threshold?_of_not_mem h]
    cases Level.ofName? name <;> rfl

/-! ### Arguments and settings -/

variable {s t : Settings} {text : String} {level format : Option String}

theorem threshold_of_argument (h : text ≠ "") :
    (configure s (some text) format none).setup.threshold =
      (threshold? (Text.upper text)).getD Level.info.severity := by
  simp only [configure, Setup.choose, levelName, nonempty?_of_ne h, Option.getD_some]

theorem threshold_of_setting :
    (configure t none format none).setup.threshold = t.level.severity := by
  simp only [configure, Setup.choose, levelName, nonempty?_none, Option.getD_none,
    threshold?_upper_name, Option.getD_some]

theorem renderer_of_argument (h : text ≠ "") :
    (configure s level (some text) none).setup.renderer =
      (Renderer.ofName? (Text.lower text)).getD .console := by
  simp only [configure, Setup.choose, formatName, nonempty?_of_ne h, Option.getD_some]

theorem renderer_of_setting :
    (configure t level none none).setup.renderer = t.renderer := by
  simp only [configure, Setup.choose, formatName, nonempty?_none, Option.getD_none,
    ofName?_lower_name, Option.getD_some]

/-! ### Call after call -/

/-- The answer to a step once logging has the `setup`. -/
def Step.lateAnswer (setup : Setup) : Step → Option Configured
  | .configure .. => some ⟨false, setup, []⟩
  | .change _ => none

namespace State

variable {state : State} {setup : Setup}

/-- The answers to `steps`, each with the setup after the step. -/
def outcomes (state : State) (steps : List Step) : List (Option Configured × Option Setup) :=
  (state.run steps).map fun taken => (taken.1, taken.2.setup)

theorem outcomes_cons (state : State) (step : Step) (steps : List Step) :
    state.outcomes (step :: steps) =
      ((state.step step).1, (state.step step).2.setup) :: (state.step step).2.outcomes steps :=
  rfl

theorem step_of_setup (h : state.setup = some setup) (step : Step) :
    (state.step step).1 = step.lateAnswer setup ∧ (state.step step).2.setup = some setup := by
  cases step with
  | configure level format => simp [State.step, configure, h, Step.lateAnswer]
  | change settings => exact ⟨rfl, h⟩

theorem outcomes_of_setup (h : state.setup = some setup) (steps : List Step) :
    state.outcomes steps = steps.map fun step => (step.lateAnswer setup, some setup) := by
  induction steps generalizing state with
  | nil => rfl
  | cons step steps ih =>
    obtain ⟨hanswer, hsetup⟩ := step_of_setup h step
    rw [outcomes_cons, hanswer, hsetup, ih hsetup, List.map_cons]

/-- The first call sets logging up, by its arguments `level` and `format` and the settings `s` in
force. -/
theorem outcomes_first_call (s : Settings) (level format : Option String) (later : List Step) :
    let setup := Setup.choose s level format
    (unconfigured s).outcomes (.configure level format :: later) =
      (some ⟨true, setup, [.configured (levelName s level) (formatName s format)]⟩, some setup) ::
        later.map fun step => (step.lateAnswer setup, some setup) := by
  intro setup
  have hsetup : ((unconfigured s).step (.configure level format)).2.setup = some setup := rfl
  rw [outcomes_cons, outcomes_of_setup hsetup later]
  rfl

/-- Until then, the last of the `changes` of the settings counts. -/
theorem outcomes_changes (s : Settings) (changes : List Settings) (steps : List Step) :
    (unconfigured s).outcomes (changes.map .change ++ steps) =
      changes.map (fun _ => (none, none)) ++
        (unconfigured (changes.getLastD s)).outcomes steps := by
  induction changes generalizing s with
  | nil => rfl
  | cons t changes ih =>
    have hstep : (unconfigured s).step (.change t) = (none, unconfigured t) := rfl
    rw [List.map_cons, List.cons_append, outcomes_cons, hstep, ih, List.getLastD_cons,
      List.map_cons, List.cons_append]
    rfl

/-- The `steps` are changes of the settings, up to a first call if there is one. -/
theorem exists_first_call (steps : List Step) :
    (∃ changes : List Settings, steps = changes.map .change) ∨
    ∃ (changes : List Settings) (level format : Option String) (later : List Step),
      steps = changes.map .change ++ .configure level format :: later := by
  induction steps with
  | nil => exact .inl ⟨[], rfl⟩
  | cons step steps ih =>
    cases step with
    | configure level format => exact .inr ⟨[], level, format, steps, rfl⟩
    | change settings =>
      rcases ih with ⟨changes, rfl⟩ | ⟨changes, level, format, later, rfl⟩
      · exact .inl ⟨settings :: changes, rfl⟩
      · exact .inr ⟨settings :: changes, level, format, later, rfl⟩

end State

/-- **Arguments, settings and the first call.**  From any settings, a form that is given by an
argument `text`, not empty, is the form that the same text gives as `logFormat`.  With a level and
`logLevel` it is the same, except for exactly those texts whose upper case is one of the
`callerNames`.  Whatever calls and changes of the settings follow one another, there is no call at
all, or the first one alone changes something: it fixes the `setup`, by its arguments and the
settings `found` in force, and logs one event with both names; every later call answers that nothing
changed, logs nothing and leaves the setup as it is. -/
theorem configure_by_argument_or_setting :
    (∀ (text : String) (s t : Settings) (level level' : Option String),
      text ≠ "" → t.logFormat = some text →
        (configure s level (some text) none).setup.renderer =
          (configure t level' none none).setup.renderer) ∧
    (∀ (text : String) (s t : Settings) (format format' : Option String),
      text ≠ "" → t.logLevel = some text →
        ((configure s (some text) format none).setup.threshold =
          (configure t none format' none).setup.threshold ↔ Text.upper text ∉ callerNames)) ∧
    ∀ (s : Settings) (steps : List Step),
      (∃ changes : List Settings, steps = changes.map .change ∧
        (State.unconfigured s).outcomes steps = changes.map fun _ => (none, none)) ∨
      ∃ (changes : List Settings) (level format : Option String) (later : List Step),
        steps = changes.map .change ++ .configure level format :: later ∧
        let found := changes.getLastD s
        let setup := Setup.choose found level format
        let event := Event.configured (levelName found level) (formatName found format)
        (State.unconfigured s).outcomes steps =
          changes.map (fun _ => (none, none)) ++
            (some ⟨true, setup, [event]⟩, some setup) ::
              later.map fun step => (step.lateAnswer setup, some setup) := by
  refine ⟨?_, ?_, ?_⟩
  · intro text s t level level' hne ht
    rw [renderer_of_argument hne, renderer_of_setting, Settings.renderer, ht, Option.getD_some]
  · intro text s t format format' hne ht
    rw [threshold_of_argument hne, threshold_of_setting, Settings.level, ht, Option.getD_some]
    exact severity_eq_iff (Text.upper text)
  · intro s steps
    rcases State.exists_first_call steps with ⟨changes, rfl⟩ | ⟨changes, level, format, later, rfl⟩
    · have hchanges := State.outcomes_changes s changes []
      rw [List.append_nil] at hchanges
      exact .inl ⟨changes, rfl, hchanges.trans (List.append_nil _)⟩
    · refine .inr ⟨changes, level, format, later, rfl, ?_⟩
      rw [State.outcomes_changes, State.outcomes_first_call]

/-- The upper case of a long s is an S and that of a dotless i is an I.  So the first text below is
`NOTSET`, which a setting may not use; the second one is the level `CRITICAL`, by argument and by
setting. -/
theorem configure_by_argument_or_setting_spellings :
    Text.upper "not\u017fet" = "NOTSET" ∧ Text.upper "cr\u0131t\u0131cal" = "CRITICAL" ∧
    (configure .unset none (some "JSON") none).setup.renderer =
      (configure ⟨none, none, some "JSON"⟩ none none none).setup.renderer ∧
    (configure .unset (some "not\u017fet") none none).setup.threshold ≠
      (configure ⟨none, some "not\u017fet", none⟩ none none none).setup.threshold ∧
    (configure .unset (some "cr\u0131t\u0131cal") none none).setup.threshold =
      (configure ⟨none, some "cr\u0131t\u0131cal", none⟩ none none none).setup.threshold := by
  obtain ⟨hformat, hlevel, -⟩ := configure_by_argument_or_setting
  have hnotset : Text.upper "not\u017fet" = "NOTSET" := by decide
  have hcritical : Text.upper "cr\u0131t\u0131cal" = "CRITICAL" := by decide
  refine ⟨hnotset, hcritical, hformat "JSON" _ _ _ _ (by decide) rfl, ?_, ?_⟩
  · rw [Ne, hlevel _ _ _ _ _ (by decide) rfl, hnotset]
    decide
  · rw [hlevel _ _ _ _ _ (by decide) rfl, hcritical]
    decide

end Bytecode.Log
