import Bytecode.Log.Event
import Bytecode.Settings

/-!
# Setting up logging

Logging is set up once: the first call fixes the threshold and the form of the lines, and later
calls change nothing until the setup is dropped.
-/

namespace Bytecode.Log

/-- How events are logged: from which severity on, and in which form. -/
structure Setup where
  /-- The least `Level.severity` that is logged. -/
  threshold : Nat
  renderer : Renderer
deriving DecidableEq

/-- The threshold called `name`: that of a level, or of one of the names that only a caller may use.
Of these, `WARN` and `FATAL` are short for levels, and `NOTSET` is no threshold at all. -/
def threshold? (name : String) : Option Nat :=
  if name = "NOTSET" then some 0
  else if name = "WARN" then some Level.warning.severity
  else if name = "FATAL" then some Level.critical.severity
  else (Level.ofName? name).map (·.severity)

/-- The argument `arg`, unless it is empty. -/
def nonempty? (arg : Option String) : Option String :=
  arg.filter (!·.isEmpty)

/-- The name of a level that the argument `level` gives or, where it is missing or empty, the
settings `s`, in the upper case of `Text.upper`. -/
def levelName (s : Settings) (level : Option String) : String :=
  Text.upper ((nonempty? level).getD s.level.name)

/-- The name of a form that the argument `format` gives or, where it is missing or empty, the
settings `s`, in the lower case of `Text.lower`. -/
def formatName (s : Settings) (format : Option String) : String :=
  Text.lower ((nonempty? format).getD s.renderer.name)

/-- The setup for `levelName s level` and `formatName s format`.  An unknown level counts as `INFO`
and an unknown form as `console`. -/
def Setup.choose (s : Settings) (level format : Option String) : Setup where
  threshold := (threshold? (levelName s level)).getD Level.info.severity
  renderer := (Renderer.ofName? (formatName s format)).getD .console

/-- What came of `configure`. -/
structure Configured where
  /-- Whether anything changed. -/
  changed : Bool
  /-- The setup in force. -/
  setup : Setup
  events : List Event

/-- Sets up logging by `Setup.choose`, unless there is a `current` setup, which is then left as it
is. -/
def configure (s : Settings) (level format : Option String) (current : Option Setup) :
    Configured :=
  match current with
  | some setup => ⟨false, setup, []⟩
  | none =>
    ⟨true, Setup.choose s level format, [.configured (levelName s level) (formatName s format)]⟩

/-- The `settings` in force, and the `setup` if there is one yet. -/
structure State where
  settings : Settings
  setup : Option Setup

/-- What may happen to logging. -/
inductive Step where
  /-- It is set up with the arguments `level` and `format`. -/
  | configure (level format : Option String)
  /-- Other `settings` are put in force. -/
  | change (settings : Settings)

namespace State

/-- Logging before it is set up, with `settings` in force. -/
def unconfigured (settings : Settings) : State :=
  ⟨settings, none⟩

/-- Takes one step from `state`.  Only a call of `configure` has an answer. -/
def step (state : State) : Step → Option Configured × State
  | .configure level format =>
    let answer := configure state.settings level format state.setup
    (some answer, { state with setup := some answer.setup })
  | .change settings => (none, { state with settings := settings })

/-- Takes steps in order, each by `step`.  Each answer comes with the state after its step. -/
def run (state : State) : List Step → List (Option Configured × State)
  | [] => []
  | s :: rest =>
    let taken := state.step s
    taken :: taken.2.run rest

end State

/-- What a log shows of a list of events. -/
inductive Output where
  /-- The `events` that are logged, one a line. -/
  | lines (events : List Event)
  /-- The number `n` of lines. -/
  | count (n : Nat)

/-- Whether `e` is logged: its severity reaches the `threshold`. -/
def Setup.shows (setup : Setup) (e : Event) : Bool :=
  setup.threshold ≤ e.level.severity

/-- What a log shows of `events` under the `current` setup: nothing before there is one, lines that
can be read back in the form `json`, and just so many lines in the form `console`. -/
def output (current : Option Setup) (events : List Event) : Output :=
  match current with
  | none => .count 0
  | some setup =>
    let shown := events.filter setup.shows
    match setup.renderer with
    | .json => .lines shown
    | .console => .count shown.length

end Bytecode.Log
