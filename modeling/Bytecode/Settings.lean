import Bytecode.Dialect.Registry
import Bytecode.Log.Level

/-!
# Settings

A setting is a text that may be missing.  The name of the default dialect is taken as it is, so that
an unknown one is noticed where it is used; a log level or log format that is not known falls back
to the default.
-/

namespace Bytecode

/-- The settings of the library. -/
structure Settings where
  /-- The name of the dialect that `Dialect.Choice.default` means. -/
  dialect : Option String
  /-- The name of the least grave `Level` to log. -/
  logLevel : Option String
  /-- The name of the `Renderer` of log lines. -/
  logFormat : Option String
deriving DecidableEq

namespace Settings

/-- Nothing is set. -/
def unset : Settings :=
  ⟨none, none, none⟩

/-- The name of the default dialect as it was given, or else `py27`. -/
def dialectName (s : Settings) : String :=
  s.dialect.getD "py27"

/-- The default dialect: the shipped one called `dialectName`. -/
def defaultDialect (s : Settings) : Except Fault Dialect :=
  Dialect.named s.dialectName

/-- The least grave level to log: the one that `logLevel` names, in any case, or else `info`. -/
def level (s : Settings) : Level :=
  (Level.ofName? (Text.upper (s.logLevel.getD "INFO"))).getD .info

/-- The form of log lines: the one that `logFormat` names, in any case, or else `console`. -/
def renderer (s : Settings) : Renderer :=
  (Renderer.ofName? (Text.lower (s.logFormat.getD "console"))).getD .console

end Settings

/-- How a caller chooses a dialect. -/
inductive Dialect.Choice where
  /-- The `Settings.defaultDialect` of the settings in force. -/
  | default
  /-- The shipped dialect called `name`. -/
  | named (name : String)
  /-- The dialect `d`. -/
  | given (d : Dialect)

/-- The dialect of a choice made explicitly, or `none` if it is left to the settings. -/
def Dialect.Choice.explicit : Dialect.Choice → Except Fault (Option Dialect)
  | .default => .ok none
  | .named name => (Dialect.named name).map some
  | .given d => .ok (some d)

/-- The dialect of a choice, under the settings `s`. -/
def Dialect.Choice.resolve (s : Settings) : Dialect.Choice → Except Fault Dialect
  | .default => s.defaultDialect
  | .named name => Dialect.named name
  | .given d => .ok d

end Bytecode
