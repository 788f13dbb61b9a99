/-!
# Levels and forms of log lines

How grave an event is, and how a line about it is written.
-/

namespace Bytecode

/-- How grave an `Event` is. -/
inductive Level where
  | debug
  | info
  | warning
  | error
  | critical
deriving DecidableEq

namespace Level

/-- The levels, from the least grave on. -/
def all : List Level :=
  [.debug, .info, .warning, .error, .critical]

/-- The name of a level in settings. -/
def name : Level → String
  | .debug => "DEBUG"
  | .info => "INFO"
  | .warning => "WARNING"
  | .error => "ERROR"
  | .critical => "CRITICAL"

/-- The name of a level in log lines: its `name` in lower case. -/
def tag : Level → String
  | .debug => "debug"
  | .info => "info"
  | .warning => "warning"
  | .error => "error"
  | .critical => "critical"

/-- The number of a level, by which it is compared with a `Log.Setup.threshold`. -/
def severity : Level → Nat
  | .debug => 10
  | .info => 20
  | .warning => 30
  | .error => 40
  | .critical => 50

/-- The level whose `name` is `s`. -/
def ofName? (s : String) : Option Level :=
  all.find? (·.name == s)

end Level

/-- The two forms of a log line. -/
inductive Renderer where
  | console
  | json
deriving DecidableEq

namespace Renderer

/-- The name of a form. -/
def name : Renderer → String
  | .console => "console"
  | .json => "json"

/-- The form whose `name` is `s`. -/
def ofName? (s : String) : Option Renderer :=
  [console, json].find? (·.name == s)

end Renderer
end Bytecode
