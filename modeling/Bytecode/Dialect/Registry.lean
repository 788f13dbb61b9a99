import Bytecode.Dialect.Python27
import Bytecode.Dialect.Python39
import Bytecode.Text.Casing

/-!
# The shipped dialects

The dialects of the library, by name.
-/

namespace Bytecode.Dialect

/-- The shipped dialects under their names, sorted by name. -/
def registry : List (String × Dialect) :=
  [("py27", python27), ("py39", python39)]

/-- The dialect that is used where nothing else is said: `python27`. -/
def standard : Dialect := python27

/-- The dialect that the `registry` has under `name`, in any case. -/
def named (name : String) : Except Fault Dialect :=
  match registry.lookup (Text.lower name) with
  | some d => .ok d
  | none => .error (.unknownDialect name (registry.map (·.1)))

end Bytecode.Dialect
