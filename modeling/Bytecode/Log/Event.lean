import Bytecode.Fault
import Bytecode.Log.Level

/-!
# Events

What the library reports to a log.
-/

namespace Bytecode

/-- The part of the library that an `Event` comes from. -/
inductive Origin where
  | decoder
  | stackEffect
  | logging
deriving DecidableEq

/-- Something worth a line in a log. -/
inductive Event where
  /-- A read of `requested` bytes failed, with the text `error`. -/
  | sourceFailed (requested : Nat) (error : String)
  /-- A read of `requested` bytes gave `received`, which is more. -/
  | overRead (requested received : Nat)
  /-- The `byte` is not assigned in the `dialect`. -/
  | unknownOpcode (byte : UInt8) (dialect : String)
  /-- A stream ended within the instruction with the byte `opcode` that begins at `offset`. -/
  | truncated (offset : Nat) (opcode : UInt8)
  /-- The label with the text `label` has no stack effect. -/
  | unclassified (label : String)
  /-- The stack effect of `mnemonic` depends on the path taken at run time. -/
  | indeterminate (mnemonic : String)
  /-- Logging was set up by the names `level` and `format`, as `Log.levelName` and `Log.formatName`
  give them. -/
  | configured (level format : String)
deriving DecidableEq

namespace Event

/-- The headline of an event. -/
def message : Event → String
  | .sourceFailed .. => "Byte source failed"
  | .overRead .. => "Byte source over-read"
  | .unknownOpcode .. => "Unknown opcode"
  | .truncated .. => "Truncated instruction"
  | .unclassified .. => "Mnemonic missing from stack effect table"
  | .indeterminate .. => "Indeterminate stack effect"
  | .configured .. => "Logging configured"

/-- The level of an event.  Only a gap in the tables of stack effects is an `error` of the
library. -/
def level : Event → Level
  | .unclassified .. => .error
  | _ => .debug

/-- The `Origin` of an event. -/
def origin : Event → Origin
  | .sourceFailed .. => .decoder
  | .overRead .. => .decoder
  | .unknownOpcode .. => .decoder
  | .truncated .. => .decoder
  | .unclassified .. => .stackEffect
  | .indeterminate .. => .stackEffect
  | .configured .. => .logging

end Event

/-- A `result` and the `events` on the way to it. -/
structure Traced (α : Type) where
  result : Except Fault α
  events : List Event

/-- A `result` that comes about without events. -/
def Traced.silent {α : Type} (result : Except Fault α) : Traced α :=
  ⟨result, []⟩

end Bytecode
