import Bytecode.Dialect.Problem
import Bytecode.Failure
import Bytecode.Label

/-!
# Faults

Everything that can go wrong, by cause.  Decoding errors describe malformed or foreign input and
stack-effect errors describe an effect that cannot be given; they are two families of their own,
so that one is never taken for the other.  `Fault.message` is the one place that words an error.
-/

namespace Bytecode

/-- Why an instruction could not be decoded. -/
inductive DecodeError where
  /-- The `byte` is not assigned in the `dialect`, if one is named. -/
  | unknownOpcode (byte : Int) (dialect : Option String)
  /-- The source gave `received` bytes where the instruction needs `expected`. -/
  | truncated (expected received : Int)
  /-- The source itself failed, by `cause`. -/
  | sourceFailed (cause : Failure)
deriving DecidableEq

/-- Why the stack effect of an instruction could not be given. -/
inductive StackEffectError where
  /-- The effect depends on the path taken at run time. -/
  | indeterminate (label : Label)
  /-- The `label` stands in no table of effects. -/
  | unclassified (label : Label)
deriving DecidableEq

/-- An attempt to change a field of an `Instruction`. -/
inductive Edit where
  | assign
  | delete
deriving DecidableEq

/-- What went wrong. -/
inductive Fault where
  /-- An instruction could not be decoded, by `e`. -/
  | decode (e : DecodeError)
  /-- A failure of the source that is not `FailureKind.isSystem`. -/
  | raised (cause : Failure)
  /-- The source never runs dry, so the run over it never ends. -/
  | endless
  /-- A single instruction was to be read from a buffer that is no reader. -/
  | notReader
  /-- A stack effect could not be given, by `e`. -/
  | stackEffect (e : StackEffectError)
  /-- The stack effect of `m` depends on the argument, and there is none. -/
  | effectNeedsArgument (m : Mnemonic)
  /-- No shipped dialect is called `name`; the `known` names are those there are. -/
  | unknownDialect (name : String) (known : List String)
  /-- The dialect called `dialect` contradicts itself in these `problems`. -/
  | invalidDialect (dialect : String) (problems : List Dialect.Problem)
  /-- The dialect does not say which opcodes take an argument (`Dialect.classifiesArg`). -/
  | unclassifiedArgument
  /-- Nothing is known under the `name`. -/
  | unknownName (name : String)
  /-- No opcode of the `dialect` has the `value`. -/
  | unknownValue (value : Int) (dialect : String)
  /-- No opcode of the `dialect` stands for the label called `label`. -/
  | noOpcodeFor (dialect label : String)
  /-- A name was asked of the plain value `v`, which has none. -/
  | nameless (v : PlainValue)
  /-- The `opcode` takes an argument, and none was given. -/
  | argumentRequired (opcode : String)
  /-- The argument `arg` does not fit in 16 bits. -/
  | argumentTooWide (arg : Int)
  /-- The `opcode` takes no argument, and one was given. -/
  | argumentRefused (opcode : String)
  /-- The value of the opcode does not fit in one byte. -/
  | unencodable
  /-- An `edit` of the `field` was refused: instructions do not change. -/
  | immutable (edit : Edit) (field : String)
deriving DecidableEq

/-- The text of a decoding error.  A `dialect` with an empty name is left out. -/
def DecodeError.message : DecodeError → String
  | .unknownOpcode byte dialect =>
    let text := "unknown opcode: 0x" ++ Text.hexUpper 2 byte ++ " (" ++ toString byte ++ ")"
    match dialect with
    | none => text
    | some name => if name.isEmpty then text else text ++ " in dialect " ++ name
  | .truncated expected received =>
    s!"could not read required number of bytes: expected {expected}, got {received}"
  | .sourceFailed cause => "an IO error occurred while reading data: " ++ cause.text

/-- The text of a stack-effect error, with the label as `Label.shown`. -/
def StackEffectError.message : StackEffectError → String
  | .indeterminate label => "stack effect of " ++ label.shown ++ " depends on runtime state"
  | .unclassified label => "no stack effect defined for " ++ label.shown

/-- The label that a stack-effect error is about. -/
def StackEffectError.label : StackEffectError → Label
  | .indeterminate label => label
  | .unclassified label => label

/-- The text of a fault.  The faults of a family leave it to that family, such as
`DecodeError.message`. -/
def Fault.message : Fault → String
  | .decode e => e.message
  | .raised cause => cause.text
  | .endless => "the source never runs dry"
  | .notReader => "a plain buffer is no reader"
  | .stackEffect e => e.message
  | .effectNeedsArgument m => m.name ++ " stack effect requires an argument"
  | .unknownDialect name known =>
    "Unknown dialect '" ++ name ++ "', expected one of: " ++ ", ".intercalate known
  | .invalidDialect dialect problems =>
    "; ".intercalate (problems.map (Dialect.Problem.message dialect))
  | .unclassifiedArgument => ""
  | .unknownName name => name
  | .unknownValue value dialect => toString value ++ " is not a valid " ++ dialect
  | .noOpcodeFor dialect label => dialect ++ " has no opcode for " ++ label
  | .nameless v => "'" ++ v.kindName ++ "' object has no attribute 'name'"
  | .argumentRequired opcode => opcode ++ " requires an argument"
  | .argumentTooWide arg => "argument " ++ toString arg ++ " does not fit in 16 bits"
  | .argumentRefused opcode => opcode ++ " does not take an argument"
  | .unencodable => "bytes must be in range(0, 256)"
  | .immutable .assign field => "cannot assign to field " ++ Text.quoted field
  | .immutable .delete field => "cannot delete field " ++ Text.quoted field

/-- The fault that the stack effect of `label` is indeterminate.  A plain label has no name to say
so by, and is `nameless`. -/
def Fault.indeterminate (label : Label) : Fault :=
  match label with
  | .plain v => .nameless v
  | label => .stackEffect (.indeterminate label)

/-- The fault that `label` has no stack effect. -/
def Fault.unclassified (label : Label) : Fault :=
  .stackEffect (.unclassified label)

end Bytecode
