import Bytecode.Fault

/-!
# Opcodes and their classification

An opcode is an entry in the table of a dialect: a spelling, a number, what it does with its
argument, and what it stands for.  Unless the entry says otherwise, that is the operation with the
same spelling, and then `Opcode.label` may fail: the catalog need not have one.
-/

namespace Bytecode

/-- What an opcode does with its argument.  Everything is false unless said. -/
structure Traits where
  /-- Takes an argument. -/
  hasArg : Bool := false
  /-- Takes an argument that a preceding `EXTENDED_ARG` may widen. -/
  hasExtendedArg : Bool := false
  /-- The argument indexes the constant pool. -/
  hasConst : Bool := false
  /-- The argument selects a comparison. -/
  hasComparison : Bool := false
  /-- The argument names an attribute or a global. -/
  hasName : Bool := false
  /-- The argument selects a local variable. -/
  hasLocal : Bool := false
  /-- The argument selects a free variable. -/
  hasFree : Bool := false
  /-- The argument is a jump target relative to the instruction. -/
  isRelativeJump : Bool := false
  /-- The argument is an absolute jump target. -/
  isAbsoluteJump : Bool := false
  /-- Jumps on an explicit test. -/
  isConditionalJump : Bool := false
  /-- Jumps implicitly, as loop and handler setups do. -/
  isOtherConditionalJump : Bool := false
deriving DecidableEq

namespace Traits

/-- Whether the argument is a jump target, by `isRelativeJump` or `isAbsoluteJump`. -/
def isJump (t : Traits) : Bool :=
  t.isRelativeJump || t.isAbsoluteJump

/-- The flags that say what table the argument indexes. -/
def operandKinds (t : Traits) : List Bool :=
  [t.hasConst, t.hasName, t.hasLocal, t.hasFree]

/-- Whether the opcode makes no sense without an argument: it `isJump`, compares or has one of the
`operandKinds`. -/
def needsArg (t : Traits) : Bool :=
  t.isJump || t.hasComparison || t.operandKinds.any id

/-- Whether the opcode jumps on a condition, by `isConditionalJump` or `isOtherConditionalJump`. -/
def isConditional (t : Traits) : Bool :=
  t.isConditionalJump || t.isOtherConditionalJump

/-! ### The roles of the shipped opcodes -/

/-- No reference to anything. -/
def simple : Traits := {}

/-- Refers to a constant. -/
def constant : Traits := { hasConst := true }

/-- Selects a comparison. -/
def comparison : Traits := { hasComparison := true }

/-- Refers to a name. -/
def named : Traits := { hasName := true }

/-- Refers to a local variable. -/
def localVariable : Traits := { hasLocal := true }

/-- Refers to a free variable. -/
def freeVariable : Traits := { hasFree := true }

/-- Jumps by a distance, always. -/
def jump : Traits := { isRelativeJump := true }

/-- Jumps to an address, always. -/
def jumpTo : Traits := { isAbsoluteJump := true }

/-- Jumps to an address, on an explicit test. -/
def branchTo : Traits := { isAbsoluteJump := true, isConditionalJump := true }

/-- Sets up a loop or a handler that lies at a distance. -/
def handler : Traits := { isRelativeJump := true, isOtherConditionalJump := true }

end Traits

/-- An entry in the table of a `Dialect`. -/
structure Opcode where
  /-- The spelling in this dialect. -/
  name : String
  /-- The number in this dialect.  A byte, in any dialect that passes `Dialect.validate`. -/
  value : Int
  traits : Traits
  /-- What the opcode stands for; if `none`, the mnemonic spelled like its `name`. -/
  labelRef : Option LabelRef
deriving DecidableEq

namespace Opcode

/-- A row of a shipped table.  The opcode stands for the operation spelled `name`, which the catalog
is asked for whenever that matters. -/
def row (name : String) (value : Int) (role : Traits) : Opcode :=
  ⟨name, value, role, none⟩

/-- A row of a shipped table whose opcode stands for `m`, and not for an operation spelled
`name`. -/
def renamed (name : String) (m : Mnemonic) (value : Int) (role : Traits) : Opcode :=
  ⟨name, value, role, some (.direct (.catalog m))⟩

/-- The opcode `op`, classified by its value alone: it takes an argument from `argThreshold` on, and
one that may be widened from `extendedArgThreshold` on. -/
def classify (argThreshold extendedArgThreshold : Int) (op : Opcode) : Opcode :=
  { op with
    traits :=
      { op.traits with
        hasArg := argThreshold ≤ op.value
        hasExtendedArg := extendedArgThreshold ≤ op.value } }

end Opcode

/-- The label that a reference points to.  Fails if that is a `named` mnemonic which the catalog
lacks. -/
def LabelRef.resolve : LabelRef → Except Fault Label
  | .direct label => .ok label
  | .named name =>
    match Mnemonic.ofName? name with
    | some m => .ok (.catalog m)
    | none => .error (.unknownName name)

/-- What `op` stands for, by its `labelRef` or else by its `name`. -/
def Opcode.label (op : Opcode) : Except Fault Label :=
  (op.labelRef.getD (.named op.name)).resolve

/-- The `spelling` of a label, or the fault that it has none. -/
def Label.name (l : Label) : Except Fault String :=
  l.spelling.mapError .nameless

/-- The name of what `op` stands for. -/
def Opcode.labelName (op : Opcode) : Except Fault String :=
  op.label.bind Label.name

end Bytecode
