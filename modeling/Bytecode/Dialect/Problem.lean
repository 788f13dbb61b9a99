/-!
# Contradictions in a dialect

What validation may find wrong with the table of a dialect.
-/

namespace Bytecode.Dialect

/-- A way in which a dialect contradicts itself.  Opcodes are given by their `Opcode.name`. -/
inductive Problem where
  /-- The value of `opcode` does not fit in one byte. -/
  | notSingleByte (opcode : String)
  /-- The `opcode` jumps both to a relative and to an absolute target. -/
  | bothJumps (opcode : String)
  /-- The `opcode` refers to several of: constants, names, locals, free variables. -/
  | severalOperandKinds (opcode : String)
  /-- The `opcode` refers to something by its argument, but takes none. -/
  | operandWithoutArgument (opcode : String)
  /-- The `opcode` jumps on a condition, but has nowhere to jump to. -/
  | conditionWithoutJump (opcode : String)
  /-- The `opcode` stands for the same thing, called `label`, as the `earlier` one. -/
  | sharedLabel (opcode earlier label : String)
  /-- The `opcodes` take no argument, though their values lie above `threshold`, the least value of
  an opcode that takes one. -/
  | gap (threshold : Int) (opcodes : List String)
deriving DecidableEq

/-- The text of a problem in the dialect called `dialect`. -/
def Problem.message (dialect : String) : Problem → String
  | .notSingleByte op => s!"{dialect}.{op} is not a single byte"
  | .bothJumps op => s!"{dialect}.{op} is both a relative and an absolute jump"
  | .severalOperandKinds op => s!"{dialect}.{op} has more than one operand kind"
  | .operandWithoutArgument op => s!"{dialect}.{op} references an operand but has no argument"
  | .conditionWithoutJump op => s!"{dialect}.{op} is conditional but has no jump target"
  | .sharedLabel op earlier label =>
    s!"{dialect}.{op} and {dialect}.{earlier} share mnemonic {label}"
  | .gap threshold ops =>
    s!"{dialect} argument range starting at {threshold} is not contiguous: "
      ++ ", ".intercalate ops

end Bytecode.Dialect
