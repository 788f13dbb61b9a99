import Bytecode.Dialect.Basic
import Bytecode.Operand

/-!
# Instructions

An instruction is an opcode of some dialect together with a 16-bit argument, which is there exactly
if the opcode takes one.  Equality of instructions includes the dialect: equal bytes of two dialects
are two instructions.
-/

namespace Bytecode

/-- An instruction of some `dialect`.  Its two proofs say that it fits there. -/
structure Instruction where
  dialect : Dialect
  opcode : Opcode
  arg : Option UInt16
  /-- The `opcode` is one of the dialect. -/
  opcode_mem : opcode ∈ dialect.members
  /-- The argument `arg` is there exactly if the `opcode` takes one. -/
  hasArg_eq : dialect.hasArg? opcode = some arg.isSome
deriving DecidableEq

namespace Instruction

/-- Builds an instruction from `op` and `arg`, which may be wrong for each other. -/
def build (d : Dialect) (op : Opcode) (mem : op ∈ d.members) (arg : Option Int) :
    Except Fault Instruction :=
  match h : d.hasArg? op, arg with
  | none, _ => .error .unclassifiedArgument
  | some true, none => .error (.argumentRequired op.name)
  | some true, some n =>
    if 0 ≤ n && n ≤ 0xFFFF then
      .ok ⟨d, op, some (UInt16.ofNat n.toNat), mem, h⟩
    else
      .error (.argumentTooWide n)
  | some false, some _ => .error (.argumentRefused op.name)
  | some false, none => .ok ⟨d, op, none, mem, h⟩

/-- Builds an instruction from a pointer `s` to its opcode and from `arg`. -/
def ofSelector (d : Dialect) (s : Selector) (arg : Option Int) : Except Fault Instruction := do
  let op ← d.select s
  build d op.val op.property arg

/-- What the opcode of `i` stands for. -/
def label (i : Instruction) : Except Fault Label :=
  i.opcode.label

/-- The number of bytes of `encode`. -/
def size (i : Instruction) : Nat :=
  if i.arg.isSome then 3 else 1

/-- The bytes of `i`: its opcode and then its operand by `Operand.toBytes`, if any.  Fails if the
opcode is no byte. -/
def encode (i : Instruction) : Except Fault (List UInt8) :=
  if 0 ≤ i.opcode.value && i.opcode.value ≤ 0xFF then
    .ok (UInt8.ofNat i.opcode.value.toNat :: (i.arg.map Operand.toBytes).getD [])
  else
    .error .unencodable

/-- The text of `i`: the name of its `label`, and its argument, if any. -/
def text (i : Instruction) : Except Fault String := do
  let name ← i.opcode.labelName
  match i.arg with
  | none => return name
  | some arg => return name ++ " " ++ toString arg.toNat

/-- The text of `i` that shows its dialect, its opcode and its byte. -/
def debugText (i : Instruction) : String :=
  let arg := match i.arg with
    | none => "None"
    | some arg => toString arg.toNat
  "Instruction(opcode=<" ++ i.dialect.name ++ "." ++ i.opcode.name ++ ": "
    ++ toString i.opcode.value ++ ">, arg=" ++ arg ++ ")"

/-- The `edit` of a `field` of an instruction, which always fails. -/
def edit (_ : Instruction) (edit : Edit) (field : String) : Except Fault Instruction :=
  .error (.immutable edit field)

/-! ### Comparing instructions -/

/-- Whether an instruction is a plain number, which none is. -/
def equalsNumber (_ : Instruction) (_ : Int) : Bool := false

/-- Whether the opcodes of `i` and `j` have the same value, whatever their dialects. -/
def sameByte (i j : Instruction) : Bool :=
  i.opcode.value = j.opcode.value

/-- The number of different instructions in `is`. -/
def countDistinct (is : List Instruction) : Nat :=
  is.eraseDups.length

/-- For each instruction of `is`, the position at which it occurs first. -/
def firstSeen (is : List Instruction) : List Nat :=
  is.map fun i => is.idxOf i

end Instruction
end Bytecode
