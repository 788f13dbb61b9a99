import Bytecode.Dialect.Basic

/-!
# Validation of a dialect

Validation finds every contradiction in a dialect.  The problems of each member come first, in
order of definition, and then a gap in the range of the opcodes that take an argument.

It needs the dialect to say which opcodes take an argument and what each of them stands for; where
the dialect does not, that is the fault, whatever problems were found.
-/

namespace Bytecode.Dialect

/-- The problem `p`, if the rule is `broken`. -/
def Problem.report (broken : Bool) (p : Problem) : List Problem :=
  if broken then [p] else []

/-- Whether `value` fits in one byte. -/
def isByte (value : Int) : Bool :=
  0 ≤ value && value ≤ 0xFF

/-- Whether `op` lacks the argument that it needs.  The dialect is only asked about opcodes that
`Traits.needsArg`. -/
def lacksArg (d : Dialect) (op : Opcode) : Except Fault Bool :=
  if op.traits.needsArg then
    match d.hasArg? op with
    | some hasArg => .ok !hasArg
    | none => .error .unclassifiedArgument
  else
    .ok false

/-- The rules that `op` breaks on its own, in a fixed order.  Only the one on arguments asks `d`, by
`lacksArg`. -/
def ownProblems (d : Dialect) (op : Opcode) : Except Fault (List Problem) := do
  let lacksArg ← d.lacksArg op
  let t := op.traits
  return Problem.report (!isByte op.value) (.notSingleByte op.name)
    ++ Problem.report (t.isRelativeJump && t.isAbsoluteJump) (.bothJumps op.name)
    ++ Problem.report (1 < t.operandKinds.count true) (.severalOperandKinds op.name)
    ++ Problem.report lacksArg (.operandWithoutArgument op.name)
    ++ Problem.report (t.isConditional && !t.isJump) (.conditionWithoutJump op.name)

/-- The problem that `op`, which stands for `label`, stands for the same as an opcode before it.
Those are given in `earlier` with their labels, the nearest first. -/
def sharingProblems (earlier : List (Label × String)) (op : Opcode) (label : Label) :
    Except Fault (List Problem) :=
  match earlier.lookup label with
  | none => .ok []
  | some name => label.name.map fun labelName => [.sharedLabel op.name name labelName]

/-- The problems of a list of opcodes of `d` that follow the `earlier` ones: of each opcode its
`ownProblems` and then its `sharingProblems`. -/
def memberProblems (d : Dialect) (earlier : List (Label × String)) :
    List Opcode → Except Fault (List Problem)
  | [] => .ok []
  | op :: rest => do
    let own ← d.ownProblems op
    let label ← op.label
    let sharing ← sharingProblems earlier op label
    let later ← d.memberProblems ((label, op.name) :: earlier) rest
    return own ++ sharing ++ later

/-- The least value of a member of `d` that takes an argument. -/
def threshold? (d : Dialect) : Option Int :=
  ((d.members.filter (·.traits.hasArg)).map (·.value)).min?

/-- The members of `d` above `threshold` that take no argument. -/
def stragglers (d : Dialect) (threshold : Int) : List Opcode :=
  d.members.filter fun op => threshold < op.value && !op.traits.hasArg

/-- The problem that there are `stragglers` above `threshold?`: the members which take an argument
do not fill the top of the range in use. -/
def gapProblems (d : Dialect) : List Problem :=
  match d.threshold? with
  | none => []
  | some threshold =>
    let stragglers := d.stragglers threshold
    Problem.report (!stragglers.isEmpty) (.gap threshold (stragglers.map (·.name)))

/-- All the problems of `d`: the `memberProblems` in order, and then the `gapProblems`. -/
def problems (d : Dialect) : Except Fault (List Problem) := do
  let own ← d.memberProblems [] d.members
  if d.classifiesArg || d.members.isEmpty then
    return own ++ d.gapProblems
  else
    .error .unclassifiedArgument

/-- Checks `d` for contradictions.  If it has `problems`, they all stand in one fault. -/
def validate (d : Dialect) : Except Fault Unit := do
  let problems ← d.problems
  if problems.isEmpty then
    return ()
  else
    .error (.invalidDialect d.name problems)

end Bytecode.Dialect
