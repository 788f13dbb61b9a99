import Bytecode.Instruction
import Bytecode.Log.Event

/-!
# Stack effects

The stack effect of an instruction is the net change of stack depth after it.  It belongs to the
mnemonic, so all dialects share it.  It is a fixed number, a function of the argument, or
indeterminate: a few operations only have an effect once the machine has decided which path to
take.  Three tables say which (`StackEffect.fixedTable`, `StackEffect.argumentTable` and
`Mnemonic.pathDependent`), and nothing else does.  Part of the first goes by name: all binary
operations have the same effect, and so on.  Labels outside the catalog have no effect.
-/

namespace Bytecode

/-- How the stack effect of an operation comes about. -/
inductive StackEffect where
  /-- The `change` is the same whatever the argument. -/
  | fixed (change : Int)
  /-- The `change` goes by the argument. -/
  | ofArgument (change : Int → Int)
  /-- By the path taken at run time. -/
  | indeterminate

namespace StackEffect

/-! ### Arguments as bit patterns

An argument is taken as an infinite pattern of bits, negative ones in two's
complement. -/

/-- The number made of the `width` low bits of `arg`. -/
def lowBits (width : Nat) (arg : Int) : Int :=
  (BitVec.ofInt width arg).toNat

/-- Whether bit `k` of `arg` is set. -/
def testBit (k : Nat) (arg : Int) : Bool :=
  (BitVec.ofInt (k + 1) arg).getLsbD k

/-- The number of bits set among the `width` low ones of `arg`. -/
def countBits (width : Nat) (arg : Int) : Nat :=
  (List.range width).countP fun k => testBit k arg

/-- The effect of a call whose `arg` packs a count of positional arguments in the low byte and one
of keyword arguments in the byte above.  The arguments, the `extra` slots and the callable are
popped, and the result is pushed. -/
def call (arg extra : Int) : Int :=
  let positional := lowBits 8 arg
  let keywords := lowBits 8 (arg >>> (8 : Nat))
  let popped := positional + keywords + extra + 1
  1 - popped

/-- The effect of making a function from its code and its name, and from one item for each of the
four low flags of `arg` that is set. -/
def makeFunction (arg : Int) : Int :=
  -1 - countBits 4 arg

/-! ### The tables -/

/-- The operations that are listed one by one with a fixed effect. -/
def listed : List (Mnemonic × Int) :=
  [ -- Stack manipulation
    (.stopCode, 0), (.popTop, -1), (.rotTwo, 0), (.rotThree, 0), (.rotFour, 0), (.dupTop, 1),
    (.dupTopTwo, 2), (.nop, 0), (.extendedArg, 0),
    -- Slicing and subscription
    (.slice0, 0), (.slice1, -1), (.slice2, -1), (.slice3, -2), (.storeSlice0, -2),
    (.storeSlice1, -3), (.storeSlice2, -3), (.storeSlice3, -4), (.deleteSlice0, -1),
    (.deleteSlice1, -2), (.deleteSlice2, -2), (.deleteSlice3, -3), (.storeSubscr, -3),
    (.deleteSubscr, -2),
    -- Iteration, generators and coroutines
    (.getIter, 0), (.getYieldFromIter, 0), (.getAiter, 0), (.getAnext, 1), (.getAwaitable, 0),
    (.yieldValue, 0), (.yieldFrom, -1), (.endAsyncFor, -7), (.beforeAsyncWith, 1),
    -- Printing and statements
    (.printExpr, -1), (.printItem, -1), (.printNewline, 0), (.printItemTo, -2),
    (.printNewlineTo, -1), (.execStmt, -3), (.importStar, -1), (.importName, -1), (.importFrom, 1),
    (.setupAnnotations, 0), (.loadAssertionError, 1),
    -- Blocks and exceptions
    (.breakLoop, 0), (.continueLoop, 0), (.setupLoop, 0), (.withExceptStart, 1), (.popBlock, 0),
    (.popExcept, -3), (.reraise, -3), (.returnValue, -1),
    -- Classes
    (.loadLocals, 1), (.buildClass, -2), (.loadBuildClass, 1),
    -- Names, attributes and variables
    (.storeName, -1), (.deleteName, 0), (.loadName, 1), (.storeAttr, -2), (.deleteAttr, -1),
    (.loadAttr, 0), (.storeGlobal, -1), (.deleteGlobal, 0), (.loadGlobal, 1), (.loadConst, 1),
    (.loadFast, 1), (.storeFast, -1), (.deleteFast, 0), (.loadClosure, 1), (.loadDeref, 1),
    (.storeDeref, -1), (.deleteDeref, 0), (.loadClassderef, 1), (.loadMethod, 1),
    -- Containers
    (.buildMap, 1), (.storeMap, -2), (.listAppend, -1), (.setAdd, -1), (.mapAdd, -2),
    (.listToTuple, 0), (.listExtend, -1), (.setUpdate, -1), (.dictMerge, -1), (.dictUpdate, -1),
    -- Comparisons
    (.compareOp, -1), (.isOp, -1), (.containsOp, -1),
    -- Jumps
    (.jumpForward, 0), (.jumpAbsolute, 0), (.popJumpIfFalse, -1), (.popJumpIfTrue, -1),
    (.jumpIfNotExcMatch, -2)]

/-- The operations `UNARY_…`, each of which leaves one value in place of one. -/
def unary : List Mnemonic :=
  ["POSITIVE", "NEGATIVE", "NOT", "CONVERT", "INVERT"].filterMap fun name =>
    Mnemonic.ofName? ("UNARY_" ++ name)

/-- The operations `BINARY_…` and `INPLACE_…`, each of which leaves one value in place of two. -/
def binary : List Mnemonic :=
  Mnemonic.all.filter fun m => m.name.startsWith "BINARY_" || m.name.startsWith "INPLACE_"

/-- The operations whose effect is the same whatever the argument, with that effect: those `listed`
one by one, the `unary` and the `binary` ones. -/
def fixedTable : List (Mnemonic × Int) :=
  listed ++ unary.map (·, 0) ++ binary.map (·, -1)

/-- The operations whose effect goes by the argument, with that function of it. -/
def argumentTable : List (Mnemonic × (Int → Int)) :=
  [ (.dupTopx, fun arg => arg),
    (.buildSlice, fun arg => if arg = 3 then -2 else -1),
    (.unpackSequence, fun arg => arg - 1),
    (.unpackEx, fun arg => lowBits 8 arg + arg >>> (8 : Nat)),
    (.buildTuple, fun arg => 1 - arg),
    (.buildList, fun arg => 1 - arg),
    (.buildSet, fun arg => 1 - arg),
    (.buildString, fun arg => 1 - arg),
    (.buildMapPairs, fun arg => 1 - 2 * arg),
    (.buildConstKeyMap, fun arg => -arg),
    (.formatValue, fun arg => if testBit 2 arg then -1 else 0),
    (.raiseVarargs, fun arg => -arg),
    (.makeFunction, fun arg => -arg),
    (.makeClosure, fun arg => -arg - 1),
    (.makeFunctionFlags, makeFunction),
    (.callFunction, fun arg => call arg 0),
    (.callFunctionVar, fun arg => call arg 1),
    (.callFunctionKw, fun arg => call arg 1),
    (.callFunctionVarKw, fun arg => call arg 2),
    (.callFunctionCount, fun arg => -arg),
    (.callFunctionKwCount, fun arg => -arg - 1),
    (.callFunctionEx, fun arg => if testBit 0 arg then -2 else -1),
    (.callMethod, fun arg => -arg - 1)]

end StackEffect

namespace Mnemonic

/-- The operations whose stack effect depends on the path taken at run time. -/
def pathDependent : List Mnemonic :=
  [.jumpIfFalseOrPop, .jumpIfTrueOrPop, .forIter, .setupExcept, .setupFinally, .setupWith,
   .setupAsyncWith, .withCleanup, .endFinally]

/-- **The tables list the catalog**: every operation of `all` stands in one of them, and only
once. -/
theorem tables_fit_catalog :
    (StackEffect.fixedTable.map (·.1) ++
      (StackEffect.argumentTable.map (·.1) ++ pathDependent)).Perm all := by
  decide +kernel

/-- The stack effect of `m`: its entry in the first of the tables that lists it. -/
def stackEffect? (m : Mnemonic) : Option StackEffect :=
  match StackEffect.fixedTable.lookup m, StackEffect.argumentTable.lookup m with
  | some change, _ => some (.fixed change)
  | none, some change => some (.ofArgument change)
  | none, none => if m ∈ pathDependent then some .indeterminate else none

end Mnemonic

namespace StackEffect

/-- The three kinds of stack effect. -/
inductive Kind where
  | fixed
  | argument
  | indeterminate
deriving DecidableEq

/-- The `Kind` of an effect. -/
def kind : StackEffect → Kind
  | .fixed _ => .fixed
  | .ofArgument _ => .argument
  | .indeterminate => .indeterminate

end StackEffect

namespace Label

/-- The stack effect of a label, which only the operations of the `catalog` have. -/
def stackEffect? : Label → Option StackEffect
  | .catalog m => m.stackEffect?
  | _ => none

/-- The number that the stack effect of `l` is, if it is `fixed`. -/
def fixedEffect? (l : Label) : Option Int :=
  match l.stackEffect? with
  | some (.fixed change) => some change
  | _ => none

/-- The function that the stack effect of `l` is, if it is `ofArgument`. -/
def argumentEffect? (l : Label) : Option (Int → Int) :=
  match l.stackEffect? with
  | some (.ofArgument change) => some change
  | _ => none

/-- The answer to any question about the stack effect of a label `l` that no table lists. -/
def unlisted {α : Type} (l : Label) : Traced α :=
  ⟨.error (.unclassified l), [.unclassified l.text]⟩

/-- The kind of the stack effect of `l`. -/
def effectKind (l : Label) : Traced StackEffect.Kind :=
  match l.stackEffect? with
  | some effect => .silent (.ok effect.kind)
  | none => l.unlisted

/-- Whether the stack effect of `l` is known without running the machine: it is not
`indeterminate`. -/
def isStatic (l : Label) : Traced Bool :=
  let kind := l.effectKind
  ⟨kind.result.map (· ≠ .indeterminate), kind.events⟩

/-- The stack effect of `l` with the argument `arg`. -/
def effectWith (l : Label) (arg : Option Int) : Traced Int :=
  match l with
  | .catalog m =>
    match m.stackEffect?, arg with
    | some (.fixed change), _ => .silent (.ok change)
    | some (.ofArgument change), some arg => .silent (.ok (change arg))
    | some (.ofArgument _), none => .silent (.error (.effectNeedsArgument m))
    | some .indeterminate, _ => ⟨.error (.indeterminate l), [.indeterminate m.name]⟩
    | none, _ => l.unlisted
  | l => l.unlisted

end Label

/-- The net change of stack depth after `i`: the effect of its `label` with its argument. -/
def Instruction.stackEffect (i : Instruction) : Traced Int :=
  match i.label with
  | .error e => .silent (.error e)
  | .ok label => label.effectWith (i.arg.map fun arg => arg.toNat)

end Bytecode
