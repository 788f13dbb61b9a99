/-!
# The catalog of operations

A mnemonic is a dialect-independent operation of the virtual machine.  Two dialects may number
the same operation differently, and may give one spelling to two operations; the mnemonic is what
the stack-effect tables and the text of an instruction go by.

The catalog lists every operation once (`mem_catalog`, `nodup_catalog`), and a spelling leads back
to its operation (`ofName?_name`).
-/

namespace Bytecode

/-- An operation of the virtual machine, whatever byte a dialect gives it.

The packed calls (`callFunction`, `callFunctionKw`) carry a positional and
a keyword count in one operand; `callFunctionCount` and
`callFunctionKwCount` carry a plain argument count. -/
inductive Mnemonic where
  -- Stack manipulation
  | stopCode | popTop | rotTwo | rotThree | rotFour | dupTop | dupTopTwo | dupTopx | nop
  -- Unary operations
  | unaryPositive | unaryNegative | unaryNot | unaryConvert | unaryInvert
  -- Binary operations
  | binaryPower | binaryMultiply | binaryMatrixMultiply | binaryDivide | binaryModulo | binaryAdd
  | binarySubtract | binarySubscr | binaryFloorDivide | binaryTrueDivide | binaryLshift
  | binaryRshift | binaryAnd | binaryXor | binaryOr
  -- In-place operations
  | inplacePower | inplaceMultiply | inplaceMatrixMultiply | inplaceDivide | inplaceModulo
  | inplaceAdd | inplaceSubtract | inplaceFloorDivide | inplaceTrueDivide | inplaceLshift
  | inplaceRshift | inplaceAnd | inplaceXor | inplaceOr
  -- Slicing and subscription
  | slice0 | slice1 | slice2 | slice3 | storeSlice0 | storeSlice1 | storeSlice2 | storeSlice3
  | deleteSlice0 | deleteSlice1 | deleteSlice2 | deleteSlice3 | storeSubscr | deleteSubscr
  | buildSlice
  -- Iteration, generators and coroutines
  | getIter | getYieldFromIter | getAiter | getAnext | getAwaitable | yieldValue | yieldFrom
  | forIter | endAsyncFor | beforeAsyncWith
  -- Printing and statements
  | printExpr | printItem | printNewline | printItemTo | printNewlineTo | execStmt | importStar
  | importName | importFrom | setupAnnotations | loadAssertionError
  -- Blocks and exceptions
  | breakLoop | continueLoop | setupLoop | setupExcept | setupFinally | setupWith
  | setupAsyncWith | withCleanup | withExceptStart | popBlock | popExcept | endFinally | reraise
  | raiseVarargs | returnValue
  -- Classes and functions
  | loadLocals | buildClass | loadBuildClass | makeFunction | makeFunctionFlags | makeClosure
  -- Names, attributes and variables
  | storeName | deleteName | loadName | storeAttr | deleteAttr | loadAttr | storeGlobal
  | deleteGlobal | loadGlobal | loadConst | loadFast | storeFast | deleteFast | loadClosure
  | loadDeref | storeDeref | deleteDeref | loadClassderef | loadMethod
  -- Containers
  | unpackSequence | unpackEx | buildTuple | buildList | buildSet | buildMap | buildMapPairs
  | buildConstKeyMap | buildString | storeMap | listAppend | setAdd | mapAdd | listToTuple
  | listExtend | setUpdate | dictMerge | dictUpdate | formatValue
  -- Comparisons
  | compareOp | isOp | containsOp
  -- Jumps
  | jumpForward | jumpIfFalseOrPop | jumpIfTrueOrPop | jumpAbsolute | popJumpIfFalse
  | popJumpIfTrue | jumpIfNotExcMatch
  -- Calls
  | callFunction | callFunctionVar | callFunctionKw | callFunctionVarKw | callFunctionCount
  | callFunctionKwCount | callFunctionEx | callMethod
  -- Operand widening
  | extendedArg
deriving DecidableEq

namespace Mnemonic

/-- The catalog in its order of definition. -/
def all : List Mnemonic :=
  [.stopCode, .popTop, .rotTwo, .rotThree, .rotFour, .dupTop, .dupTopTwo, .dupTopx, .nop,
   .unaryPositive, .unaryNegative, .unaryNot, .unaryConvert, .unaryInvert,
   .binaryPower, .binaryMultiply, .binaryMatrixMultiply, .binaryDivide, .binaryModulo,
   .binaryAdd, .binarySubtract, .binarySubscr, .binaryFloorDivide, .binaryTrueDivide,
   .binaryLshift, .binaryRshift, .binaryAnd, .binaryXor, .binaryOr,
   .inplacePower, .inplaceMultiply, .inplaceMatrixMultiply, .inplaceDivide, .inplaceModulo,
   .inplaceAdd, .inplaceSubtract, .inplaceFloorDivide, .inplaceTrueDivide, .inplaceLshift,
   .inplaceRshift, .inplaceAnd, .inplaceXor, .inplaceOr,
   .slice0, .slice1, .slice2, .slice3, .storeSlice0, .storeSlice1, .storeSlice2, .storeSlice3,
   .deleteSlice0, .deleteSlice1, .deleteSlice2, .deleteSlice3, .storeSubscr, .deleteSubscr,
   .buildSlice,
   .getIter, .getYieldFromIter, .getAiter, .getAnext, .getAwaitable, .yieldValue, .yieldFrom,
   .forIter, .endAsyncFor, .beforeAsyncWith,
   .printExpr, .printItem, .printNewline, .printItemTo, .printNewlineTo, .execStmt, .importStar,
   .importName, .importFrom, .setupAnnotations, .loadAssertionError,
   .breakLoop, .continueLoop, .setupLoop, .setupExcept, .setupFinally, .setupWith,
   .setupAsyncWith, .withCleanup, .withExceptStart, .popBlock, .popExcept, .endFinally, .reraise,
   .raiseVarargs, .returnValue,
   .loadLocals, .buildClass, .loadBuildClass, .makeFunction, .makeFunctionFlags, .makeClosure,
   .storeName, .deleteName, .loadName, .storeAttr, .deleteAttr, .loadAttr, .storeGlobal,
   .deleteGlobal, .loadGlobal, .loadConst, .loadFast, .storeFast, .deleteFast, .loadClosure,
   .loadDeref, .storeDeref, .deleteDeref, .loadClassderef, .loadMethod,
   .unpackSequence, .unpackEx, .buildTuple, .buildList, .buildSet, .buildMap, .buildMapPairs,
   .buildConstKeyMap, .buildString, .storeMap, .listAppend, .setAdd, .mapAdd, .listToTuple,
   .listExtend, .setUpdate, .dictMerge, .dictUpdate, .formatValue,
   .compareOp, .isOp, .containsOp,
   .jumpForward, .jumpIfFalseOrPop, .jumpIfTrueOrPop, .jumpAbsolute, .popJumpIfFalse,
   .popJumpIfTrue, .jumpIfNotExcMatch,
   .callFunction, .callFunctionVar, .callFunctionKw, .callFunctionVarKw, .callFunctionCount,
   .callFunctionKwCount, .callFunctionEx, .callMethod,
   .extendedArg]

/-- The spelling of a mnemonic, as it appears in `Instruction.text`. -/
def name : Mnemonic → String
  | .stopCode => "STOP_CODE"
  | .popTop => "POP_TOP"
  | .rotTwo => "ROT_TWO"
  | .rotThree => "ROT_THREE"
  | .rotFour => "ROT_FOUR"
  | .dupTop => "DUP_TOP"
  | .dupTopTwo => "DUP_TOP_TWO"
  | .dupTopx => "DUP_TOPX"
  | .nop => "NOP"
  | .unaryPositive => "UNARY_POSITIVE"
  | .unaryNegative => "UNARY_NEGATIVE"
  | .unaryNot => "UNARY_NOT"
  | .unaryConvert => "UNARY_CONVERT"
  | .unaryInvert => "UNARY_INVERT"
  | .binaryPower => "BINARY_POWER"
  | .binaryMultiply => "BINARY_MULTIPLY"
  | .binaryMatrixMultiply => "BINARY_MATRIX_MULTIPLY"
  | .binaryDivide => "BINARY_DIVIDE"
  | .binaryModulo => "BINARY_MODULO"
  | .binaryAdd => "BINARY_ADD"
  | .binarySubtract => "BINARY_SUBTRACT"
  | .binarySubscr => "BINARY_SUBSCR"
  | .binaryFloorDivide => "BINARY_FLOOR_DIVIDE"
  | .binaryTrueDivide => "BINARY_TRUE_DIVIDE"
  | .binaryLshift => "BINARY_LSHIFT"
  | .binaryRshift => "BINARY_RSHIFT"
  | .binaryAnd => "BINARY_AND"
  | .binaryXor => "BINARY_XOR"
  | .binaryOr => "BINARY_OR"
  | .inplacePower => "INPLACE_POWER"
  | .inplaceMultiply => "INPLACE_MULTIPLY"
  | .inplaceMatrixMultiply => "INPLACE_MATRIX_MULTIPLY"
  | .inplaceDivide => "INPLACE_DIVIDE"
  | .inplaceModulo => "INPLACE_MODULO"
  | .inplaceAdd => "INPLACE_ADD"
  | .inplaceSubtract => "INPLACE_SUBTRACT"
  | .inplaceFloorDivide => "INPLACE_FLOOR_DIVIDE"
  | .inplaceTrueDivide => "INPLACE_TRUE_DIVIDE"
  | .inplaceLshift => "INPLACE_LSHIFT"
  | .inplaceRshift => "INPLACE_RSHIFT"
  | .inplaceAnd => "INPLACE_AND"
  | .inplaceXor => "INPLACE_XOR"
  | .inplaceOr => "INPLACE_OR"
  | .slice0 => "SLICE_0"
  | .slice1 => "SLICE_1"
  | .slice2 => "SLICE_2"
  | .slice3 => "SLICE_3"
  | .storeSlice0 => "STORE_SLICE_0"
  | .storeSlice1 => "STORE_SLICE_1"
  | .storeSlice2 => "STORE_SLICE_2"
  | .storeSlice3 => "STORE_SLICE_3"
  | .deleteSlice0 => "DELETE_SLICE_0"
  | .deleteSlice1 => "DELETE_SLICE_1"
  | .deleteSlice2 => "DELETE_SLICE_2"
  | .deleteSlice3 => "DELETE_SLICE_3"
  | .storeSubscr => "STORE_SUBSCR"
  | .deleteSubscr => "DELETE_SUBSCR"
  | .buildSlice => "BUILD_SLICE"
  | .getIter => "GET_ITER"
  | .getYieldFromIter => "GET_YIELD_FROM_ITER"
  | .getAiter => "GET_AITER"
  | .getAnext => "GET_ANEXT"
  | .getAwaitable => "GET_AWAITABLE"
  | .yieldValue => "YIELD_VALUE"
  | .yieldFrom => "YIELD_FROM"
  | .forIter => "FOR_ITER"
  | .endAsyncFor => "END_ASYNC_FOR"
  | .beforeAsyncWith => "BEFORE_ASYNC_WITH"
  | .printExpr => "PRINT_EXPR"
  | .printItem => "PRINT_ITEM"
  | .printNewline => "PRINT_NEWLINE"
  | .printItemTo => "PRINT_ITEM_TO"
  | .printNewlineTo => "PRINT_NEWLINE_TO"
  | .execStmt => "EXEC_STMT"
  | .importStar => "IMPORT_STAR"
  | .importName => "IMPORT_NAME"
  | .importFrom => "IMPORT_FROM"
  | .setupAnnotations => "SETUP_ANNOTATIONS"
  | .loadAssertionError => "LOAD_ASSERTION_ERROR"
  | .breakLoop => "BREAK_LOOP"
  | .continueLoop => "CONTINUE_LOOP"
  | .setupLoop => "SETUP_LOOP"
  | .setupExcept => "SETUP_EXCEPT"
  | .setupFinally => "SETUP_FINALLY"
  | .setupWith => "SETUP_WITH"
  | .setupAsyncWith => "SETUP_ASYNC_WITH"
  | .withCleanup => "WITH_CLEANUP"
  | .withExceptStart => "WITH_EXCEPT_START"
  | .popBlock => "POP_BLOCK"
  | .popExcept => "POP_EXCEPT"
  | .endFinally => "END_FINALLY"
  | .reraise => "RERAISE"
  | .raiseVarargs => "RAISE_VARARGS"
  | .returnValue => "RETURN_VALUE"
  | .loadLocals => "LOAD_LOCALS"
  | .buildClass => "BUILD_CLASS"
  | .loadBuildClass => "LOAD_BUILD_CLASS"
  | .makeFunction => "MAKE_FUNCTION"
  | .makeFunctionFlags => "MAKE_FUNCTION_FLAGS"
  | .makeClosure => "MAKE_CLOSURE"
  | .storeName => "STORE_NAME"
  | .deleteName => "DELETE_NAME"
  | .loadName => "LOAD_NAME"
  | .storeAttr => "STORE_ATTR"
  | .deleteAttr => "DELETE_ATTR"
  | .loadAttr => "LOAD_ATTR"
  | .storeGlobal => "STORE_GLOBAL"
  | .deleteGlobal => "DELETE_GLOBAL"
  | .loadGlobal => "LOAD_GLOBAL"
  | .loadConst => "LOAD_CONST"
  | .loadFast => "LOAD_FAST"
  | .storeFast => "STORE_FAST"
  | .deleteFast => "DELETE_FAST"
  | .loadClosure => "LOAD_CLOSURE"
  | .loadDeref => "LOAD_DEREF"
  | .storeDeref => "STORE_DEREF"
  | .deleteDeref => "DELETE_DEREF"
  | .loadClassderef => "LOAD_CLASSDEREF"
  | .loadMethod => "LOAD_METHOD"
  | .unpackSequence => "UNPACK_SEQUENCE"
  | .unpackEx => "UNPACK_EX"
  | .buildTuple => "BUILD_TUPLE"
  | .buildList => "BUILD_LIST"
  | .buildSet => "BUILD_SET"
  | .buildMap => "BUILD_MAP"
  | .buildMapPairs => "BUILD_MAP_PAIRS"
  | .buildConstKeyMap => "BUILD_CONST_KEY_MAP"
  | .buildString => "BUILD_STRING"
  | .storeMap => "STORE_MAP"
  | .listAppend => "LIST_APPEND"
  | .setAdd => "SET_ADD"
  | .mapAdd => "MAP_ADD"
  | .listToTuple => "LIST_TO_TUPLE"
  | .listExtend => "LIST_EXTEND"
  | .setUpdate => "SET_UPDATE"
  | .dictMerge => "DICT_MERGE"
  | .dictUpdate => "DICT_UPDATE"
  | .formatValue => "FORMAT_VALUE"
  | .compareOp => "COMPARE_OP"
  | .isOp => "IS_OP"
  | .containsOp => "CONTAINS_OP"
  | .jumpForward => "JUMP_FORWARD"
  | .jumpIfFalseOrPop => "JUMP_IF_FALSE_OR_POP"
  | .jumpIfTrueOrPop => "JUMP_IF_TRUE_OR_POP"
  | .jumpAbsolute => "JUMP_ABSOLUTE"
  | .popJumpIfFalse => "POP_JUMP_IF_FALSE"
  | .popJumpIfTrue => "POP_JUMP_IF_TRUE"
  | .jumpIfNotExcMatch => "JUMP_IF_NOT_EXC_MATCH"
  | .callFunction => "CALL_FUNCTION"
  | .callFunctionVar => "CALL_FUNCTION_VAR"
  | .callFunctionKw => "CALL_FUNCTION_KW"
  | .callFunctionVarKw => "CALL_FUNCTION_VAR_KW"
  | .callFunctionCount => "CALL_FUNCTION_COUNT"
  | .callFunctionKwCount => "CALL_FUNCTION_KW_COUNT"
  | .callFunctionEx => "CALL_FUNCTION_EX"
  | .callMethod => "CALL_METHOD"
  | .extendedArg => "EXTENDED_ARG"

/-- The mnemonic spelled `s`.  Case matters. -/
def ofName? (s : String) : Option Mnemonic :=
  all.find? fun m => m.name == s

/-! ### The catalog is complete -/

/-- The catalog `all` lists the operations in the order of their declaration. -/
theorem ctorIdx_catalog : all.map Mnemonic.ctorIdx = List.range all.length := by
  decide +kernel

theorem mem_catalog (m : Mnemonic) : m ∈ all := by
  have hlt : m.ctorIdx < 157 := by cases m <;> decide
  have hmem : m.ctorIdx ∈ all.map Mnemonic.ctorIdx := by
    rw [ctorIdx_catalog]
    exact List.mem_range.2 hlt
  obtain ⟨n, hn, hidx⟩ := List.mem_map.1 hmem
  have heq : n = m := by rw [← ofNat_ctorIdx n, hidx, ofNat_ctorIdx]
  rwa [heq] at hn

theorem nodup_catalog : all.Nodup := by
  have hidx : (all.map Mnemonic.ctorIdx).Nodup := by
    rw [ctorIdx_catalog]
    exact List.nodup_range
  have hne : ∀ m n : Mnemonic, m.ctorIdx ≠ n.ctorIdx → m ≠ n :=
    fun m n hne heq => hne (congrArg Mnemonic.ctorIdx heq)
  exact List.Pairwise.of_map Mnemonic.ctorIdx hne hidx

/-- The `name` of an operation leads back to it by `ofName?`. -/
theorem ofName?_name (m : Mnemonic) : ofName? m.name = some m := by
  have hall : ∀ m ∈ all, ofName? m.name = some m := by decide +kernel
  exact hall m m.mem_catalog

end Mnemonic
end Bytecode
