import Bytecode.Dialect.Basic

/-!
# The 2.7 dialect

The 2.7 numbering, which is the standard dialect.
-/

namespace Bytecode.Dialect
open Opcode

/-- The least value of an opcode of `python27` that takes an argument. -/
def python27ArgThreshold : Int := 90

/-- The least value of an opcode of `python27` whose argument may be widened. -/
def python27ExtendedArgThreshold : Int := 144

/-- The opcode set of version 2.7.  The `entries` stand for the operations they are spelled like. -/
def python27 : Dialect where
  key := .shipped "py27"
  name := "Py27Opcode"
  entries :=
    [row "STOP_CODE" 0 .simple,
     row "POP_TOP" 1 .simple,
     row "ROT_TWO" 2 .simple,
     row "ROT_THREE" 3 .simple,
     row "DUP_TOP" 4 .simple,
     row "DUP_TOP_TWO" 5 .simple,
     row "ROT_FOUR" 6 .simple,
     row "NOP" 9 .simple,
     row "UNARY_POSITIVE" 10 .simple,
     row "UNARY_NEGATIVE" 11 .simple,
     row "UNARY_NOT" 12 .simple,
     row "UNARY_CONVERT" 13 .simple,
     row "UNARY_INVERT" 15 .simple,
     row "BINARY_POWER" 19 .simple,
     row "BINARY_MULTIPLY" 20 .simple,
     row "BINARY_DIVIDE" 21 .simple,
     row "BINARY_MODULO" 22 .simple,
     row "BINARY_ADD" 23 .simple,
     row "BINARY_SUBTRACT" 24 .simple,
     row "BINARY_SUBSCR" 25 .simple,
     row "BINARY_FLOOR_DIVIDE" 26 .simple,
     row "BINARY_TRUE_DIVIDE" 27 .simple,
     row "INPLACE_FLOOR_DIVIDE" 28 .simple,
     row "INPLACE_TRUE_DIVIDE" 29 .simple,
     row "SLICE_0" 30 .simple,
     row "SLICE_1" 31 .simple,
     row "SLICE_2" 32 .simple,
     row "SLICE_3" 33 .simple,
     row "STORE_SLICE_0" 40 .simple,
     row "STORE_SLICE_1" 41 .simple,
     row "STORE_SLICE_2" 42 .simple,
     row "STORE_SLICE_3" 43 .simple,
     row "DELETE_SLICE_0" 50 .simple,
     row "DELETE_SLICE_1" 51 .simple,
     row "DELETE_SLICE_2" 52 .simple,
     row "DELETE_SLICE_3" 53 .simple,
     row "STORE_MAP" 54 .simple,
     row "INPLACE_ADD" 55 .simple,
     row "INPLACE_SUBTRACT" 56 .simple,
     row "INPLACE_MULTIPLY" 57 .simple,
     row "INPLACE_DIVIDE" 58 .simple,
     row "INPLACE_MODULO" 59 .simple,
     row "STORE_SUBSCR" 60 .simple,
     row "DELETE_SUBSCR" 61 .simple,
     row "BINARY_LSHIFT" 62 .simple,
     row "BINARY_RSHIFT" 63 .simple,
     row "BINARY_AND" 64 .simple,
     row "BINARY_XOR" 65 .simple,
     row "BINARY_OR" 66 .simple,
     row "INPLACE_POWER" 67 .simple,
     row "GET_ITER" 68 .simple,
     row "PRINT_EXPR" 70 .simple,
     row "PRINT_ITEM" 71 .simple,
     row "PRINT_NEWLINE" 72 .simple,
     row "PRINT_ITEM_TO" 73 .simple,
     row "PRINT_NEWLINE_TO" 74 .simple,
     row "INPLACE_LSHIFT" 75 .simple,
     row "INPLACE_RSHIFT" 76 .simple,
     row "INPLACE_AND" 77 .simple,
     row "INPLACE_XOR" 78 .simple,
     row "INPLACE_OR" 79 .simple,
     row "BREAK_LOOP" 80 .simple,
     row "WITH_CLEANUP" 81 .simple,
     row "LOAD_LOCALS" 82 .simple,
     row "RETURN_VALUE" 83 .simple,
     row "IMPORT_STAR" 84 .simple,
     row "EXEC_STMT" 85 .simple,
     row "YIELD_VALUE" 86 .simple,
     row "POP_BLOCK" 87 .simple,
     row "END_FINALLY" 88 .simple,
     row "BUILD_CLASS" 89 .simple,
     row "STORE_NAME" 90 .named,
     row "DELETE_NAME" 91 .named,
     row "UNPACK_SEQUENCE" 92 .simple,
     row "FOR_ITER" 93 .handler,
     row "LIST_APPEND" 94 .simple,
     row "STORE_ATTR" 95 .named,
     row "DELETE_ATTR" 96 .named,
     row "STORE_GLOBAL" 97 .named,
     row "DELETE_GLOBAL" 98 .named,
     row "DUP_TOPX" 99 .simple,
     row "LOAD_CONST" 100 .constant,
     row "LOAD_NAME" 101 .named,
     row "BUILD_TUPLE" 102 .simple,
     row "BUILD_LIST" 103 .simple,
     row "BUILD_SET" 104 .simple,
     row "BUILD_MAP" 105 .simple,
     row "LOAD_ATTR" 106 .named,
     row "COMPARE_OP" 107 .comparison,
     row "IMPORT_NAME" 108 .named,
     row "IMPORT_FROM" 109 .named,
     row "JUMP_FORWARD" 110 .jump,
     row "JUMP_IF_FALSE_OR_POP" 111 .branchTo,
     row "JUMP_IF_TRUE_OR_POP" 112 .branchTo,
     row "JUMP_ABSOLUTE" 113 .jumpTo,
     row "POP_JUMP_IF_FALSE" 114 .branchTo,
     row "POP_JUMP_IF_TRUE" 115 .branchTo,
     row "LOAD_GLOBAL" 116 .named,
     row "CONTINUE_LOOP" 119 .jumpTo,
     row "SETUP_LOOP" 120 .handler,
     row "SETUP_EXCEPT" 121 .handler,
     row "SETUP_FINALLY" 122 .handler,
     row "LOAD_FAST" 124 .localVariable,
     row "STORE_FAST" 125 .localVariable,
     row "DELETE_FAST" 126 .localVariable,
     row "RAISE_VARARGS" 130 .simple,
     row "CALL_FUNCTION" 131 .simple,
     row "MAKE_FUNCTION" 132 .simple,
     row "BUILD_SLICE" 133 .simple,
     row "MAKE_CLOSURE" 134 .simple,
     row "LOAD_CLOSURE" 135 .freeVariable,
     row "LOAD_DEREF" 136 .freeVariable,
     row "STORE_DEREF" 137 .freeVariable,
     row "CALL_FUNCTION_VAR" 140 .simple,
     row "CALL_FUNCTION_KW" 141 .simple,
     row "CALL_FUNCTION_VAR_KW" 142 .simple,
     row "SETUP_WITH" 143 .handler,
     row "EXTENDED_ARG" 145 .simple,
     row "SET_ADD" 146 .simple,
     row "MAP_ADD" 147 .simple].map (classify python27ArgThreshold python27ExtendedArgThreshold)

end Bytecode.Dialect
