import Bytecode.Dialect.Basic

/-!
# The 3.9 dialect

The 3.9 numbering, laid out like the standard dialect: one opcode byte and, where the opcode takes
one, a two-byte operand.  Four spellings stand for another operation than in 2.7: calls take a plain
argument count, `MAKE_FUNCTION` takes flag bits and `BUILD_MAP` a count of pairs.
-/

namespace Bytecode.Dialect
open Opcode

/-- The least value of an opcode of `python39` that takes an argument. -/
def python39ArgThreshold : Int := 90

/-- The least value of an opcode of `python39` whose argument may be widened. -/
def python39ExtendedArgThreshold : Int := 144

/-- The opcode set of version 3.9.  Four of the `entries` are `renamed`: they took over the spelling
of an operation that does something else. -/
def python39 : Dialect where
  key := .shipped "py39"
  name := "Py39Opcode"
  entries :=
    [row "POP_TOP" 1 .simple,
     row "ROT_TWO" 2 .simple,
     row "ROT_THREE" 3 .simple,
     row "DUP_TOP" 4 .simple,
     row "DUP_TOP_TWO" 5 .simple,
     row "ROT_FOUR" 6 .simple,
     row "NOP" 9 .simple,
     row "UNARY_POSITIVE" 10 .simple,
     row "UNARY_NEGATIVE" 11 .simple,
     row "UNARY_NOT" 12 .simple,
     row "UNARY_INVERT" 15 .simple,
     row "BINARY_MATRIX_MULTIPLY" 16 .simple,
     row "INPLACE_MATRIX_MULTIPLY" 17 .simple,
     row "BINARY_POWER" 19 .simple,
     row "BINARY_MULTIPLY" 20 .simple,
     row "BINARY_MODULO" 22 .simple,
     row "BINARY_ADD" 23 .simple,
     row "BINARY_SUBTRACT" 24 .simple,
     row "BINARY_SUBSCR" 25 .simple,
     row "BINARY_FLOOR_DIVIDE" 26 .simple,
     row "BINARY_TRUE_DIVIDE" 27 .simple,
     row "INPLACE_FLOOR_DIVIDE" 28 .simple,
     row "INPLACE_TRUE_DIVIDE" 29 .simple,
     row "RERAISE" 48 .simple,
     row "WITH_EXCEPT_START" 49 .simple,
     row "GET_AITER" 50 .simple,
     row "GET_ANEXT" 51 .simple,
     row "BEFORE_ASYNC_WITH" 52 .simple,
     row "END_ASYNC_FOR" 54 .simple,
     row "INPLACE_ADD" 55 .simple,
     row "INPLACE_SUBTRACT" 56 .simple,
     row "INPLACE_MULTIPLY" 57 .simple,
     row "INPLACE_MODULO" 59 .simple,
     row "STORE_SUBSCR" 60 .simple,
     row "DELETE_SUBSCR" 61 .simple,
     row "BINARY_LSHIFT" 62 .simple,
     row "BINARY_RSHIFT" 63 .simple,
     row "BINARY_AND" 64 .simple,
     row "BINARY_XOR" 65 .simple,
     row "BINARY_OR" 66 .simple,
     row "INPLACE_POWER" 67 .simple,
     row "GET_ITER" 68 .simple,
     row "GET_YIELD_FROM_ITER" 69 .simple,
     row "PRINT_EXPR" 70 .simple,
     row "LOAD_BUILD_CLASS" 71 .simple,
     row "YIELD_FROM" 72 .simple,
     row "GET_AWAITABLE" 73 .simple,
     row "LOAD_ASSERTION_ERROR" 74 .simple,
     row "INPLACE_LSHIFT" 75 .simple,
     row "INPLACE_RSHIFT" 76 .simple,
     row "INPLACE_AND" 77 .simple,
     row "INPLACE_XOR" 78 .simple,
     row "INPLACE_OR" 79 .simple,
     row "LIST_TO_TUPLE" 82 .simple,
     row "RETURN_VALUE" 83 .simple,
     row "IMPORT_STAR" 84 .simple,
     row "SETUP_ANNOTATIONS" 85 .simple,
     row "YIELD_VALUE" 86 .simple,
     row "POP_BLOCK" 87 .simple,
     row "POP_EXCEPT" 89 .simple,
     row "STORE_NAME" 90 .named,
     row "DELETE_NAME" 91 .named,
     row "UNPACK_SEQUENCE" 92 .simple,
     row "FOR_ITER" 93 .handler,
     row "UNPACK_EX" 94 .simple,
     row "STORE_ATTR" 95 .named,
     row "DELETE_ATTR" 96 .named,
     row "STORE_GLOBAL" 97 .named,
     row "DELETE_GLOBAL" 98 .named,
     row "LOAD_CONST" 100 .constant,
     row "LOAD_NAME" 101 .named,
     row "BUILD_TUPLE" 102 .simple,
     row "BUILD_LIST" 103 .simple,
     row "BUILD_SET" 104 .simple,
     renamed "BUILD_MAP" .buildMapPairs 105 .simple,
     row "LOAD_ATTR" 106 .named,
     row "COMPARE_OP" 107 .comparison,
     row "IMPORT_NAME" 108 .named,
     row "IMPORT_FROM" 109 .named,
     row "JUMP_FORWARD" 110 .jump,
     row "JUMP_IF_FALSE_OR_POP" 111 .branchTo,
     row "JUMP_IF_TRUE_OR_POP" 112 .branchTo,
     row "JUMP_ABSOLUTE" 113 .jumpTo,
     row "POP_JUMP_IF_FALSE" 114 .branchTo,
     row "POP_JUMP_IF_TRUE" 115 .branchTo,
     row "LOAD_GLOBAL" 116 .named,
     row "IS_OP" 117 .simple,
     row "CONTAINS_OP" 118 .simple,
     row "JUMP_IF_NOT_EXC_MATCH" 121 .branchTo,
     row "SETUP_FINALLY" 122 .handler,
     row "LOAD_FAST" 124 .localVariable,
     row "STORE_FAST" 125 .localVariable,
     row "DELETE_FAST" 126 .localVariable,
     row "RAISE_VARARGS" 130 .simple,
     renamed "CALL_FUNCTION" .callFunctionCount 131 .simple,
     renamed "MAKE_FUNCTION" .makeFunctionFlags 132 .simple,
     row "BUILD_SLICE" 133 .simple,
     row "LOAD_CLOSURE" 135 .freeVariable,
     row "LOAD_DEREF" 136 .freeVariable,
     row "STORE_DEREF" 137 .freeVariable,
     row "DELETE_DEREF" 138 .freeVariable,
     renamed "CALL_FUNCTION_KW" .callFunctionKwCount 141 .simple,
     row "CALL_FUNCTION_EX" 142 .simple,
     row "SETUP_WITH" 143 .handler,
     row "EXTENDED_ARG" 144 .simple,
     row "LIST_APPEND" 145 .simple,
     row "SET_ADD" 146 .simple,
     row "MAP_ADD" 147 .simple,
     row "LOAD_CLASSDEREF" 148 .freeVariable,
     row "SETUP_ASYNC_WITH" 154 .handler,
     row "FORMAT_VALUE" 155 .simple,
     row "BUILD_CONST_KEY_MAP" 156 .simple,
     row "BUILD_STRING" 157 .simple,
     row "LOAD_METHOD" 160 .named,
     row "CALL_METHOD" 161 .simple,
     row "LIST_EXTEND" 162 .simple,
     row "SET_UPDATE" 163 .simple,
     row "DICT_MERGE" 164 .simple,
     row "DICT_UPDATE" 165 .simple].map (classify python39ArgThreshold python39ExtendedArgThreshold)

end Bytecode.Dialect
