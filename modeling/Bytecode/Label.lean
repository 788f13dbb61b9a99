import Bytecode.Mnemonic
import Bytecode.Text.Quoted

/-!
# Labels

A label is what an opcode stands for.  Most opcodes stand for a mnemonic of the catalog.  A
declared dialect may also point outside it: to a member of a foreign catalog, which has a name but
no stack effect even if it is spelled like a mnemonic, or to a plain value, which has no name at
all.
-/

namespace Bytecode

/-- A value without a name of its own, as a `Label` may be. -/
inductive PlainValue where
  | text (s : String)
  | number (n : Int)
  | null
deriving DecidableEq

namespace PlainValue

/-- The value as bare text. -/
def bare : PlainValue → String
  | .text s => s
  | .number n => toString n
  | .null => "None"

/-- The value as a literal, which tells a number from its digits as `text`. -/
def literal : PlainValue → String
  | .text s => Text.quoted s
  | .number n => toString n
  | .null => "None"

/-- The word for the kind of value. -/
def kindName : PlainValue → String
  | .text _ => "str"
  | .number _ => "int"
  | .null => "NoneType"

/-- Whether all occurrences of a value are one and the same.  That is so of `null`, of a `number`
from -5 to 256, and of a `text` of at most one Latin-1 character; every occurrence of another value
stands for itself. -/
def isShared : PlainValue → Bool
  | .text s => s.length ≤ 1 && s.toList.all (fun c => c.toNat < 0x100)
  | .number n => -5 ≤ n && n ≤ 256
  | .null => true

end PlainValue

/-- What an `Opcode` stands for. -/
inductive Label where
  /-- The operation `m` of the catalog. -/
  | catalog (m : Mnemonic)
  /-- The member `name` of another catalog.  Foreign catalogs are plain enumerations: a member is
  equal to itself alone, so that `catalogName` and `name` tell members apart.  Enumerations of
  numbers, whose members are equal across catalogs if their values are, are not among them. -/
  | foreign (catalogName name : String)
  /-- The value `v`, which has no name. -/
  | plain (v : PlainValue)
deriving DecidableEq

namespace Label

/-- The name of a label, or else the `PlainValue` that has none. -/
def spelling : Label → Except PlainValue String
  | .catalog m => .ok m.name
  | .foreign _ name => .ok name
  | .plain v => .error v

/-- The `spelling` of a label, if it has one. -/
def name? (l : Label) : Option String :=
  l.spelling.toOption

/-- The full text of a label: a member of a catalog is qualified by the name of the catalog, and a
`plain` value is shown `PlainValue.bare`. -/
def text : Label → String
  | .catalog m => "Mnemonic." ++ m.name
  | .foreign catalogName name => catalogName ++ "." ++ name
  | .plain v => v.bare

/-- How an error message refers to a label: by its `spelling`, or as a `PlainValue.literal`. -/
def shown (l : Label) : String :=
  match l.spelling with
  | .ok name => name
  | .error v => v.literal

/-- Whether `a` and `b` are one and the same thing.  Members of a catalog are told apart by what
they are; two occurrences of a plain value only match if it is `PlainValue.isShared`. -/
def same (a b : Label) : Bool :=
  match a with
  | .plain v => v.isShared && a == b
  | _ => a == b

end Label

/-- How an entry of a dialect says what it stands for: by the `name` of a mnemonic, which may turn
out not to exist, or directly by a `label`. -/
inductive LabelRef where
  | named (name : String)
  | direct (label : Label)
deriving DecidableEq

end Bytecode
