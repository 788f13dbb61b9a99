import Bytecode.Opcode

/-!
# Dialects

A dialect numbers the opcodes: it is an ordered table of them.  An entry whose value was used before
is an alias: it is no member, and its name leads to the first entry with that value.  Nothing else
is required of a table here; what a sound one looks like is the business of validation.

A member is exactly an opcode that its own value leads to (`mem_members_iff`), so members of one
value are equal.
-/

namespace Bytecode

/-- What tells dialects apart, beyond what they contain. -/
inductive Dialect.Key where
  /-- The dialect of the library called `name`. -/
  | shipped (name : String)
  /-- A dialect that a caller declared under `name`.  Two declarations are two dialects, even if
  they agree in all they say. -/
  | declared (name : String)
deriving DecidableEq

/-- A numbering of opcodes: a table of `Opcode`s with a name. -/
structure Dialect where
  key : Dialect.Key
  /-- How texts such as `Instruction.debugText` refer to the dialect. -/
  name : String
  /-- The table, in order of definition, aliases included. -/
  entries : List Opcode
  /-- Whether the dialect says which opcodes take an argument, that is, whether `hasArg?` has an
  answer. -/
  classifiesArg : Bool := true
  /-- Whether the dialect says which opcodes take a widened argument, that is, whether
  `hasExtendedArg?` has an answer. -/
  classifiesExtendedArg : Bool := true
deriving DecidableEq

namespace Dialect

/-- A dialect declared by a caller.  If it `isAbstract`, it says nothing on arguments, or on widened
arguments, unless some of the `entries` is marked as taking one. -/
def declare (key name : String) (entries : List Opcode) (isAbstract : Bool) : Dialect where
  key := .declared key
  name := name
  entries := entries
  classifiesArg := !isAbstract || entries.any (·.traits.hasArg)
  classifiesExtendedArg := !isAbstract || entries.any (·.traits.hasExtendedArg)

/-- The entries whose `value` occurs in no earlier entry. -/
def firstOfEachValue : List Opcode → List Opcode
  | [] => []
  | op :: rest => op :: (firstOfEachValue rest).filter (·.value ≠ op.value)

/-- The opcodes of `d` in order of definition, without aliases: `firstOfEachValue` of the
`entries`. -/
def members (d : Dialect) : List Opcode :=
  firstOfEachValue d.entries

/-- The opcode of `d` with the number `value`: the first entry that has it. -/
def ofValue? (d : Dialect) (value : Int) : Option Opcode :=
  d.entries.find? (·.value = value)

/-- The opcode of `d` called `name`.  The name of an alias gives the opcode with its value. -/
def ofName? (d : Dialect) (name : String) : Option Opcode :=
  (d.entries.find? (·.name = name)).bind fun op => d.ofValue? op.value

/-- The first member of `d` that stands for the same (`Label.same`) as `label`.  A member that fails
to say what it stands for ends the search. -/
def ofLabel (d : Dialect) (label : Label) : Except Fault Opcode :=
  search d.members
where
  search : List Opcode → Except Fault Opcode
    | [] => label.name.bind fun name => .error (.noOpcodeFor d.name name)
    | op :: rest =>
      match op.label with
      | .error e => .error e
      | .ok l => if l.same label then .ok op else search rest

/-- Whether `op` takes an argument, if `d` says so. -/
def hasArg? (d : Dialect) (op : Opcode) : Option Bool :=
  if d.classifiesArg then some op.traits.hasArg else none

/-- Whether `op` takes a widened argument, if `d` says so. -/
def hasExtendedArg? (d : Dialect) (op : Opcode) : Option Bool :=
  if d.classifiesExtendedArg then some op.traits.hasExtendedArg else none

/-! ### Members and look-ups -/

/-- An entry `op` is the first of its value exactly if a search for its value ends at it. -/
theorem mem_firstOfEachValue_iff {es : List Opcode} {op : Opcode} :
    op ∈ firstOfEachValue es ↔ es.find? (·.value = op.value) = some op := by
  induction es with
  | nil => simp [firstOfEachValue]
  | cons e es ih =>
    rw [firstOfEachValue, List.mem_cons, List.mem_filter, ih, List.find?_cons]
    by_cases he : e.value = op.value
    · simp [he, eq_comm]
    · have hne : op ≠ e := fun h => he (by rw [h])
      simp [he, hne, Ne.symm he]

/-- **Members are what values lead to**: `op` is one exactly if `ofValue?` of its value gives
`op`. -/
theorem mem_members_iff {d : Dialect} {op : Opcode} :
    op ∈ d.members ↔ d.ofValue? op.value = some op :=
  mem_firstOfEachValue_iff

/-- What `ofValue?` gives for `v` has the value `v`. -/
theorem value_of_ofValue? {d : Dialect} {v : Int} {op : Opcode}
    (h : d.ofValue? v = some op) : op.value = v := by
  simpa using List.find?_some h

/-- What `ofValue?` gives is a member. -/
theorem mem_members_of_ofValue? {d : Dialect} {v : Int} {op : Opcode}
    (h : d.ofValue? v = some op) : op ∈ d.members := by
  rw [mem_members_iff, value_of_ofValue? h, h]

/-- What `ofName?` gives is a member. -/
theorem mem_members_of_ofName? {d : Dialect} {s : String} {op : Opcode}
    (h : d.ofName? s = some op) : op ∈ d.members := by
  obtain ⟨_, _, he⟩ := Option.bind_eq_some_iff.1 h
  exact mem_members_of_ofValue? he

end Dialect

/-- A way to point at an opcode of a dialect: by its `name` or by its `value`. -/
inductive Selector where
  | name (s : String)
  | value (v : Int)
deriving DecidableEq

/-- The opcode of `d` that a selector points at, with the fact that it is one of the `members`. -/
def Dialect.select (d : Dialect) : Selector → Except Fault { op : Opcode // op ∈ d.members }
  | .name s =>
    match h : d.ofName? s with
    | some op => .ok ⟨op, mem_members_of_ofName? h⟩
    | none => .error (.unknownName s)
  | .value v =>
    match h : d.ofValue? v with
    | some op => .ok ⟨op, mem_members_of_ofValue? h⟩
    | none => .error (.unknownValue v d.name)

end Bytecode
