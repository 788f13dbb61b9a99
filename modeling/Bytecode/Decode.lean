import Bytecode.Dialect.Registry
import Bytecode.Instruction
import Bytecode.Log.Event
import Bytecode.Source

/-!
# Decoding one instruction

An instruction takes one read for the opcode byte and, if the opcode takes an argument, one read for
the two bytes of the operand.  A read that comes up short is not repeated, and a source that gives
more than was asked for is taken to have failed.

What follows an opcode byte is one of four things: nothing, because the byte is not assigned
(`finish_unknown`) or the dialect does not classify it (`finish_unclassified`), a bare instruction
(`finish_bare`), or an operand (`finish_operand`).
-/

namespace Bytecode

/-- What came of using a reader: a `result`, the `reader` after it and the `events` on the way. -/
structure Outcome (α : Type) where
  result : Except Fault α
  reader : Reader
  events : List Event

namespace Outcome

variable {α β : Type}

/-- The result `a`, which leaves the reader `r` alone and reports nothing. -/
def pure (a : α) (r : Reader) : Outcome α :=
  ⟨.ok a, r, []⟩

/-- The fault `e`, with the `events` that are reported about it. -/
def fail (e : Fault) (r : Reader) (events : List Event) : Outcome α :=
  ⟨.error e, r, events⟩

/-- Goes on with the result of `o` and the reader after it by `f`.  A fault of `o` ends the
matter. -/
def andThen (o : Outcome α) (f : α → Reader → Outcome β) : Outcome β :=
  match o.result with
  | .error e => ⟨.error e, o.reader, o.events⟩
  | .ok a =>
    let next := f a o.reader
    ⟨next.result, next.reader, o.events ++ next.events⟩

/-- Applies `f` to the result of `o`. -/
def map (f : α → β) (o : Outcome α) : Outcome β :=
  ⟨o.result.map f, o.reader, o.events⟩

end Outcome

namespace Reader

/-- One read of at most `n` bytes.  `Reply.nothing` counts as no bytes.  Failures of the operating
system and answers of more than `n` bytes are decoding errors; other failures pass through as
`Fault.raised`. -/
def fetch (r : Reader) (n : Nat) : Outcome (List UInt8) :=
  let answer := r.read n
  match answer.1 with
  | .nothing => .pure [] answer.2
  | .bytes data =>
    if n < data.length then
      .fail (.decode (.sourceFailed (.overRead n data.length))) answer.2
        [.overRead n data.length]
    else
      .pure data answer.2
  | .failure f =>
    if f.kind.isSystem then
      .fail (.decode (.sourceFailed f)) answer.2 [.sourceFailed n f.text]
    else
      .fail (.raised f) answer.2 []

/-- Reads the two bytes of an operand, by one `fetch`. -/
def fetchOperand (r : Reader) : Outcome UInt16 :=
  (r.fetch 2).andThen fun data r =>
    match data with
    | [low, high] => .pure (Operand.ofBytes low high) r
    | data => .fail (.decode (.truncated 2 data.length)) r []

/-- Decodes the instruction of `d` whose opcode `byte` was read already. -/
def finish (d : Dialect) (byte : UInt8) (r : Reader) : Outcome Instruction :=
  match hop : d.ofValue? byte.toNat with
  | none =>
    .fail (.decode (.unknownOpcode byte.toNat (some d.name))) r [.unknownOpcode byte d.name]
  | some op =>
    have mem := Dialect.mem_members_of_ofValue? hop
    match harg : d.hasArg? op with
    | none => .fail .unclassifiedArgument r []
    | some false => .pure ⟨d, op, none, mem, harg⟩ r
    | some true => r.fetchOperand.map fun arg => ⟨d, op, some arg, mem, harg⟩

/-- Decodes one instruction of `d`: a `fetch` of the opcode byte, and then `finish`. -/
def decode (d : Dialect) (r : Reader) : Outcome Instruction :=
  (r.fetch 1).andThen fun data r =>
    match data with
    | [] => .fail (.decode (.truncated 1 0)) r []
    | byte :: _ => finish d byte r

/-! ### What a read and an opcode byte lead to -/

/-- Over plain bytes `fetch` gives what there is of the `n` bytes asked for. -/
theorem fetch_reader (rest : List UInt8) (consumed : Nat) (reads : List Nat) (n : Nat) :
    (⟨.reader rest, consumed, reads⟩ : Reader).fetch n =
      .pure (rest.take n)
        ⟨.reader (rest.drop n), consumed + (rest.take n).length, reads ++ [n]⟩ := by
  simp only [fetch, read, Source.read, Reply.size]
  rw [if_neg (by rw [List.length_take]; omega)]

/-- A `byte` that `d` does not assign ends the matter. -/
theorem finish_unknown {d : Dialect} {byte : UInt8} (hop : d.ofValue? byte.toNat = none)
    (r : Reader) :
    finish d byte r =
      .fail (.decode (.unknownOpcode byte.toNat (some d.name))) r
        [.unknownOpcode byte d.name] := by
  unfold finish
  split
  · rfl
  · simp_all

/-- An opcode `op` of which `d` does not say whether it takes an argument ends the matter, too. -/
theorem finish_unclassified {d : Dialect} {byte : UInt8} {op : Opcode}
    (hop : d.ofValue? byte.toNat = some op) (harg : d.hasArg? op = none) (r : Reader) :
    finish d byte r = .fail .unclassifiedArgument r [] := by
  unfold finish
  split
  · simp_all
  · rename_i op' hop'
    obtain rfl : op = op' := Option.some.inj (hop.symm.trans hop')
    split
    · rfl
    · rename_i harg'
      rw [harg] at harg'
      cases harg'
    · rename_i harg'
      rw [harg] at harg'
      cases harg'

/-- An opcode `op` that takes no argument is an instruction. -/
theorem finish_bare {d : Dialect} {byte : UInt8} {op : Opcode}
    (hop : d.ofValue? byte.toNat = some op) (harg : d.hasArg? op = some false) (r : Reader) :
    finish d byte r =
      .pure ⟨d, op, none, Dialect.mem_members_of_ofValue? hop, harg⟩ r := by
  unfold finish
  split
  · simp_all
  · rename_i op' hop'
    obtain rfl : op = op' := Option.some.inj (hop.symm.trans hop')
    split
    · simp_all
    · rfl
    · rename_i harg'
      rw [harg] at harg'
      cases harg'

/-- An opcode `op` that takes an argument makes an instruction with the operand of
`fetchOperand`. -/
theorem finish_operand {d : Dialect} {byte : UInt8} {op : Opcode}
    (hop : d.ofValue? byte.toNat = some op) (harg : d.hasArg? op = some true) (r : Reader) :
    finish d byte r =
      r.fetchOperand.map fun arg =>
        ⟨d, op, some arg, Dialect.mem_members_of_ofValue? hop, harg⟩ := by
  unfold finish
  split
  · simp_all
  · rename_i op' hop'
    obtain rfl : op = op' := Option.some.inj (hop.symm.trans hop')
    split
    · simp_all
    · rename_i harg'
      rw [harg] at harg'
      cases harg'
    · rfl

end Reader
end Bytecode
