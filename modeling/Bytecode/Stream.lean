import Bytecode.Decode

/-!
# Streams of instructions

A stream is decoded one instruction after the other until a read for an opcode comes back empty,
which is a clean end, or until something goes wrong.  A stream that is cut short within an
instruction is reported with the offset at which the instruction begins.
-/

namespace Bytecode

/-- Whether a fault is `DecodeError.truncated`, the end of input within an instruction. -/
def Fault.isTruncation : Fault → Bool
  | .decode (.truncated ..) => true
  | _ => false

/-- What a stream reports, beyond what `finish` does, about the outcome of the instruction that
begins at `offset` with `byte`. -/
def truncationEvents (offset : Nat) (byte : UInt8) : Except Fault Instruction → List Event
  | .ok _ => []
  | .error e => if e.isTruncation then [.truncated offset byte] else []

namespace Reader

/-- Decodes the instruction of a stream that begins at `offset`, if there is one. -/
def advance (d : Dialect) (offset : Nat) (r : Reader) : Outcome (Option Instruction) :=
  (r.fetch 1).andThen fun data r =>
    match data with
    | [] => .pure none r
    | byte :: _ =>
      let o := finish d byte r
      ⟨o.result.map some, o.reader, o.events ++ truncationEvents offset byte o.result⟩

end Reader

/-- What came of decoding a stream to its end, or of resuming it (`Run.resume`). -/
structure Run where
  /-- The instructions, in order. -/
  instructions : List Instruction
  /-- What ended the stream, or `none` if it ended cleanly. -/
  fault : Option Fault
  reader : Reader
  events : List Event

namespace Run

/-- Decodes the stream that goes on at `offset`.  Each instruction uses up some of the
`Source.supply`, so the stream ends; a `greedy` source alone uses nothing up, and a stream over it
that yields one instruction would go on for ever. -/
def resume (d : Dialect) (offset : Nat) (r : Reader) : Run :=
  let o := r.advance d offset
  match o.result with
  | .error e => ⟨[], some e, o.reader, o.events⟩
  | .ok none => ⟨[], none, o.reader, o.events⟩
  | .ok (some i) =>
    if o.reader.source.supply < r.source.supply then
      let rest := Run.resume d (offset + i.size) o.reader
      ⟨i :: rest.instructions, rest.fault, rest.reader, o.events ++ rest.events⟩
    else
      ⟨[i], some .endless, o.reader, o.events⟩
termination_by r.source.supply

/-- The instructions of `run` as a whole: all of them, or its `fault`. -/
def result (run : Run) : Except Fault (List Instruction) :=
  match run.fault with
  | none => .ok run.instructions
  | some e => .error e

end Run

namespace Reader

/-- Decodes the stream of `r` from its beginning to its end. -/
def run (d : Dialect) (r : Reader) : Run :=
  Run.resume d 0 r

/-- Decodes the stream of `r` as a whole: the `Run.result` of the run. -/
def decodeAll (d : Dialect) (r : Reader) : Outcome (List Instruction) :=
  let run := r.run d
  ⟨run.result, run.reader, run.events⟩

end Reader
end Bytecode
