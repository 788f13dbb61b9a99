import Bytecode.Settings
import Bytecode.Stream

/-!
# Inputs and cursors

An input is a reader, which all its uses share, or a plain buffer, from whose beginning each use
starts.

A cursor decodes a stream one instruction at a time.  It is lazy: a cursor made without a dialect
takes the default of the settings that are in force when it is first advanced, and keeps it.
-/

namespace Bytecode

/-- What streams are read from. -/
inductive Input where
  /-- The bytes `data` in memory. -/
  | buffer (data : List UInt8)
  /-- The reader `r`, which all uses share. -/
  | reader (r : Reader)

/-- The reader for a use of the input.  That of a `buffer` starts at its beginning. -/
def Input.toReader : Input → Reader
  | .buffer data => .ofBytes data
  | .reader r => r

/-- The input after a use that left the reader as `r`.  A `buffer` does not notice. -/
def Input.after (r : Reader) : Input → Input
  | .buffer data => .buffer data
  | .reader _ => .reader r

/-- How far a `Cursor` has come. -/
inductive Cursor.Stage where
  /-- Not advanced yet.  Without a `dialect`, the default is still to be looked up. -/
  | waiting (dialect : Option Dialect)
  /-- The next instruction of `dialect` begins at `offset`. -/
  | running (dialect : Dialect) (offset : Nat)
  /-- At the end, cleanly or not. -/
  | finished

/-- A stream that is decoded one instruction at a time, and how far that has come (`stage`). -/
structure Cursor where
  stage : Cursor.Stage
  /-- The cursor's own reader, over a `buffer`.  Without one it uses the shared reader. -/
  own : Option Reader

namespace Cursor

/-- A cursor on `input` that was not advanced yet. -/
def new (dialect : Option Dialect) (input : Input) : Cursor :=
  { stage := .waiting dialect
    own := match input with
      | .buffer data => some (.ofBytes data)
      | .reader _ => none }

/-- The stage after an attempt to decode an instruction at `offset`. -/
def Stage.after (d : Dialect) (offset : Nat) : Except Fault (Option Instruction) → Stage
  | .ok (some i) => .running d (offset + i.size)
  | .ok none => .finished
  | .error _ => .finished

/-- Decodes the instruction of `d` at `offset`, if there is one, by `Reader.advance`. -/
def Stage.resume (d : Dialect) (offset : Nat) (r : Reader) : Outcome (Option Instruction) × Stage :=
  let o := r.advance d offset
  (o, .after d offset o.result)

/-- Advances a stage over `r`: the instruction there, if any, and the stage after it.  A cursor that
is `waiting` for its dialect gets the default of `s` now, and one that cannot get it is `finished`.
A finished stage reads nothing and says nothing. -/
def Stage.advance (s : Settings) (r : Reader) : Stage → Outcome (Option Instruction) × Stage
  | .waiting dialect =>
    match dialect.elim s.defaultDialect .ok with
    | .ok d => resume d 0 r
    | .error e => (.fail e r [], .finished)
  | .running d offset => resume d offset r
  | .finished => (.pure none r, .finished)

end Cursor

end Bytecode
