import Bytecode.StackEffect
import Bytecode.Stream

/-!
# Analysis of a stream

The analysis of a stream is the text and the stack effect of each of its instructions.  The stream
is decoded lazily, so an instruction that has no text ends the analysis before anything more is
read.
-/

namespace Bytecode

/-- An instruction as the analysis shows it: its `text` and its `effect`. -/
structure Analysis.Item where
  text : String
  effect : Except Fault Int

/-- What came of `Analysis.resume`. -/
structure Analysis where
  items : List Analysis.Item
  /-- What ended the analysis, if it did not end cleanly. -/
  fault : Option Fault
  reader : Reader
  events : List Event

namespace Analysis

/-- Analyses the stream that goes on at `offset`.  It ends as `Run.resume` does. -/
def resume (d : Dialect) (offset : Nat) (r : Reader) : Analysis :=
  let o := r.advance d offset
  match o.result with
  | .error e => ⟨[], some e, o.reader, o.events⟩
  | .ok none => ⟨[], none, o.reader, o.events⟩
  | .ok (some i) =>
    match i.text with
    | .error e => ⟨[], some e, o.reader, o.events⟩
    | .ok text =>
      let effect := i.stackEffect
      if o.reader.source.supply < r.source.supply then
        let rest := resume d (offset + i.size) o.reader
        ⟨⟨text, effect.result⟩ :: rest.items, rest.fault, rest.reader,
          o.events ++ effect.events ++ rest.events⟩
      else
        ⟨[⟨text, effect.result⟩], some .endless, o.reader, o.events ++ effect.events⟩
termination_by r.source.supply

end Analysis

/-- Analyses the stream of `r` from its beginning. -/
def Reader.analyze (d : Dialect) (r : Reader) : Analysis :=
  Analysis.resume d 0 r

end Bytecode
