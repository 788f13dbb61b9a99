import Bytecode.Proofs.Attempt

/-!
# The account of the reads

A stream over a source that reads use up comes to an end, and what it brings settles the reads that
it makes: one or two for each instruction, and one or two for the attempt that stops it
(`Reader.run_reads_accounted`).

Each read of an instruction is answered with bytes, and so takes something off the source.  The same
is true of the opcode whose operand fails.  So only the last read of a stream may find nothing, and
a stream makes at most one read more than its source has to give.
-/

namespace Bytecode

theorem Reply.size_of_data? {reply : Reply} {data : List UInt8} (h : reply.data? = some data) :
    reply.size = data.length := by
  cases reply with
  | bytes _ =>
    obtain rfl := Option.some.inj h
    rfl
  | nothing =>
    obtain rfl := Option.some.inj h
    rfl
  | failure f => cases h

namespace Reader

variable {d : Dialect} {r last : Reader} {i : Instruction} {is : List Instruction} {e : Fault}

/-- Each of the reads of `i` takes something off the `supply`. -/
theorem supply_of_yields (hr : r.source.depletes = true)
    (h : Yields d (r.read 1).1 ((r.read 1).2.read 2).1 i) :
    (r.after i.reads).source.supply + i.reads.length ≤ r.source.supply := by
  cases h with
  | bare _ hbyte _ harg =>
    have hopcode : (r.read 1).2.source.supply < r.source.supply := Source.supply_read_lt hr hbyte
    rw [Instruction.reads, harg]
    exact hopcode
  | whole _ hbyte _ harg hdata =>
    have hopcode : (r.read 1).2.source.supply < r.source.supply := Source.supply_read_lt hr hbyte
    have hr' : (r.read 1).2.source.depletes = true := (Source.depletes_read 1 r.source).trans hr
    have hoperand : ((r.read 1).2.read 2).2.source.supply < (r.read 1).2.source.supply :=
      Source.supply_read_lt hr' hdata
    rw [Instruction.reads, harg]
    show ((r.read 1).2.read 2).2.source.supply + 2 ≤ r.source.supply
    omega

/-- So do all reads of all instructions `is` that `Repeats` lists. -/
theorem Repeats.supply_le (h : r.Repeats d is last e) (hr : r.source.depletes = true) :
    last.source.supply + (is.flatMap Instruction.reads).length ≤ r.source.supply := by
  induction h with
  | stop _ => exact Nat.le_refl _
  | @next r last i is e h rest ih =>
    obtain ⟨hyields, hreader, -⟩ := advance_of_decode h 0
    have hfirst := supply_of_yields hr hyields
    have hrest := ih ((r.depletes_decode d).trans hr)
    rw [← hreader] at hfirst
    rw [List.flatMap_cons, List.length_append]
    omega

/-- The attempt that `Stops` a stream makes at most one read more than there is to give: where it
makes two, the first has brought the opcode. -/
theorem length_of_stops {cut : UInt8 → List Event} {operand : Reply} {tail : List Nat}
    {fault : Option Fault} {events : List Event} (hr : r.source.depletes = true)
    (h : Stops d cut (r.read 1).1 operand tail fault events) :
    tail.length ≤ r.source.supply + 1 := by
  have hone : [1].length ≤ r.source.supply + 1 := Nat.le_add_left 1 _
  have htwo : ∀ byte, (r.read 1).1 = .bytes [byte] → [1, 2].length ≤ r.source.supply + 1 := by
    intro byte hbyte
    have hopcode : (r.read 1).2.source.supply < r.source.supply := Source.supply_read_lt hr hbyte
    show 2 ≤ r.source.supply + 1
    omega
  cases h with
  | clean _ => exact hone
  | atOpcode _ => exact hone
  | atOperand h =>
    cases h with
    | read hbyte _ _ _ _ => exact htwo _ hbyte
    | short hbyte _ _ _ _ _ => exact htwo _ hbyte

/-- A clean end, which is `none` in `Stops`, takes no bytes. -/
theorem consumed_of_clean {cut : UInt8 → List Event} {operand : Reply} {tail : List Nat}
    {events : List Event} (h : Stops d cut (r.read 1).1 operand tail none events) :
    (r.after tail).consumed = r.consumed := by
  cases h with
  | clean h =>
    show r.consumed + (r.read 1).1.size = r.consumed
    rw [Reply.size_of_data? h]
    rfl

/-- A stream that `Stops` has not gone on for ever. -/
theorem ne_endless_of_stops {cut : UInt8 → List Event} {opcode operand : Reply} {tail : List Nat}
    {fault : Option Fault} {events : List Event}
    (h : Stops d cut opcode operand tail fault events) : fault ≠ some .endless := by
  rintro rfl
  cases h with
  | atOpcode h =>
    cases h with
    | read h => cases h
  | atOperand h =>
    cases h with
    | read _ _ _ _ h => cases h

end Reader

theorem Run.result_eq_ok_iff {run : Run} {is : List Instruction} :
    run.result = .ok is ↔ run.fault = none ∧ run.instructions = is := by
  unfold result
  cases run.fault <;> simp

/-- **A stream makes at most one read more than the `supply` of its source.** -/
theorem Run.length_reads_le (d : Dialect) (offset : Nat) (r : Reader)
    (hr : r.source.depletes = true) :
    (resume d offset r).reader.reads.length ≤ r.reads.length + (r.source.supply + 1) := by
  obtain ⟨last, e, hrep, -, -⟩ := resume_repeats d offset r hr
  obtain ⟨hlast, -, -⟩ := hrep.resume_eq hr offset
  obtain ⟨-, tail, hstops, hreader⟩ := resume_stops d offset r hr
  rw [← hlast] at hstops hreader
  have hdepletes : last.source.depletes = true := by
    rw [hlast, Reader.depletes_after, hr]
  have hsupply := hrep.supply_le hr
  have htail := Reader.length_of_stops hdepletes hstops
  rw [hreader, Reader.reads_after, hlast, Reader.reads_after, List.length_append,
    List.length_append]
  omega

/-- **Read accounting and termination.**  A stream over a `source` that reads use up (`depletes`)
ends.  Its reads are the `Instruction.reads` of the instructions that it brings, in order, and those
of the attempt that `Stops` it: one read, unless that attempt failed on an operand.  So there is at
most one read for each reply of a `script`, or for each byte of a `reader`, and one more.  A stream
that succeeds has taken the bytes of its instructions, and no others. -/
theorem Reader.run_reads_accounted (d : Dialect) (source : Source)
    (hsource : source.depletes = true) :
    let start := ofSource source
    let run := start.run d
    let reads := run.instructions.flatMap Instruction.reads
    let last := start.after reads
    run.fault ≠ some .endless ∧
    (∃ tail,
      Stops d (fun byte => [.truncated (Instruction.totalSize run.instructions) byte])
        (last.read 1).1 ((last.read 1).2.read 2).1 tail run.fault run.events ∧
      run.reader.reads = reads ++ tail) ∧
    (∀ replies, source = .script replies → run.reader.reads.length ≤ replies.length + 1) ∧
    (∀ data, source = .reader data → run.reader.reads.length ≤ data.length + 1) ∧
    (∀ is, run.result = .ok is → run.reader.consumed = Instruction.totalSize is) := by
  intro start run reads last
  obtain ⟨hconsumed, tail, hstops, hreader⟩ := run_stops d source hsource
  have hlength : run.reader.reads.length ≤ 0 + (source.supply + 1) :=
    Run.length_reads_le d 0 start hsource
  rw [Nat.zero_add] at hlength
  have hreads : run.reader.reads = reads ++ tail := by
    show ((start.run d).reader).reads = _
    rw [hreader, reads_after, reads_after]
    rfl
  refine ⟨ne_endless_of_stops hstops, ⟨tail, hstops, hreads⟩, ?_, ?_, ?_⟩
  · rintro replies rfl
    exact hlength
  · rintro data rfl
    exact hlength
  · intro is hok
    obtain ⟨hfault, rfl⟩ := Run.result_eq_ok_iff.1 hok
    replace hfault : (start.run d).fault = none := hfault
    rw [hfault] at hstops
    show (start.run d).reader.consumed = Instruction.totalSize (start.run d).instructions
    rw [hreader, consumed_of_clean hstops, hconsumed]

/-- A `script` that answers with three bytes where two are asked for, with nothing left after it:
its five reads are those of two instructions and of an attempt that fails on its operand. -/
theorem Reader.run_reads_accounted_over_read :
    let replies : List Reply :=
      [.bytes [9], .bytes [100], .bytes [1, 0], .bytes [100], .bytes [1, 2, 3]]
    let run := (ofSource (.script replies)).run .standard
    (Source.script replies).depletes = true ∧
    run.fault = some (.decode (.sourceFailed (.overRead 2 3))) ∧
    run.reader.reads = [1] ++ [1, 2] ++ [1, 2] ∧
    run.fault ≠ some .endless ∧ run.reader.reads.length ≤ replies.length + 1 := by
  intro replies run
  have hfault : run.fault = some (.decode (.sourceFailed (.overRead 2 3))) := by decide +kernel
  have hreads : run.reader.reads = [1] ++ [1, 2] ++ [1, 2] := by decide +kernel
  obtain ⟨hends, -, hlength, -, -⟩ := run_reads_accounted .standard (.script replies) rfl
  exact ⟨rfl, hfault, hreads, hends, hlength replies rfl⟩

end Bytecode
