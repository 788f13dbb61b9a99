import Bytecode.Proofs.Acceptance

/-!
# What one attempt comes to

To decode an instruction is to make one read for its opcode and, if the opcode takes an argument,
one more for its operand.  What comes of that is settled by the answers to these reads alone: an
instruction (`Yields`), a missing opcode, a failure at the opcode (`FailsAtOpcode`) or a failure at
the operand (`FailsAtOperand`).  `Attempt` says for each of them how many bytes were asked for and
what is reported, and it says so of single instructions and of streams (`Reader.decode_attempt`,
`Reader.advance_attempt`).

A whole stream is its instructions, about which nothing is reported, and then one attempt that stops
it (`Run.resume_stops`).
-/

namespace Bytecode

/-! ### Reads one after the other -/

/-- The sizes of the reads that `i` takes: one byte for its opcode and, if it has an argument, two
for its operand. -/
def Instruction.reads (i : Instruction) : List Nat :=
  if i.arg.isSome then [1, 2] else [1]

/-- The number of bytes that encode the instructions `is`. -/
def Instruction.totalSize (is : List Instruction) : Nat :=
  is.foldr (fun i size => i.size + size) 0

theorem Instruction.totalSize_cons (i : Instruction) (is : List Instruction) :
    totalSize (i :: is) = i.size + totalSize is := rfl

namespace Reader

/-- The reader after reads of these `sizes` from `r`. -/
def after (r : Reader) (sizes : List Nat) : Reader :=
  sizes.foldl (fun r n => (r.read n).2) r

theorem after_cons (r : Reader) (n : Nat) (sizes : List Nat) :
    r.after (n :: sizes) = (r.read n).2.after sizes := rfl

theorem after_append (r : Reader) (sizes later : List Nat) :
    r.after (sizes ++ later) = (r.after sizes).after later :=
  List.foldl_append

/-- The account of `after` lists the `sizes` of the reads. -/
theorem reads_after (r : Reader) (sizes : List Nat) : (r.after sizes).reads = r.reads ++ sizes := by
  induction sizes generalizing r with
  | nil => exact (List.append_nil _).symm
  | cons n sizes ih =>
    rw [after_cons, ih]
    exact List.append_assoc ..

theorem depletes_after (r : Reader) (sizes : List Nat) :
    (r.after sizes).source.depletes = r.source.depletes := by
  induction sizes generalizing r with
  | nil => rfl
  | cons n sizes ih =>
    rw [after_cons, ih]
    exact Source.depletes_read n r.source

end Reader

/-! ### What comes of the answers -/

/-- An answer to a read of `n` bytes that is a failure, with the fault that it leads to and what is
reported about it. -/
inductive Reply.Fails (n : Nat) : Reply → Fault → List Event → Prop where
  | overRead {data : List UInt8} (hlen : n < data.length) :
      Fails n (.bytes data) (.decode (.sourceFailed (.overRead n data.length)))
        [.overRead n data.length]
  | system {f : Failure} (hf : f.kind.isSystem = true) :
      Fails n (.failure f) (.decode (.sourceFailed f)) [.sourceFailed n f.text]
  | other {f : Failure} (hf : f.kind.isSystem = false) : Fails n (.failure f) (.raised f) []

/-- The answer `opcode` to the read of an opcode is a failure, or it is a byte that leads
nowhere. -/
inductive FailsAtOpcode (d : Dialect) (opcode : Reply) : Fault → List Event → Prop where
  | read {e : Fault} {events : List Event} (h : opcode.Fails 1 e events) :
      FailsAtOpcode d opcode e events
  /-- The `byte` is not assigned. -/
  | unknown {byte : UInt8} (hbyte : opcode = .bytes [byte])
      (hop : ∀ op ∈ d.members, op.value ≠ byte.toNat) :
      FailsAtOpcode d opcode (.decode (.unknownOpcode byte.toNat (some d.name)))
        [.unknownOpcode byte d.name]
  /-- The dialect `d` does not say whether `op` takes an argument. -/
  | unclassified {byte : UInt8} {op : Opcode} (hbyte : opcode = .bytes [byte])
      (mem : op ∈ d.members) (hv : op.value = byte.toNat) (harg : d.hasArg? op = none) :
      FailsAtOpcode d opcode .unclassifiedArgument []

/-- An opcode that takes an argument was read, and the answer `operand` to the read of its operand
is a failure or too short.  Of the latter, `cut` says what is reported about the opcode byte. -/
inductive FailsAtOperand (d : Dialect) (cut : UInt8 → List Event) (opcode operand : Reply) :
    Fault → List Event → Prop where
  | read {byte : UInt8} {op : Opcode} {e : Fault} {events : List Event}
      (hbyte : opcode = .bytes [byte]) (mem : op ∈ d.members) (hv : op.value = byte.toNat)
      (harg : d.hasArg? op = some true) (h : operand.Fails 2 e events) :
      FailsAtOperand d cut opcode operand e events
  | short {byte : UInt8} {op : Opcode} {data : List UInt8} (hbyte : opcode = .bytes [byte])
      (mem : op ∈ d.members) (hv : op.value = byte.toNat) (harg : d.hasArg? op = some true)
      (hdata : operand.data? = some data) (hlen : data.length < 2) :
      FailsAtOperand d cut opcode operand (.decode (.truncated 2 data.length)) (cut byte)

/-- The answers `opcode` and `operand` spell `i`, the second one only if `i` has an argument. -/
inductive Yields (d : Dialect) (opcode operand : Reply) (i : Instruction) : Prop where
  | bare {byte : UInt8} (hd : i.dialect = d) (hbyte : opcode = .bytes [byte])
      (hv : i.opcode.value = byte.toNat) (harg : i.arg = none) : Yields d opcode operand i
  | whole {byte : UInt8} {arg : UInt16} (hd : i.dialect = d) (hbyte : opcode = .bytes [byte])
      (hv : i.opcode.value = byte.toNat) (harg : i.arg = some arg)
      (hdata : operand = .bytes (Operand.toBytes arg)) : Yields d opcode operand i

/-- **What an attempt at an instruction comes to**, given the answers `opcode` and `operand` to the
reads that it may make: the sizes of the reads that it makes, its result and what is reported. -/
inductive Attempt (d : Dialect) (cut : UInt8 → List Event) (opcode operand : Reply) :
    List Nat → Except Fault Instruction → List Event → Prop where
  | yields {i : Instruction} (h : Yields d opcode operand i) :
      Attempt d cut opcode operand i.reads (.ok i) []
  | missing (h : opcode.data? = some []) :
      Attempt d cut opcode operand [1] (.error (.decode (.truncated 1 0))) []
  | atOpcode {e : Fault} {events : List Event} (h : FailsAtOpcode d opcode e events) :
      Attempt d cut opcode operand [1] (.error e) events
  | atOperand {e : Fault} {events : List Event}
      (h : FailsAtOperand d cut opcode operand e events) :
      Attempt d cut opcode operand [1, 2] (.error e) events

/-- **How a stream stops**, given the answers `opcode` and `operand` to the reads of its last
attempt: the sizes of these reads, what ended the stream, if it did not end cleanly, and what is
reported. -/
inductive Stops (d : Dialect) (cut : UInt8 → List Event) (opcode operand : Reply) :
    List Nat → Option Fault → List Event → Prop where
  | clean (h : opcode.data? = some []) : Stops d cut opcode operand [1] none []
  | atOpcode {e : Fault} {events : List Event} (h : FailsAtOpcode d opcode e events) :
      Stops d cut opcode operand [1] (some e) events
  | atOperand {e : Fault} {events : List Event}
      (h : FailsAtOperand d cut opcode operand e events) :
      Stops d cut opcode operand [1, 2] (some e) events

/-- What `cut` reports, beyond what the reads and the opcode `byte` lead to, about an opcode byte
whose operand is cut short. -/
def cutEvents (cut : UInt8 → List Event) (byte : UInt8) : Except Fault Instruction → List Event
  | .ok _ => []
  | .error e => if e.isTruncation then cut byte else []

theorem cutEvents_stream (offset : Nat) (byte : UInt8) (result : Except Fault Instruction) :
    cutEvents (fun byte => [.truncated offset byte]) byte result =
      truncationEvents offset byte result := by
  cases result <;> rfl

theorem cutEvents_none (byte : UInt8) (result : Except Fault Instruction) :
    cutEvents (fun _ => []) byte result = [] := by
  cases result with
  | ok i => rfl
  | error e => exact ite_self []

/-- A reply that `Fails` is no truncation. -/
theorem Reply.Fails.isTruncation {n : Nat} {reply : Reply} {e : Fault} {events : List Event}
    (h : reply.Fails n e events) : e.isTruncation = false := by
  cases h <;> rfl

namespace Reader

variable {d : Dialect} {r : Reader}

/-- What `fetch` gives is what was answered, unless the answer `Fails`. -/
theorem fetch_answer (r : Reader) (n : Nat) :
    (∃ data, (r.read n).1.data? = some data ∧ data.length ≤ n ∧
      r.fetch n = .pure data (r.read n).2) ∨
    ∃ e events, (r.read n).1.Fails n e events ∧ r.fetch n = .fail e (r.read n).2 events := by
  rcases fetch_cases r n with h | ⟨data, hreply, hlen, hf⟩ | ⟨f, hreply, hkind, hf⟩ |
    ⟨f, hreply, hkind, hf⟩
  · exact .inl h
  · rw [hreply]
    exact .inr ⟨_, _, .overRead hlen, hf⟩
  · rw [hreply]
    exact .inr ⟨_, _, .system hkind, hf⟩
  · rw [hreply]
    exact .inr ⟨_, _, .other hkind, hf⟩

/-- The operand of `fetchOperand` is whole, cut short, or its read fails. -/
theorem fetchOperand_answer (r : Reader) :
    (∃ arg, (r.read 2).1 = .bytes (Operand.toBytes arg) ∧
      r.fetchOperand = .pure arg (r.read 2).2) ∨
    (∃ data, (r.read 2).1.data? = some data ∧ data.length < 2 ∧
      r.fetchOperand = .fail (.decode (.truncated 2 data.length)) (r.read 2).2 []) ∨
    ∃ e events, (r.read 2).1.Fails 2 e events ∧
      r.fetchOperand = .fail e (r.read 2).2 events := by
  unfold fetchOperand
  rcases fetch_answer r 2 with ⟨data, hdata, hlen, hf⟩ | ⟨e, events, hfails, hf⟩
  · rw [hf]
    match data, hlen, hdata with
    | [], _, hdata => exact .inr (.inl ⟨[], hdata, Nat.zero_lt_two, rfl⟩)
    | [byte], _, hdata => exact .inr (.inl ⟨[byte], hdata, Nat.one_lt_two, rfl⟩)
    | [low, high], _, hdata =>
      refine .inl ⟨Operand.ofBytes low high, ?_, rfl⟩
      rw [Operand.toBytes_ofBytes]
      exact Reply.eq_bytes_of_data? hdata
    | _ :: _ :: _ :: _, hlen, _ =>
      simp only [List.length_cons] at hlen
      omega
  · rw [hf]
    exact .inr (.inr ⟨e, events, hfails, rfl⟩)

/-- What follows an opcode `byte` completes the `Attempt` that it began. -/
theorem finish_attempt (d : Dialect) (cut : UInt8 → List Event) (byte : UInt8) (r : Reader) :
    let o := finish d byte r
    ∃ sizes, Attempt d cut (.bytes [byte]) (r.read 2).1 (1 :: sizes) o.result
        (o.events ++ cutEvents cut byte o.result) ∧
      o.reader = r.after sizes := by
  rcases finish_cases d byte with ⟨hop, h⟩ | ⟨op, hop, harg, h⟩ | ⟨op, hop, harg, h⟩ |
    ⟨op, hop, harg, h⟩
  · rw [h]
    exact ⟨[], .atOpcode (.unknown rfl (Dialect.ofValue?_eq_none_iff.1 hop)), rfl⟩
  · rw [h]
    have mem := Dialect.mem_members_of_ofValue? hop
    exact ⟨[], .atOpcode (.unclassified rfl mem (Dialect.value_of_ofValue? hop) harg), rfl⟩
  · have hyields : Yields d (.bytes [byte]) (r.read 2).1
        ⟨d, op, none, Dialect.mem_members_of_ofValue? hop, harg⟩ :=
      .bare rfl rfl (Dialect.value_of_ofValue? hop) rfl
    rw [h]
    exact ⟨[], .yields hyields, rfl⟩
  · have mem := Dialect.mem_members_of_ofValue? hop
    have hv := Dialect.value_of_ofValue? hop
    rw [h]
    rcases fetchOperand_answer r with ⟨arg, hreply, hf⟩ | ⟨data, hdata, hlen, hf⟩ |
      ⟨e, events, hfails, hf⟩
    · have hyields : Yields d (.bytes [byte]) (r.read 2).1 ⟨d, op, some arg, mem, harg⟩ :=
        .whole rfl rfl hv rfl hreply
      rw [hf]
      exact ⟨[2], .yields hyields, rfl⟩
    · rw [hf]
      exact ⟨[2], .atOperand (.short rfl mem hv harg hdata hlen), rfl⟩
    · have hcut : cutEvents cut byte (.error e) = [] := by
        rw [cutEvents, hfails.isTruncation]
        rfl
      rw [hf]
      refine ⟨[2], ?_, rfl⟩
      show Attempt d cut _ _ _ (.error e) (events ++ cutEvents cut byte (.error e))
      rw [hcut, List.append_nil]
      exact .atOperand (.read rfl mem hv harg hfails)

/-- The `fetch` of an opcode brings nothing, one byte, or a failure. -/
theorem fetch_one_answer (r : Reader) :
    ((r.read 1).1.data? = some [] ∧ r.fetch 1 = .pure [] (r.read 1).2) ∨
    (∃ byte, (r.read 1).1 = .bytes [byte] ∧ r.fetch 1 = .pure [byte] (r.read 1).2) ∨
    ∃ e events, (r.read 1).1.Fails 1 e events ∧ r.fetch 1 = .fail e (r.read 1).2 events := by
  rcases fetch_answer r 1 with ⟨data, hdata, hlen, hf⟩ | hfails
  · match data, hlen, hdata, hf with
    | [], _, hdata, hf => exact .inl ⟨hdata, hf⟩
    | [byte], _, hdata, hf => exact .inr (.inl ⟨byte, Reply.eq_bytes_of_data? hdata, hf⟩)
    | _ :: _ :: _, hlen, _, _ =>
      simp only [List.length_cons] at hlen
      omega
  · exact .inr (.inr hfails)

/-- **`decode` is an `Attempt`** that reports nothing about an operand that is cut short. -/
theorem decode_attempt (d : Dialect) (r : Reader) :
    ∃ sizes, Attempt d (fun _ => []) (r.read 1).1 ((r.read 1).2.read 2).1 sizes
        (r.decode d).result (r.decode d).events ∧
      (r.decode d).reader = r.after sizes := by
  unfold decode
  rcases fetch_one_answer r with ⟨hdata, hf⟩ | ⟨byte, hbyte, hf⟩ | ⟨e, events, hfails, hf⟩
  · rw [hf]
    exact ⟨[1], .missing hdata, rfl⟩
  · obtain ⟨sizes, hattempt, hreader⟩ := finish_attempt d (fun _ => []) byte (r.read 1).2
    rw [cutEvents_none, List.append_nil] at hattempt
    rw [hf, hbyte]
    exact ⟨1 :: sizes, hattempt, hreader⟩
  · rw [hf]
    exact ⟨[1], .atOpcode (.read hfails), rfl⟩

/-- **`advance` is an `Attempt`** that reports the `offset` of an instruction that is cut short. -/
theorem advance_attempt (d : Dialect) (offset : Nat) (r : Reader) :
    ∃ sizes, Attempt d (fun byte => [.truncated offset byte]) (r.read 1).1
        ((r.read 1).2.read 2).1 sizes (r.decode d).result (r.advance d offset).events ∧
      (r.decode d).reader = r.after sizes := by
  unfold advance decode
  rcases fetch_one_answer r with ⟨hdata, hf⟩ | ⟨byte, hbyte, hf⟩ | ⟨e, events, hfails, hf⟩
  · rw [hf]
    exact ⟨[1], .missing hdata, rfl⟩
  · obtain ⟨sizes, hattempt, hreader⟩ :=
      finish_attempt d (fun byte => [.truncated offset byte]) byte (r.read 1).2
    rw [cutEvents_stream] at hattempt
    rw [hf, hbyte]
    exact ⟨1 :: sizes, hattempt, hreader⟩
  · rw [hf]
    exact ⟨[1], .atOpcode (.read hfails), rfl⟩

/-- An instruction `i` is spelled by the answers to its reads (`Yields`), and nothing is reported
about it. -/
theorem advance_of_decode {i : Instruction} (h : (r.decode d).result = .ok i) (offset : Nat) :
    Yields d (r.read 1).1 ((r.read 1).2.read 2).1 i ∧
      (r.decode d).reader = r.after i.reads ∧ (r.advance d offset).events = [] := by
  obtain ⟨sizes, hattempt, hreader⟩ := r.advance_attempt d offset
  rw [h] at hattempt
  generalize (r.advance d offset).events = events at hattempt
  cases hattempt with
  | yields hyields => exact ⟨hyields, hreader, rfl⟩

/-- The bytes of `i` are handed out by its reads. -/
theorem consumed_of_yields {i : Instruction}
    (h : Yields d (r.read 1).1 ((r.read 1).2.read 2).1 i) :
    (r.after i.reads).consumed = r.consumed + i.size := by
  have hopcode : ∀ byte, (r.read 1).1 = .bytes [byte] →
      (r.read 1).2.consumed = r.consumed + 1 := by
    intro byte hbyte
    show r.consumed + (r.read 1).1.size = _
    rw [hbyte]
    rfl
  cases h with
  | @bare byte _ hbyte _ harg =>
    rw [Instruction.reads, Instruction.size, harg]
    exact hopcode byte hbyte
  | @whole byte arg _ hbyte _ harg hdata =>
    rw [Instruction.reads, Instruction.size, harg]
    show (r.read 1).2.consumed + ((r.read 1).2.read 2).1.size = _
    rw [hopcode byte hbyte, hdata]
    rfl

end Reader

/-! ### Whole streams -/

namespace Run

variable {d : Dialect} {r : Reader}

theorem resume_of_decode {i : Instruction} (hr : r.source.depletes = true)
    (h : (r.decode d).result = .ok i) (offset : Nat) :
    resume d offset r =
      let rest := resume d (offset + i.size) (r.decode d).reader
      ⟨i :: rest.instructions, rest.fault, rest.reader, rest.events⟩ := by
  have hresult := r.advance_result d offset
  rw [h] at hresult
  rw [resume_of_instruction hresult (supply_advance_lt hr hresult), Reader.advance_reader,
    (Reader.advance_of_decode h offset).2.2]
  rfl

end Run

/-- **Repeated single instructions are a stream.**  The reader `last`, from which `decode` fails
with `e`, is the one after the reads of `is`, which have handed out the bytes of `is`, and only that
last attempt is reported on. -/
theorem Reader.Repeats.resume_eq {d : Dialect} {r last : Reader} {is : List Instruction} {e : Fault}
    (h : r.Repeats d is last e) (hr : r.source.depletes = true) (offset : Nat) :
    last = r.after (is.flatMap Instruction.reads) ∧
    last.consumed = r.consumed + Instruction.totalSize is ∧
    Run.resume d offset r =
      ⟨is, if e.isMissingOpcode then none else some e, (last.decode d).reader,
        (last.advance d (offset + Instruction.totalSize is)).events⟩ := by
  induction h generalizing offset with
  | stop h => exact ⟨rfl, rfl, Run.resume_of_decode_error h offset⟩
  | @next r last i is e h rest ih =>
    obtain ⟨hyields, hreader, -⟩ := advance_of_decode h offset
    obtain ⟨hlast, hconsumed, hrun⟩ := ih ((r.depletes_decode d).trans hr) (offset + i.size)
    refine ⟨?_, ?_, ?_⟩
    · rw [hlast, hreader, List.flatMap_cons, after_append]
    · rw [hconsumed, hreader, consumed_of_yields hyields, Instruction.totalSize_cons,
        Nat.add_assoc]
    · rw [Run.resume_of_decode hr h, hrun, Instruction.totalSize_cons, Nat.add_assoc]

/-- An `Attempt` that fails with `e` stops a stream, cleanly if only the opcode was missing. -/
theorem Attempt.stops {d : Dialect} {cut : UInt8 → List Event} {opcode operand : Reply}
    {sizes : List Nat} {e : Fault} {events : List Event}
    (h : Attempt d cut opcode operand sizes (.error e) events) :
    Stops d cut opcode operand sizes (if e.isMissingOpcode then none else some e) events := by
  cases h with
  | missing h => exact .clean h
  | atOpcode h =>
    have he : e.isMissingOpcode = false := by
      cases h with
      | read h => cases h <;> rfl
      | unknown _ _ => rfl
      | unclassified _ _ _ _ => rfl
    rw [he]
    exact .atOpcode h
  | atOperand h =>
    have he : e.isMissingOpcode = false := by
      cases h with
      | read _ _ _ _ h => cases h <;> rfl
      | short _ _ _ _ _ _ => rfl
    rw [he]
    exact .atOperand h

/-- **A stream is its instructions and then one attempt that stops it.**  From the reader `last`
after the reads of its instructions, `resume` makes the reads `tail` of an attempt that `Stops`
it. -/
theorem Run.resume_stops (d : Dialect) (offset : Nat) (r : Reader)
    (hr : r.source.depletes = true) :
    let run := resume d offset r
    let last := r.after (run.instructions.flatMap Instruction.reads)
    last.consumed = r.consumed + Instruction.totalSize run.instructions ∧
    ∃ tail,
      Stops d (fun byte => [.truncated (offset + Instruction.totalSize run.instructions) byte])
        (last.read 1).1 ((last.read 1).2.read 2).1 tail run.fault run.events ∧
      run.reader = last.after tail := by
  intro run last
  obtain ⟨last', e, hrep, -, -⟩ := resume_repeats d offset r hr
  obtain ⟨hlast, hconsumed, hrun⟩ := hrep.resume_eq hr offset
  obtain rfl : last' = last := hlast
  replace hrun : run = _ := hrun
  obtain ⟨tail, hattempt, hreader⟩ :=
    last.advance_attempt d (offset + Instruction.totalSize run.instructions)
  rw [hrep.fails] at hattempt
  refine ⟨hconsumed, tail, ?_, ?_⟩
  · have hstops := hattempt.stops
    have hfault : run.fault = _ := congrArg Run.fault hrun
    have hevents : run.events = _ := congrArg Run.events hrun
    rw [hfault, hevents]
    exact hstops
  · rw [← hreader]
    exact congrArg Run.reader hrun

/-- `Run.resume_stops` for a stream from its beginning. -/
theorem Reader.run_stops (d : Dialect) (source : Source) (hsource : source.depletes = true) :
    let run := (ofSource source).run d
    let last := (ofSource source).after (run.instructions.flatMap Instruction.reads)
    last.consumed = Instruction.totalSize run.instructions ∧
    ∃ tail, Stops d (fun byte => [.truncated (Instruction.totalSize run.instructions) byte])
        (last.read 1).1 ((last.read 1).2.read 2).1 tail run.fault run.events ∧
      run.reader = last.after tail := by
  intro run last
  obtain ⟨hconsumed, hstops⟩ := Run.resume_stops d 0 (ofSource source) hsource
  rw [Nat.zero_add] at hstops
  exact ⟨hconsumed.trans (Nat.zero_add _), hstops⟩

end Bytecode
