import Bytecode.Cursor
import Bytecode.Proofs.ReadAccount

/-!
# What is logged about a result

Decoding reports nothing about instructions, and at most one event about what ended it.  That event
tells what the fault tells (`Event.Agrees`): the byte that is not assigned, the text of the failure,
the numbers of bytes asked for and given.  Of an instruction that is cut short, a stream reports
where it begins, and a single instruction reports nothing.  `Logged` says all this of a result, of
the reads made for it and of the events on the way, and it holds of every stream and of every
single instruction (`Input.events_agree_with_result`).
-/

namespace Bytecode

/-! ### Events and faults -/

namespace Reader

/-- The last of the reads of these `sizes` asked for `n` bytes and was answered with `reply`. -/
def LastRead (start : Reader) (sizes : List Nat) (n : Nat) (reply : Reply) : Prop :=
  ∃ before, sizes = before ++ [n] ∧ ((start.after before).read n).1 = reply

/-- The last two of the reads of these `sizes` gave the `byte` of an opcode that takes an argument
and, in place of the two bytes of its operand, only `received`. -/
def CutShort (d : Dialect) (start : Reader) (sizes : List Nat) (byte : UInt8) (received : Int) :
    Prop :=
  ∃ before op data, sizes = before ++ [1, 2] ∧
    ((start.after before).read 1).1 = .bytes [byte] ∧
    op ∈ d.members ∧ op.value = byte.toNat ∧ d.hasArg? op = some true ∧
    (((start.after before).read 1).2.read 2).1.data? = some data ∧ data.length < 2 ∧
    received = data.length

end Reader

/-- **An event that tells what a fault tells**, after reads of these `sizes` from `start`. -/
inductive Event.Agrees (d : Dialect) (start : Reader) (sizes : List Nat) :
    Event → Fault → Prop where
  | unknown {byte : UInt8} (hread : start.LastRead sizes 1 (.bytes [byte]))
      (hop : ∀ op ∈ d.members, op.value ≠ byte.toNat) :
      Agrees d start sizes (.unknownOpcode byte d.name)
        (.decode (.unknownOpcode byte.toNat (some d.name)))
  | failed {n : Nat} {f : Failure} (hread : start.LastRead sizes n (.failure f))
      (hf : f.kind.isSystem = true) :
      Agrees d start sizes (.sourceFailed n f.text) (.decode (.sourceFailed f))
  | overRead {n : Nat} {data : List UInt8} (hread : start.LastRead sizes n (.bytes data))
      (hlen : n < data.length) :
      Agrees d start sizes (.overRead n data.length)
        (.decode (.sourceFailed (.overRead n data.length)))

/-- What is logged about a `result`, after reads of these `sizes`: nothing about a success or a
failure that passes through, and one event that `Agrees` with any other fault.  What is logged about
a truncation is left to `cut`. -/
def Logged {α : Type} (d : Dialect) (start : Reader)
    (cut : (received : Int) → List Event → Prop) (result : Except Fault α) (sizes : List Nat)
    (events : List Event) : Prop :=
  match result with
  | .ok _ => events = []
  | .error (.raised f) => f.kind.isSystem = false ∧ events = []
  | .error (.decode (.truncated _ received)) => cut received events
  | .error e => ∃ event, events = [event] ∧ event.Agrees d start sizes e

section

variable {α : Type} {d : Dialect} {start : Reader} {cut : Int → List Event → Prop}
  {sizes : List Nat} {e : Fault} {events : List Event}

theorem logged_of_fails {n : Nat} {reply : Reply} (h : reply.Fails n e events)
    (hread : start.LastRead sizes n reply) :
    Logged d start cut (.error e : Except Fault α) sizes events := by
  cases h with
  | overRead hlen => exact ⟨_, rfl, .overRead hread hlen⟩
  | system hf => exact ⟨_, rfl, .failed hread hf⟩
  | other hf => exact ⟨hf, rfl⟩

theorem logged_of_failsAtOpcode {opcode : Reply} (hd : d.DefinesArg)
    (h : FailsAtOpcode d opcode e events) (hread : start.LastRead sizes 1 opcode) :
    Logged d start cut (.error e : Except Fault α) sizes events := by
  cases h with
  | read h => exact logged_of_fails h hread
  | unknown hbyte hop =>
    rw [hbyte] at hread
    exact ⟨_, rfl, .unknown hread hop⟩
  | unclassified _ mem _ harg =>
    have hsome := hd _ mem
    rw [harg] at hsome
    cases hsome

/-- Of a failure at the operand, only the truncation is not settled by the read; `hcut` settles
it. -/
theorem logged_of_failsAtOperand {report : UInt8 → List Event} {before : List Nat}
    (h : FailsAtOperand d report ((start.after before).read 1).1
      (((start.after before).read 1).2.read 2).1 e events)
    (hcut : ∀ byte (received : Int), start.CutShort d (before ++ [1, 2]) byte received →
      e = .decode (.truncated 2 received) → events = report byte → cut received events) :
    Logged d start cut (.error e : Except Fault α) (before ++ [1, 2]) events := by
  cases h with
  | read _ _ _ _ h =>
    refine logged_of_fails h ⟨before ++ [1], List.append_cons .., ?_⟩
    rw [Reader.after_append]
    rfl
  | short hbyte mem hv harg hdata hlen =>
    exact hcut _ _ ⟨before, _, _, rfl, hbyte, mem, hv, harg, hdata, hlen, rfl⟩ rfl rfl

end

/-! ### Streams and single instructions -/

namespace Reader

variable {d : Dialect}

/-- The bytes handed out for an instruction that is `CutShort` are its opcode and what there is of
its operand. -/
theorem consumed_of_cutShort {start : Reader} {before : List Nat} {byte : UInt8} {received : Int}
    (h : start.CutShort d (before ++ [1, 2]) byte received) :
    ((start.after (before ++ [1, 2])).consumed : Int) =
      (start.after before).consumed + (1 + received) := by
  obtain ⟨before', op, data, hsizes, hbyte, -, -, -, hdata, -, rfl⟩ := h
  obtain rfl : before = before' := List.append_cancel_right hsizes
  rw [after_append]
  show (((start.after before).consumed + ((start.after before).read 1).1.size +
    (((start.after before).read 1).2.read 2).1.size : Nat) : Int) = _
  rw [Reply.size_of_data? hdata, hbyte]
  show (((start.after before).consumed + 1 + data.length : Nat) : Int) = _
  omega

/-- **What a stream logs.**  A truncation is `Event.truncated` at the `offset` of the instruction
that is `CutShort`. -/
theorem logged_run (hd : d.DefinesArg) {source : Source} (hsource : source.depletes = true) :
    let start := ofSource source
    let run := start.run d
    let offset := Instruction.totalSize run.instructions
    Logged d start
      (fun received events => ∃ byte, events = [.truncated offset byte] ∧
        start.CutShort d run.reader.reads byte received ∧
        (offset : Int) = run.reader.consumed - (1 + received))
      run.result run.reader.reads run.events := by
  intro start run offset
  obtain ⟨hconsumed, tail, hstops, hreader⟩ := run_stops d source hsource
  let reads := run.instructions.flatMap Instruction.reads
  replace hreader : run.reader = start.after (reads ++ tail) := by
    rw [after_append]
    exact hreader
  have hreads : run.reader.reads = reads ++ tail := by
    rw [hreader, reads_after]
    rfl
  replace hconsumed : (start.after reads).consumed = offset := hconsumed
  rw [hreads, hreader, Run.result]
  change Stops d _ ((start.after reads).read 1).1 (((start.after reads).read 1).2.read 2).1 tail
    run.fault run.events at hstops
  generalize run.fault = fault at hstops ⊢
  generalize run.events = events at hstops ⊢
  cases hstops with
  | clean _ => rfl
  | atOpcode h => exact logged_of_failsAtOpcode hd h ⟨reads, rfl, rfl⟩
  | atOperand h =>
    refine logged_of_failsAtOperand h ?_
    intro byte received hshort _ hevents
    refine ⟨byte, hevents, hshort, ?_⟩
    rw [consumed_of_cutShort hshort, hconsumed]
    omega

/-- **What `decode` logs.**  About a truncation it logs nothing. -/
theorem logged_decode (hd : d.DefinesArg) (source : Source) :
    let start := ofSource source
    Logged d start (fun _ events => events = []) (start.decode d).result
      (start.decode d).reader.reads (start.decode d).events := by
  intro start
  obtain ⟨sizes, hattempt, hreader⟩ := decode_attempt d start
  have hreads : (start.decode d).reader.reads = sizes := by
    rw [hreader, reads_after]
    rfl
  rw [hreads]
  generalize (start.decode d).result = result at hattempt ⊢
  generalize (start.decode d).events = events at hattempt ⊢
  cases hattempt with
  | yields _ => rfl
  | missing _ => rfl
  | atOpcode h => exact logged_of_failsAtOpcode hd h ⟨[], rfl, rfl⟩
  | atOperand h =>
    show Logged d start _ _ ([] ++ [1, 2]) events
    refine logged_of_failsAtOperand h ?_
    intro _ _ _ _ hevents
    exact hevents

end Reader

/-- Nothing was read from the input yet, and reads will use it up (`Source.depletes`). -/
def Input.Fresh : Input → Prop
  | .buffer _ => True
  | .reader r => ∃ source : Source, source.depletes = true ∧ r = .ofSource source

theorem Input.Fresh.toReader {input : Input} (h : input.Fresh) :
    ∃ source : Source, source.depletes = true ∧ input.toReader = .ofSource source := by
  cases input with
  | buffer data => exact ⟨.reader data, rfl, rfl⟩
  | reader r => exact h

end Bytecode
