import Bytecode.Proofs.Encoding
import Bytecode.Proofs.Stream
import Mathlib.Logic.ExistsUnique

/-!
# Streams over plain bytes

What stands at the beginning of plain bytes is one of five things (`Dialect.Head`): nothing, an
instruction, a byte that is not assigned, an instruction that is cut short, or an opcode that the
dialect does not classify.  Which one it is, and how many bytes belong to it, is all that a stream
sees (`advance_head`).  A stream over plain bytes is therefore the encoding of its instructions and
then something that is no instruction (`resume_plain`), and conversely the encoding of instructions
is read as those instructions (`resume_encoded`).
-/

namespace Bytecode

/-! ### What stands at the beginning -/

namespace Dialect

variable {d : Dialect}

/-- The dialect `d` says of each of its opcodes whether it takes an argument. -/
def DefinesArg (d : Dialect) : Prop :=
  ∀ op ∈ d.members, (d.hasArg? op).isSome = true

instance : DecidablePred DefinesArg := fun d =>
  inferInstanceAs (Decidable (∀ op ∈ d.members, (d.hasArg? op).isSome = true))

theorem definesArg_of_classifiesArg (h : d.classifiesArg = true) : d.DefinesArg := by
  intro op _
  rw [hasArg?, if_pos h]
  rfl

/-- `ofValue?` gives nothing for `v` exactly if no member has the value `v`. -/
theorem ofValue?_eq_none_iff {v : Int} :
    d.ofValue? v = none ↔ ∀ op ∈ d.members, op.value ≠ v := by
  constructor
  · intro h op hop hv
    have hsome := mem_members_iff.1 hop
    rw [hv, h] at hsome
    cases hsome
  · intro h
    cases hop : d.ofValue? v with
    | none => rfl
    | some op => exact absurd (value_of_ofValue? hop) (h op (mem_members_of_ofValue? hop))

theorem ofValue?_eq_some_of_mem {op : Opcode} {v : Int} (mem : op ∈ d.members)
    (hv : op.value = v) : d.ofValue? v = some op := by
  rw [← hv]
  exact mem_members_iff.1 mem

/-- What stands at the beginning of plain bytes: `span` belongs to it, `left` follows it, and this
is what a stream makes of it. -/
inductive Head (d : Dialect) :
    (span left : List UInt8) → Except Fault (Option Instruction) → Prop where
  /-- There are no bytes. -/
  | nothing : d.Head [] [] (.ok none)
  /-- An instruction `i` of the dialect, encoded as `span`. -/
  | instruction {i : Instruction} {span left : List UInt8} (hd : i.dialect = d)
      (he : i.encode = .ok span) : d.Head span left (.ok (some i))
  /-- A `byte` that no opcode has. -/
  | unknown {byte : UInt8} {left : List UInt8} (h : ∀ op ∈ d.members, op.value ≠ byte.toNat) :
      d.Head [byte] left (.error (.decode (.unknownOpcode byte.toNat (some d.name))))
  /-- An opcode `op` that takes an argument, and at most one byte after it. -/
  | cut {byte : UInt8} {op : Opcode} {tail : List UInt8} (mem : op ∈ d.members)
      (hv : op.value = byte.toNat) (harg : d.hasArg? op = some true) (hlen : tail.length < 2) :
      d.Head (byte :: tail) [] (.error (.decode (.truncated 2 tail.length)))
  /-- An opcode `op` of which the dialect does not say whether it takes an argument. -/
  | unclassified {byte : UInt8} {op : Opcode} {left : List UInt8} (mem : op ∈ d.members)
      (hv : op.value = byte.toNat) (harg : d.hasArg? op = none) :
      d.Head [byte] left (.error .unclassifiedArgument)

/-- At the beginning of any bytes `rest` stands something that is a `Head`. -/
theorem exists_head (d : Dialect) (rest : List UInt8) :
    ∃ span left result, rest = span ++ left ∧ d.Head span left result := by
  cases rest with
  | nil => exact ⟨[], [], _, rfl, .nothing⟩
  | cons byte tail =>
    cases hop : d.ofValue? byte.toNat with
    | none => exact ⟨[byte], tail, _, rfl, .unknown (ofValue?_eq_none_iff.1 hop)⟩
    | some op =>
      have mem := mem_members_of_ofValue? hop
      have hv := value_of_ofValue? hop
      match harg : d.hasArg? op with
      | none => exact ⟨[byte], tail, _, rfl, .unclassified mem hv harg⟩
      | some false =>
        have he := Instruction.encode_eq_ok_iff (i := ⟨d, op, none, mem, harg⟩).2 ⟨byte, hv, rfl⟩
        exact ⟨[byte], tail, _, rfl, .instruction rfl he⟩
      | some true =>
        match tail with
        | [] => exact ⟨[byte], [], _, rfl, .cut mem hv harg (Nat.zero_lt_two)⟩
        | [low] => exact ⟨[byte, low], [], _, rfl, .cut mem hv harg (Nat.one_lt_two)⟩
        | low :: high :: left =>
          have he := Instruction.encode_eq_ok_iff
            (i := ⟨d, op, some (Operand.ofBytes low high), mem, harg⟩).2 ⟨byte, hv, rfl⟩
          rw [Instruction.operandBytes_of_some rfl, Operand.toBytes_ofBytes] at he
          exact ⟨[byte, low, high], left, _, rfl, .instruction rfl he⟩

/-- An instruction `i` at the beginning is one of `d`, and `span` is its encoding. -/
theorem Head.encode {span left : List UInt8} {i : Instruction}
    (h : d.Head span left (.ok (some i))) : i.dialect = d ∧ i.encode = .ok span := by
  cases h with
  | instruction hd he => exact ⟨hd, he⟩

end Dialect

/-! ### What a stream makes of it -/

namespace Reader

variable {d : Dialect}

/-- An operand that is there is read by `fetchOperand`. -/
theorem fetchOperand_whole (low high : UInt8) (left : List UInt8) (consumed : Nat)
    (reads : List Nat) :
    (⟨.reader (low :: high :: left), consumed, reads⟩ : Reader).fetchOperand =
      .pure (Operand.ofBytes low high) ⟨.reader left, consumed + 2, reads ++ [2]⟩ := by
  rw [fetchOperand, fetch_reader]
  rfl

/-- Of an operand that is not all there, `fetchOperand` uses up what there is. -/
theorem fetchOperand_cut {rest : List UInt8} (h : rest.length < 2) (consumed : Nat)
    (reads : List Nat) :
    (⟨.reader rest, consumed, reads⟩ : Reader).fetchOperand =
      .fail (.decode (.truncated 2 rest.length))
        ⟨.reader [], consumed + rest.length, reads ++ [2]⟩ [] := by
  rw [fetchOperand, fetch_reader]
  match rest with
  | [] => rfl
  | [_] => rfl
  | _ :: _ :: _ =>
    simp only [List.length_cons] at h
    omega

/-- `advance` takes a `byte` that is there for an opcode. -/
theorem advance_byte (d : Dialect) (offset : Nat) (byte : UInt8) (rest : List UInt8)
    (consumed : Nat) (reads : List Nat) :
    (⟨.reader (byte :: rest), consumed, reads⟩ : Reader).advance d offset =
      let o := finish d byte ⟨.reader rest, consumed + 1, reads ++ [1]⟩
      ⟨o.result.map some, o.reader, o.events ++ truncationEvents offset byte o.result⟩ := by
  rw [advance, fetch_reader]
  rfl

/-- The encoding `span` of `i` is read by `advance` as `i`, silently. -/
theorem advance_encoded {i : Instruction} {span : List UInt8} (hd : i.dialect = d)
    (he : i.encode = .ok span) (offset : Nat) (left : List UInt8) (consumed : Nat)
    (reads : List Nat) :
    ∃ reads', (⟨.reader (span ++ left), consumed, reads⟩ : Reader).advance d offset =
      ⟨.ok (some i), ⟨.reader left, consumed + span.length, reads'⟩, []⟩ := by
  obtain ⟨byte, hv, rfl⟩ := Instruction.encode_eq_ok_iff.1 he
  obtain ⟨d, op, arg, mem, harg⟩ := i
  obtain rfl := hd
  have hop := Dialect.ofValue?_eq_some_of_mem mem hv
  rw [List.cons_append, advance_byte]
  cases arg with
  | none =>
    rw [finish_bare hop harg]
    exact ⟨_, rfl⟩
  | some arg =>
    rw [finish_operand hop harg, Instruction.operandBytes_of_some rfl, Operand.toBytes,
      List.cons_append, List.cons_append, fetchOperand_whole, Operand.ofBytes_toBytes]
    exact ⟨_, rfl⟩

/-- **`advance` sees the `Head` of the bytes**, and uses up the `span` of it. -/
theorem advance_head {span left : List UInt8} {result : Except Fault (Option Instruction)}
    (h : d.Head span left result) (offset consumed : Nat) (reads : List Nat) :
    ∃ reads' events, (⟨.reader (span ++ left), consumed, reads⟩ : Reader).advance d offset =
      ⟨result, ⟨.reader left, consumed + span.length, reads'⟩, events⟩ := by
  cases h with
  | nothing => exact ⟨_, _, rfl⟩
  | instruction hd he =>
    obtain ⟨reads', h⟩ := advance_encoded hd he offset left consumed reads
    exact ⟨reads', [], h⟩
  | unknown h =>
    rw [List.singleton_append, advance_byte, finish_unknown (Dialect.ofValue?_eq_none_iff.2 h)]
    exact ⟨_, _, rfl⟩
  | cut mem hv harg hlen =>
    have hop := Dialect.ofValue?_eq_some_of_mem mem hv
    rw [List.append_nil, advance_byte, finish_operand hop harg, fetchOperand_cut hlen,
      List.length_cons, Nat.add_comm (List.length _) 1, ← Nat.add_assoc]
    exact ⟨_, _, rfl⟩
  | unclassified mem hv harg =>
    have hop := Dialect.ofValue?_eq_some_of_mem mem hv
    rw [List.singleton_append, advance_byte, finish_unclassified hop harg]
    exact ⟨_, _, rfl⟩

/-- `advance` sees some `Head`, which is the `result`, and leaves what is `left`. -/
theorem advance_plain (d : Dialect) (offset : Nat) (rest : List UInt8) (consumed : Nat)
    (reads : List Nat) :
    let o := (⟨.reader rest, consumed, reads⟩ : Reader).advance d offset
    ∃ span left reads', rest = span ++ left ∧ d.Head span left o.result ∧
      o.reader = ⟨.reader left, consumed + span.length, reads'⟩ := by
  obtain ⟨span, left, result, rfl, hhead⟩ := d.exists_head rest
  obtain ⟨reads', events, hadv⟩ := advance_head hhead offset consumed reads
  refine ⟨span, left, reads', rfl, ?_, ?_⟩
  · rw [hadv]
    exact hhead
  · rw [hadv]

/-- `decode` sees what a stream would see (`streamed`). -/
theorem decode_plain (d : Dialect) (rest : List UInt8) (consumed : Nat) (reads : List Nat) :
    let o := (⟨.reader rest, consumed, reads⟩ : Reader).decode d
    ∃ span left reads', rest = span ++ left ∧ d.Head span left (streamed o.result) ∧
      o.reader = ⟨.reader left, consumed + span.length, reads'⟩ := by
  have h := advance_plain d 0 rest consumed reads
  dsimp only at h
  rw [advance_result, advance_reader] at h
  exact h

end Reader

namespace Run

variable {d : Dialect}

/-- How `run` ended, as the last result of `advance`. -/
def ending (run : Run) : Except Fault (Option Instruction) :=
  match run.fault with
  | none => .ok none
  | some e => .error e

/-- **A stream over plain bytes.**  The bytes `rest` are the encoding `head` of the instructions of
`run`, all of them instructions of `d`, then the `span` of what is no instruction and ends the
stream (`Run.ending`), and what is `left` unread. -/
theorem resume_plain (d : Dialect) (offset : Nat) (rest : List UInt8) (consumed : Nat)
    (reads : List Nat) :
    let run := resume d offset ⟨.reader rest, consumed, reads⟩
    ∃ head span left reads', rest = head ++ (span ++ left) ∧
      Instruction.encodeAll run.instructions = .ok head ∧
      (∀ i ∈ run.instructions, i.dialect = d) ∧
      d.Head span left run.ending ∧
      run.reader = ⟨.reader left, consumed + (head.length + span.length), reads'⟩ := by
  -- Strong induction on the number of bytes, which each instruction makes less.
  induction hn : rest.length using Nat.strongRecOn generalizing offset rest consumed reads with
  | _ n ih =>
    obtain ⟨span, left, result, rfl, hhead⟩ := d.exists_head rest
    obtain ⟨reads', events, hadv⟩ := Reader.advance_head hhead offset consumed reads
    match result with
    | .error e =>
      rw [resume_of_error (by rw [hadv]), hadv]
      exact ⟨[], span, left, reads', rfl, rfl, by simp, hhead, by simp⟩
    | .ok none =>
      rw [resume_of_end (by rw [hadv]), hadv]
      exact ⟨[], span, left, reads', rfl, rfl, by simp, hhead, by simp⟩
    | .ok (some i) =>
      obtain ⟨hdi, hei⟩ := hhead.encode
      have hspan := Instruction.length_of_encode hei
      have hpos := i.size_pos
      rw [List.length_append] at hn
      rw [resume_of_instruction (by rw [hadv]) (by rw [hadv]; simp [Source.supply]; omega), hadv]
      obtain ⟨head, span', left', reads'', rfl, henc, hd, hhead', hreader⟩ :=
        ih left.length (by omega) (offset + i.size) left (consumed + span.length) reads' rfl
      refine ⟨span ++ head, span', left', reads'', by simp, ?_, ?_, hhead', ?_⟩
      · exact Instruction.encodeAll_cons_eq_ok_iff.2 ⟨span, head, hei, henc, rfl⟩
      · intro j hj
        rcases List.mem_cons.1 hj with rfl | hj
        · exact hdi
        · exact hd j hj
      · rw [hreader, List.length_append, Nat.add_assoc, Nat.add_assoc]

/-- **The encoding `head` of instructions `is` is read as `is`**, and the stream goes on with the
`tail`. -/
theorem resume_encoded {is : List Instruction} {head : List UInt8}
    (hd : ∀ i ∈ is, i.dialect = d) (he : Instruction.encodeAll is = .ok head) (offset : Nat)
    (tail : List UInt8) (consumed : Nat) (reads : List Nat) :
    ∃ reads', resume d offset ⟨.reader (head ++ tail), consumed, reads⟩ =
      let rest := resume d (offset + head.length)
        ⟨.reader tail, consumed + head.length, reads'⟩
      ⟨is ++ rest.instructions, rest.fault, rest.reader, rest.events⟩ := by
  induction is generalizing head offset consumed reads with
  | nil =>
    obtain rfl := Except.ok.inj (Instruction.encodeAll_nil.symm.trans he)
    exact ⟨reads, rfl⟩
  | cons i is ih =>
    obtain ⟨span, rest, hei, hes, rfl⟩ := Instruction.encodeAll_cons_eq_ok_iff.1 he
    have hspan := Instruction.length_of_encode hei
    have hpos := i.size_pos
    obtain ⟨reads', hadv⟩ := Reader.advance_encoded (hd i (List.mem_cons_self ..)) hei offset
      (rest ++ tail) consumed reads
    obtain ⟨reads'', hrest⟩ := ih (fun j hj => hd j (List.mem_cons_of_mem _ hj)) hes
      (offset + i.size) (consumed + span.length) reads'
    refine ⟨reads'', ?_⟩
    rw [List.append_assoc, resume_of_instruction (by rw [hadv])
      (by rw [hadv]; simp [Source.supply]; omega), hadv]
    dsimp only
    rw [hrest, List.length_append, hspan, Nat.add_assoc, Nat.add_assoc]
    rfl

end Run

end Bytecode
