import Bytecode.Proofs.Encoding
import Bytecode.Proofs.PlainBytes
import Bytecode.Proofs.Repetition

/-!
# What a decoder accepts

A reader may answer with less than was asked for, with more, with nothing or with a failure.  A step
of a stream yields an instruction exactly if one reply is its opcode byte and, where it has an
argument, the next reply is its operand (`advance_eq_instruction_iff`), and it finds the end exactly
if a reply is empty (`advance_eq_end_iff`).  No part of a reply is kept for later, and no read is
made twice.

Over a script of replies this says which scripts are programs: those that begin with the replies
that spell the instructions one by one, followed by an empty reply
(`Reader.decodeAll_script_eq_ok_iff`).
-/

namespace Bytecode

/-! ### One step over any reader -/

namespace Reader

variable {d : Dialect} {r : Reader} {i : Instruction}

theorem fetch_eq_ok_iff {n : Nat} {data : List UInt8} :
    (r.fetch n).result = .ok data ↔ (r.read n).1.data? = some data ∧ data.length ≤ n := by
  constructor
  · exact reply_of_fetch
  · rintro ⟨hdata, hlen⟩
    rcases fetch_cases r n with
      ⟨data', hdata', -, h⟩ | ⟨data', hreply, hlt, -⟩ | ⟨f, hreply, -, -⟩ | ⟨f, hreply, -, -⟩
    · obtain rfl := Option.some.inj (hdata'.symm.trans hdata)
      rw [h]
      rfl
    · rw [hreply] at hdata
      obtain rfl := Option.some.inj hdata
      omega
    all_goals
      rw [hreply] at hdata
      cases hdata

/-- `fetchOperand` gives `arg` exactly if one reply is the two bytes of `arg`. -/
theorem fetchOperand_eq_ok_iff {arg : UInt16} :
    r.fetchOperand.result = .ok arg ↔ (r.read 2).1.data? = some (Operand.toBytes arg) := by
  unfold fetchOperand
  constructor
  · intro h
    cases hf : (r.fetch 2).result with
    | error e =>
      rw [Outcome.andThen_of_error hf] at h
      cases h
    | ok data =>
      rw [Outcome.andThen_of_ok hf] at h
      rw [(reply_of_fetch hf).1]
      match data, h with
      | [low, high], h =>
        obtain rfl := Except.ok.inj h
        rw [Operand.toBytes_ofBytes]
      | [], h => cases h
      | [_], h => cases h
      | _ :: _ :: _ :: _, h => cases h
  · intro h
    have hf := fetch_eq_ok_iff.2 ⟨h, Nat.le_refl 2⟩
    rw [Outcome.andThen_of_ok hf]
    exact congrArg Except.ok (Operand.ofBytes_toBytes arg)

/-- After its opcode `byte`, `finish` gives `i` exactly if its operand follows, if it has one. -/
theorem finish_eq_ok_iff {byte : UInt8} :
    (finish d byte r).result = .ok i ↔
      i.dialect = d ∧ i.opcode.value = byte.toNat ∧
        ∀ arg, i.arg = some arg → (r.read 2).1.data? = some (Operand.toBytes arg) := by
  constructor
  · intro h
    rcases finish_cases d byte with
      ⟨-, hf⟩ | ⟨_, -, -, hf⟩ | ⟨op, hop, harg, hf⟩ | ⟨op, hop, harg, hf⟩
    · rw [hf] at h
      cases h
    · rw [hf] at h
      cases h
    · rw [hf] at h
      obtain rfl := Except.ok.inj h
      refine ⟨rfl, Dialect.value_of_ofValue? hop, ?_⟩
      intro arg hnone
      cases hnone
    · rw [hf, Outcome.map] at h
      cases hfetch : r.fetchOperand.result with
      | error e =>
        rw [hfetch] at h
        cases h
      | ok arg =>
        rw [hfetch] at h
        obtain rfl := Except.ok.inj h
        refine ⟨rfl, Dialect.value_of_ofValue? hop, ?_⟩
        rintro _ ⟨⟩
        exact fetchOperand_eq_ok_iff.1 hfetch
  · rintro ⟨hd, hv, hoperand⟩
    obtain ⟨d', op, arg, mem, harg⟩ := i
    obtain rfl : d' = d := hd
    have hop := Dialect.ofValue?_eq_some_of_mem mem hv
    cases arg with
    | none =>
      rw [finish_bare hop harg]
      rfl
    | some arg =>
      have hf := fetchOperand_eq_ok_iff.2 (hoperand arg rfl)
      rw [finish_operand hop harg, Outcome.map, hf]
      rfl

/-- An instruction `i` takes a second read exactly if it has an argument. -/
theorem finish_reader_of_ok {byte : UInt8} (h : (finish d byte r).result = .ok i) :
    (finish d byte r).reader = if i.arg.isSome then (r.read 2).2 else r := by
  obtain ⟨hd, hv, -⟩ := finish_eq_ok_iff.1 h
  obtain ⟨d', op, arg, mem, harg⟩ := i
  obtain rfl : d' = d := hd
  have hop := Dialect.ofValue?_eq_some_of_mem mem hv
  cases arg with
  | none =>
    rw [finish_bare hop harg]
    rfl
  | some arg =>
    rw [finish_operand hop harg]
    exact r.fetchOperand_after

/-- **The end of a stream** is an empty reply in place of an opcode, for `advance` from any
`offset`. -/
theorem advance_eq_end_iff {offset : Nat} :
    (r.advance d offset).result = .ok none ↔ (r.read 1).1.data? = some [] := by
  have hempty : (r.fetch 1).result = .ok [] ↔ (r.read 1).1.data? = some [] := by
    rw [fetch_eq_ok_iff]
    simp
  rw [← hempty]
  unfold advance
  rcases fetch_one_cases r with ⟨e, hf⟩ | hf | ⟨byte, hf⟩
  · rw [Outcome.andThen_of_error hf, hf]
    simp
  · rw [Outcome.andThen_of_ok hf, hf]
    simp [Outcome.pure]
  · rw [Outcome.andThen_of_ok hf, hf]
    dsimp only
    cases (finish d byte (r.fetch 1).reader).result <;> simp [Except.map]

/-- **The instructions of a stream** are spelled by whole replies: `advance` gives `i` exactly if
one reply is the opcode byte of `i` and, if `i` has an argument, the next one is its operand. -/
theorem advance_eq_instruction_iff {offset : Nat} :
    (r.advance d offset).result = .ok (some i) ↔
      i.dialect = d ∧ ∃ byte : UInt8, i.opcode.value = byte.toNat ∧
        (r.read 1).1.data? = some [byte] ∧
        ∀ arg, i.arg = some arg →
          ((r.read 1).2.read 2).1.data? = some (Operand.toBytes arg) := by
  constructor
  · intro h
    unfold advance at h
    rcases fetch_one_cases r with ⟨e, hf⟩ | hf | ⟨byte, hf⟩
    · rw [Outcome.andThen_of_error hf] at h
      cases h
    · rw [Outcome.andThen_of_ok hf] at h
      cases h
    · rw [Outcome.andThen_of_ok hf] at h
      cases hfinish : (finish d byte (r.fetch 1).reader).result with
      | error e =>
        dsimp only at h
        rw [hfinish] at h
        cases h
      | ok j =>
        dsimp only at h
        rw [hfinish] at h
        obtain rfl : j = i := Option.some.inj (Except.ok.inj h)
        obtain ⟨hd, hv, hoperand⟩ := finish_eq_ok_iff.1 hfinish
        rw [fetch_after] at hoperand
        exact ⟨hd, byte, hv, (reply_of_fetch hf).1, hoperand⟩
  · rintro ⟨hd, byte, hv, hopcode, hoperand⟩
    have hf := fetch_eq_ok_iff.2 ⟨hopcode, Nat.le_refl 1⟩
    rw [← fetch_after] at hoperand
    have hfinish := finish_eq_ok_iff.2 ⟨hd, hv, hoperand⟩
    unfold advance
    rw [Outcome.andThen_of_ok hf]
    dsimp only
    rw [hfinish]
    rfl

theorem advance_reader_of_instruction {offset : Nat}
    (h : (r.advance d offset).result = .ok (some i)) :
    (r.advance d offset).reader =
      if i.arg.isSome then ((r.read 1).2.read 2).2 else (r.read 1).2 := by
  obtain ⟨hd, byte, hv, hopcode, hoperand⟩ := advance_eq_instruction_iff.1 h
  have hf := fetch_eq_ok_iff.2 ⟨hopcode, Nat.le_refl 1⟩
  rw [← fetch_after] at hoperand
  have hfinish := finish_eq_ok_iff.2 ⟨hd, hv, hoperand⟩
  unfold advance
  rw [Outcome.andThen_of_ok hf, ← fetch_after r 1]
  exact finish_reader_of_ok hfinish

theorem advance_reader_of_end {offset : Nat} (h : (r.advance d offset).result = .ok none) :
    (r.advance d offset).reader = (r.read 1).2 := by
  have hf := fetch_eq_ok_iff.2 ⟨advance_eq_end_iff.1 h, Nat.zero_le 1⟩
  unfold advance
  rw [Outcome.andThen_of_ok hf, ← fetch_after r 1]
  rfl

end Reader

/-! ### Whole streams over sources that reads use up -/

namespace Run

variable {d : Dialect} {offset : Nat} {r : Reader} {i : Instruction} {is : List Instruction}

theorem supply_advance_lt (hr : r.source.depletes = true)
    (h : (r.advance d offset).result = .ok (some i)) :
    (r.advance d offset).reader.source.supply < r.source.supply := by
  rw [Reader.advance_result] at h
  rw [Reader.advance_reader]
  cases hdec : (r.decode d).result with
  | ok j => exact Reader.supply_decode_lt hr hdec
  | error e =>
    rw [hdec, streamed] at h
    split at h <;> cases h

theorem resume_eq_ok_nil_iff (hr : r.source.depletes = true) :
    (resume d offset r).result = .ok [] ↔ (r.advance d offset).result = .ok none := by
  cases hadv : (r.advance d offset).result with
  | error e =>
    rw [resume_of_error hadv]
    simp [result]
  | ok found =>
    cases found with
    | none =>
      rw [resume_of_end hadv]
      simp [result]
    | some i =>
      rw [resume_of_instruction hadv (supply_advance_lt hr hadv)]
      unfold result
      dsimp only
      split <;> simp

theorem resume_eq_ok_cons_iff (hr : r.source.depletes = true) :
    (resume d offset r).result = .ok (i :: is) ↔
      (r.advance d offset).result = .ok (some i) ∧
        (resume d (offset + i.size) (r.advance d offset).reader).result = .ok is := by
  cases hadv : (r.advance d offset).result with
  | error e =>
    rw [resume_of_error hadv]
    simp [result]
  | ok found =>
    cases found with
    | none =>
      rw [resume_of_end hadv]
      simp [result]
    | some j =>
      rw [resume_of_instruction hadv (supply_advance_lt hr hadv)]
      unfold result
      dsimp only
      constructor
      · intro h
        split at h
        · obtain ⟨rfl, rfl⟩ := List.cons.inj (Except.ok.inj h)
          rename_i hfault
          exact ⟨rfl, by rw [hfault]⟩
        · cases h
      · rintro ⟨hj, hrest⟩
        obtain rfl := Option.some.inj (Except.ok.inj hj)
        split at hrest
        · obtain rfl := Except.ok.inj hrest
          rfl
        · cases hrest

end Run

/-! ### Scripts of replies -/

/-- The `replies` begin with the `chunks`, one reply for each.  `Reply.nothing` counts as an empty
reply, and so does every reply after the last. -/
def Reply.BeginWith (replies : List Reply) (chunks : List (List UInt8)) : Prop :=
  ∀ k chunk, chunks[k]? = some chunk → (replies.getD k (.bytes [])).data? = some chunk

namespace Reply

variable {replies : List Reply}

theorem beginWith_nil : BeginWith replies [] := by
  intro k chunk h
  cases h

theorem beginWith_cons {chunk : List UInt8} {chunks : List (List UInt8)} :
    BeginWith replies (chunk :: chunks) ↔
      (replies.headD (.bytes [])).data? = some chunk ∧ BeginWith (replies.drop 1) chunks := by
  constructor
  · intro h
    refine ⟨?_, ?_⟩
    · have hzero := h 0 chunk rfl
      cases replies <;> exact hzero
    · intro k chunk' hk
      have hsucc := h (k + 1) chunk' hk
      cases replies with
      | nil => simpa using hsucc
      | cons reply replies => simpa using hsucc
  · rintro ⟨hhead, htail⟩ k chunk' hk
    cases k with
    | zero =>
      obtain rfl := Option.some.inj hk
      cases replies <;> exact hhead
    | succ k =>
      have hk' := htail k chunk' hk
      cases replies with
      | nil => simpa using hk'
      | cons reply replies => simpa using hk'

theorem beginWith_append {chunks later : List (List UInt8)} :
    BeginWith replies (chunks ++ later) ↔
      BeginWith replies chunks ∧ BeginWith (replies.drop chunks.length) later := by
  induction chunks generalizing replies with
  | nil => exact ⟨fun h => ⟨beginWith_nil, h⟩, fun h => h.2⟩
  | cons chunk chunks ih =>
    rw [List.cons_append, beginWith_cons, beginWith_cons, ih, List.length_cons, List.drop_drop,
      and_assoc, Nat.add_comm 1]

end Reply

namespace Instruction

/-- The replies that spell `i`: its opcode byte and, if it has an argument, the two bytes of the
operand, the low one first. -/
inductive Spelled (i : Instruction) : List (List UInt8) → Prop where
  | bare {byte : UInt8} (hv : i.opcode.value = byte.toNat) (harg : i.arg = none) :
      Spelled i [[byte]]
  | operand {byte : UInt8} {arg : UInt16} (hv : i.opcode.value = byte.toNat)
      (harg : i.arg = some arg) : Spelled i [[byte], Operand.toBytes arg]

/-- The replies that spell several instructions, one after the other, each `Spelled`. -/
inductive SpelledAll : List Instruction → List (List UInt8) → Prop where
  | nil : SpelledAll [] []
  | cons {i : Instruction} {is : List Instruction} {chunks later : List (List UInt8)}
      (first : i.Spelled chunks) (rest : SpelledAll is later) :
      SpelledAll (i :: is) (chunks ++ later)

end Instruction

namespace Reader

variable {d : Dialect} {r : Reader} {i : Instruction} {replies : List Reply}

theorem read_script (hr : r.source = .script replies) (n : Nat) :
    (r.read n).1 = replies.headD (.bytes []) ∧ (r.read n).2.source = .script (replies.drop 1) ∧
      (r.read n).2.reads = r.reads ++ [n] := by
  unfold read
  rw [hr]
  cases replies <;> exact ⟨rfl, rfl, rfl⟩

/-- **One step over a script** of `replies` yields `i` exactly if the replies spell it. -/
theorem advance_script_iff (hr : r.source = .script replies) (offset : Nat) :
    (r.advance d offset).result = .ok (some i) ↔
      i.dialect = d ∧ ∃ chunks, i.Spelled chunks ∧ Reply.BeginWith replies chunks := by
  obtain ⟨hreply, hsource, -⟩ := read_script hr 1
  obtain ⟨hreply', -, -⟩ := read_script hsource 2
  rw [advance_eq_instruction_iff, hreply, hreply']
  constructor
  · rintro ⟨hd, byte, hv, hopcode, hoperand⟩
    refine ⟨hd, ?_⟩
    cases harg : i.arg with
    | none => exact ⟨_, .bare hv harg, Reply.beginWith_cons.2 ⟨hopcode, Reply.beginWith_nil⟩⟩
    | some arg =>
      exact ⟨_, .operand hv harg, Reply.beginWith_cons.2
        ⟨hopcode, Reply.beginWith_cons.2 ⟨hoperand arg harg, Reply.beginWith_nil⟩⟩⟩
  · rintro ⟨hd, chunks, hspelled, hbegin⟩
    cases hspelled with
    | bare hv harg =>
      refine ⟨hd, _, hv, (Reply.beginWith_cons.1 hbegin).1, ?_⟩
      intro arg hsome
      rw [harg] at hsome
      cases hsome
    | operand hv harg =>
      obtain ⟨hopcode, hbegin⟩ := Reply.beginWith_cons.1 hbegin
      refine ⟨hd, _, hv, hopcode, ?_⟩
      intro arg hsome
      rw [harg] at hsome
      obtain rfl := Option.some.inj hsome
      exact (Reply.beginWith_cons.1 hbegin).1

/-- The step takes the `chunks` that spell `i` off the `replies`, and no others. -/
theorem advance_script_reader (hr : r.source = .script replies) {offset : Nat}
    (h : (r.advance d offset).result = .ok (some i)) {chunks : List (List UInt8)}
    (hspelled : i.Spelled chunks) :
    (r.advance d offset).reader.source = .script (replies.drop chunks.length) ∧
      (r.advance d offset).reader.reads.length = r.reads.length + chunks.length := by
  obtain ⟨-, hsource, hreads⟩ := read_script hr 1
  obtain ⟨-, hsource', hreads'⟩ := read_script hsource 2
  rw [advance_reader_of_instruction h]
  cases hspelled with
  | bare hv harg =>
    rw [harg]
    exact ⟨hsource, by simp [hreads]⟩
  | operand hv harg =>
    rw [harg]
    rw [List.drop_drop] at hsource'
    exact ⟨hsource', by simp [hreads, hreads']⟩

end Reader

namespace Run

variable {d : Dialect} {r : Reader} {replies : List Reply} {is : List Instruction}

theorem depletes_script (hr : r.source = .script replies) : r.source.depletes = true := by
  rw [hr]
  rfl

/-- **A whole stream over a script** succeeds with `is` exactly if the `replies` spell `is` and an
empty one follows. -/
theorem resume_script_iff (hr : r.source = .script replies) (offset : Nat) :
    (resume d offset r).result = .ok is ↔
      (∀ i ∈ is, i.dialect = d) ∧
        ∃ chunks, Instruction.SpelledAll is chunks ∧ Reply.BeginWith replies (chunks ++ [[]]) := by
  induction is generalizing r replies offset with
  | nil =>
    rw [resume_eq_ok_nil_iff (depletes_script hr), Reader.advance_eq_end_iff,
      (Reader.read_script hr 1).1]
    constructor
    · intro h
      exact ⟨by simp, [], .nil, Reply.beginWith_cons.2 ⟨h, Reply.beginWith_nil⟩⟩
    · rintro ⟨-, _, ⟨⟩, hbegin⟩
      exact (Reply.beginWith_cons.1 hbegin).1
  | cons i is ih =>
    rw [resume_eq_ok_cons_iff (depletes_script hr)]
    constructor
    · rintro ⟨hadv, hrest⟩
      obtain ⟨hd, chunks, hspelled, hbegin⟩ := (Reader.advance_script_iff hr offset).1 hadv
      have hsource := (Reader.advance_script_reader hr hadv hspelled).1
      obtain ⟨hds, later, hlater, hbegin'⟩ := (ih hsource _).1 hrest
      refine ⟨List.forall_mem_cons.2 ⟨hd, hds⟩, chunks ++ later, .cons hspelled hlater, ?_⟩
      rw [List.append_assoc, Reply.beginWith_append]
      exact ⟨hbegin, hbegin'⟩
    · rintro ⟨hds, _, hspelled, hbegin⟩
      obtain ⟨hd, hds⟩ := List.forall_mem_cons.1 hds
      cases hspelled with
      | cons first rest =>
        rw [List.append_assoc, Reply.beginWith_append] at hbegin
        have hadv : (r.advance d offset).result = .ok (some i) :=
          (Reader.advance_script_iff hr offset).2 ⟨hd, _, first, hbegin.1⟩
        have hsource := (Reader.advance_script_reader hr hadv first).1
        exact ⟨hadv, (ih hsource _).2 ⟨hds, _, rest, hbegin.2⟩⟩

/-- A stream that succeeds with `is` takes the `chunks` that spell `is` off the `replies`, and the
empty one. -/
theorem resume_script_reader (hr : r.source = .script replies) {offset : Nat}
    {chunks : List (List UInt8)} (hspelled : Instruction.SpelledAll is chunks)
    (h : (resume d offset r).result = .ok is) :
    (resume d offset r).reader.source = .script (replies.drop (chunks.length + 1)) ∧
      (resume d offset r).reader.reads.length = r.reads.length + (chunks.length + 1) := by
  induction hspelled generalizing r replies offset with
  | nil =>
    have hadv := (resume_eq_ok_nil_iff (depletes_script hr)).1 h
    obtain ⟨-, hsource, hreads⟩ := Reader.read_script hr 1
    rw [resume_of_end hadv, Reader.advance_reader_of_end hadv]
    exact ⟨by simpa using hsource, by simp [hreads]⟩
  | @cons i is chunks later first rest ih =>
    obtain ⟨hadv, hrest⟩ := (resume_eq_ok_cons_iff (depletes_script hr)).1 h
    obtain ⟨hsource, hreads⟩ := Reader.advance_script_reader hr hadv first
    obtain ⟨hsource', hreads'⟩ := ih hsource hrest
    rw [resume_of_instruction hadv (supply_advance_lt (depletes_script hr) hadv)]
    dsimp only
    rw [hsource', hreads', hreads, List.drop_drop, List.length_append]
    exact ⟨by rw [Nat.add_assoc], by omega⟩

end Run

/-- **Acceptance over any replies.**  A script of `replies` is decoded by `d` to `is` exactly if
these are instructions of `d`, and the script begins with the replies that spell them (`SpelledAll`)
and an empty one.  Nothing after that empty reply is asked for. -/
theorem Reader.decodeAll_script_eq_ok_iff (d : Dialect) (replies : List Reply)
    (is : List Instruction) :
    let o := (ofSource (.script replies)).decodeAll d
    (o.result = .ok is ↔
      (∀ i ∈ is, i.dialect = d) ∧
        ∃ chunks, Instruction.SpelledAll is chunks ∧ Reply.BeginWith replies (chunks ++ [[]])) ∧
    (∀ chunks, Instruction.SpelledAll is chunks → o.result = .ok is →
      o.reader.source = .script (replies.drop (chunks.length + 1)) ∧
        o.reader.reads.length = chunks.length + 1) := by
  intro o
  refine ⟨Run.resume_script_iff rfl 0, ?_⟩
  intro chunks hspelled hok
  obtain ⟨hsource, hreads⟩ := Run.resume_script_reader (r := ofSource (.script replies)) rfl
    hspelled hok
  exact ⟨hsource, hreads.trans (Nat.zero_add _)⟩

end Bytecode
