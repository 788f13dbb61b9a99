import Bytecode.Stream

/-!
# Streams and single instructions

A stream and a single instruction read their opcode byte in two ways: a single instruction needs the
byte, and a stream asks whether there is one.  They agree all the same: the stream makes the reads
that the single instruction makes and has its result, save that no bytes in place of an opcode are
the end of the stream (`advance_result`, `advance_reader`).

The fault that a stream takes for its end never stands for an operand that was cut short
(`decode_truncated_iff`).
-/

namespace Bytecode

/-! ### Outcomes -/

namespace Outcome

variable {α β : Type} {o : Outcome α} {f : α → Reader → Outcome β}

theorem andThen_of_ok {a : α} (h : o.result = .ok a) :
    o.andThen f = ⟨(f a o.reader).result, (f a o.reader).reader,
      o.events ++ (f a o.reader).events⟩ := by
  unfold andThen
  rw [h]

theorem andThen_of_error {e : Fault} (h : o.result = .error e) :
    o.andThen f = ⟨.error e, o.reader, o.events⟩ := by
  unfold andThen
  rw [h]

end Outcome

/-! ### Reads -/

/-- The bytes of a reply, if it is no `failure`.  `nothing` counts as no bytes. -/
def Reply.data? : Reply → Option (List UInt8)
  | .bytes data => some data
  | .nothing => some []
  | .failure _ => none

theorem Reply.eq_bytes_of_data? {reply : Reply} {byte : UInt8} {data : List UInt8}
    (h : reply.data? = some (byte :: data)) : reply = .bytes (byte :: data) := by
  cases reply with
  | bytes data => rw [Option.some.inj h]
  | nothing => cases h
  | failure f => cases h

namespace Reader

variable {d : Dialect} {r : Reader}

/-- **What can come of `fetch`**: bytes, more of them than the `n` that were asked for, a failure of
the operating system, or another failure. -/
theorem fetch_cases (r : Reader) (n : Nat) :
    (∃ data, (r.read n).1.data? = some data ∧ data.length ≤ n ∧
      r.fetch n = .pure data (r.read n).2) ∨
    (∃ data, (r.read n).1 = .bytes data ∧ n < data.length ∧
      r.fetch n = .fail (.decode (.sourceFailed (.overRead n data.length))) (r.read n).2
        [.overRead n data.length]) ∨
    (∃ f, (r.read n).1 = .failure f ∧ f.kind.isSystem = true ∧
      r.fetch n = .fail (.decode (.sourceFailed f)) (r.read n).2 [.sourceFailed n f.text]) ∨
    (∃ f, (r.read n).1 = .failure f ∧ f.kind.isSystem = false ∧
      r.fetch n = .fail (.raised f) (r.read n).2 []) := by
  unfold fetch
  dsimp only
  cases hreply : (r.read n).1 with
  | nothing => exact .inl ⟨[], rfl, Nat.zero_le n, rfl⟩
  | bytes data =>
    by_cases hlen : n < data.length
    · exact .inr (.inl ⟨data, rfl, hlen, if_pos hlen⟩)
    · exact .inl ⟨data, rfl, Nat.le_of_not_lt hlen, if_neg hlen⟩
  | failure f =>
    cases hkind : f.kind.isSystem with
    | true => exact .inr (.inr (.inl ⟨f, rfl, hkind, if_pos hkind⟩))
    | false => exact .inr (.inr (.inr ⟨f, rfl, hkind, if_neg (Bool.eq_false_iff.1 hkind)⟩))

/-- `fetch` is one read, whatever comes of it. -/
theorem fetch_after (r : Reader) (n : Nat) : (r.fetch n).reader = (r.read n).2 := by
  rcases fetch_cases r n with ⟨_, -, -, h⟩ | ⟨_, -, -, h⟩ | ⟨_, -, -, h⟩ | ⟨_, -, -, h⟩
  all_goals
    rw [h]
    rfl

/-- `fetchOperand` takes one read, whatever comes of it. -/
theorem fetchOperand_after (r : Reader) : r.fetchOperand.reader = (r.read 2).2 := by
  rw [← fetch_after]
  unfold fetchOperand
  cases h : (r.fetch 2).result with
  | error e => rw [Outcome.andThen_of_error h]
  | ok data =>
    rw [Outcome.andThen_of_ok h]
    dsimp only
    split <;> rfl

/-- `fetchOperand` adds nothing to what its read reports. -/
theorem fetchOperand_events (r : Reader) : r.fetchOperand.events = (r.fetch 2).events := by
  unfold fetchOperand
  cases h : (r.fetch 2).result with
  | error e => rw [Outcome.andThen_of_error h]
  | ok data =>
    rw [Outcome.andThen_of_ok h]
    dsimp only
    split <;> exact List.append_nil _

/-- **What can follow an opcode `byte`**, whatever the reader: nothing, because `d` does not assign
or not classify the byte, nothing because the instruction is complete, or an operand. -/
theorem finish_cases (d : Dialect) (byte : UInt8) :
    (d.ofValue? byte.toNat = none ∧ ∀ r, finish d byte r =
      .fail (.decode (.unknownOpcode byte.toNat (some d.name))) r [.unknownOpcode byte d.name]) ∨
    (∃ op, d.ofValue? byte.toNat = some op ∧ d.hasArg? op = none ∧
      ∀ r, finish d byte r = .fail .unclassifiedArgument r []) ∨
    (∃ op, ∃ hop : d.ofValue? byte.toNat = some op, ∃ harg : d.hasArg? op = some false,
      ∀ r, finish d byte r = .pure ⟨d, op, none, Dialect.mem_members_of_ofValue? hop, harg⟩ r) ∨
    (∃ op, ∃ hop : d.ofValue? byte.toNat = some op, ∃ harg : d.hasArg? op = some true,
      ∀ r, finish d byte r = r.fetchOperand.map fun arg =>
        ⟨d, op, some arg, Dialect.mem_members_of_ofValue? hop, harg⟩) := by
  obtain hop | ⟨op, hop⟩ := Option.eq_none_or_eq_some (d.ofValue? byte.toNat)
  · exact .inl ⟨hop, finish_unknown hop⟩
  · match harg : d.hasArg? op with
    | none => exact .inr (.inl ⟨op, hop, harg, finish_unclassified hop harg⟩)
    | some false => exact .inr (.inr (.inl ⟨op, hop, harg, finish_bare hop harg⟩))
    | some true => exact .inr (.inr (.inr ⟨op, hop, harg, finish_operand hop harg⟩))

/-- What `fetch` gives is what the source replied, and no more of it than the `n` bytes asked
for. -/
theorem reply_of_fetch {n : Nat} {data : List UInt8} (h : (r.fetch n).result = .ok data) :
    (r.read n).1.data? = some data ∧ data.length ≤ n := by
  rcases fetch_cases r n with ⟨_, hdata, hlen, hf⟩ | ⟨_, -, -, hf⟩ | ⟨_, -, -, hf⟩ | ⟨_, -, -, hf⟩
  · rw [hf] at h
    obtain rfl := Except.ok.inj h
    exact ⟨hdata, hlen⟩
  all_goals
    rw [hf] at h
    cases h

/-- A `fetch` that fails is no truncation: coming up short is no failure of the read. -/
theorem isTruncation_of_fetch {n : Nat} {e : Fault} (h : (r.fetch n).result = .error e) :
    e.isTruncation = false := by
  rcases fetch_cases r n with ⟨_, -, -, hf⟩ | ⟨_, -, -, hf⟩ | ⟨_, -, -, hf⟩ | ⟨_, -, -, hf⟩
  · rw [hf] at h
    cases h
  all_goals
    rw [hf] at h
    obtain rfl := Except.error.inj h
    rfl

/-- **What the `fetch` of an opcode comes to**: a failure, nothing, or one byte. -/
theorem fetch_one_cases (r : Reader) :
    (∃ e, (r.fetch 1).result = .error e) ∨ (r.fetch 1).result = .ok [] ∨
      ∃ byte, (r.fetch 1).result = .ok [byte] := by
  cases h : (r.fetch 1).result with
  | error e => exact .inl ⟨e, rfl⟩
  | ok data =>
    match data, (reply_of_fetch h).2 with
    | [], _ => exact .inr (.inl rfl)
    | [byte], _ => exact .inr (.inr ⟨byte, rfl⟩)
    | _ :: _ :: _, hlen =>
      simp only [List.length_cons] at hlen
      omega

/-! ### Operands that are cut short -/

/-- The byte of an opcode of `d` that takes an argument was read from `r`, and the read of the
operand gave only `received` of its two bytes. -/
def CutOperand (d : Dialect) (r : Reader) (received : Nat) : Prop :=
  ∃ byte op data, (r.fetch 1).result = .ok [byte] ∧ d.ofValue? byte.toNat = some op ∧
    d.hasArg? op = some true ∧ ((r.fetch 1).reader.fetch 2).result = .ok data ∧
    data.length < 2 ∧ data.length = received

/-- `fetchOperand` is a truncation exactly if its read gave fewer than two bytes. -/
theorem fetchOperand_truncated_iff {n k : Int} :
    r.fetchOperand.result = .error (.decode (.truncated n k)) ↔
      n = 2 ∧ ∃ data, (r.fetch 2).result = .ok data ∧ data.length < 2 ∧ k = data.length := by
  unfold fetchOperand
  cases h : (r.fetch 2).result with
  | error e =>
    rw [Outcome.andThen_of_error h]
    have he := isTruncation_of_fetch h
    constructor
    · intro h'
      rw [Except.error.inj h'] at he
      cases he
    · rintro ⟨-, _, h', -⟩
      cases h'
  | ok data =>
    rw [Outcome.andThen_of_ok h]
    have hlen := (reply_of_fetch h).2
    match data, hlen with
    | [], _ => simp [Outcome.fail, eq_comm]
    | [byte], _ => simp [Outcome.fail, eq_comm]
    | [low, high], _ => simp [Outcome.pure]
    | _ :: _ :: _ :: _, hlen =>
      simp only [List.length_cons] at hlen
      omega

/-- After an opcode `byte`, a truncation is an operand that was cut short. -/
theorem finish_truncated_iff {byte : UInt8} {n k : Int} :
    (finish d byte r).result = .error (.decode (.truncated n k)) ↔
      n = 2 ∧ ∃ op data, d.ofValue? byte.toNat = some op ∧ d.hasArg? op = some true ∧
        (r.fetch 2).result = .ok data ∧ data.length < 2 ∧ k = data.length := by
  cases hop : d.ofValue? byte.toNat with
  | none =>
    rw [finish_unknown hop]
    simp [Outcome.fail]
  | some op =>
    match harg : d.hasArg? op with
    | none =>
      rw [finish_unclassified hop harg]
      simp [Outcome.fail, harg]
    | some false =>
      rw [finish_bare hop harg]
      simp [Outcome.pure, harg]
    | some true =>
      have hmap : (finish d byte r).result = .error (.decode (.truncated n k)) ↔
          r.fetchOperand.result = .error (.decode (.truncated n k)) := by
        rw [finish_operand hop harg, Outcome.map]
        cases r.fetchOperand.result <;> simp [Except.map]
      rw [hmap, fetchOperand_truncated_iff]
      simp [harg]

/-- **The two truncations of `decode`.**  It needs one byte only where nothing came in place of its
opcode; an operand that was cut short (`CutOperand`) needed two. -/
theorem decode_truncated_iff {n k : Int} :
    (r.decode d).result = .error (.decode (.truncated n k)) ↔
      (n = 1 ∧ k = 0 ∧ (r.fetch 1).result = .ok []) ∨
      (n = 2 ∧ ∃ received : Nat, k = received ∧ r.CutOperand d received) := by
  unfold decode CutOperand
  rcases fetch_one_cases r with ⟨e, h⟩ | h | ⟨byte, h⟩
  · rw [Outcome.andThen_of_error h]
    have he := isTruncation_of_fetch h
    constructor
    · intro h'
      rw [Except.error.inj h'] at he
      cases he
    · rintro (⟨-, -, h'⟩ | ⟨-, _, -, _, _, _, h', -⟩) <;> simp [h] at h'
  · rw [Outcome.andThen_of_ok h]
    simp [Outcome.fail, h, eq_comm]
  · rw [Outcome.andThen_of_ok h]
    dsimp only
    rw [finish_truncated_iff]
    constructor
    · rintro ⟨hn, op, data, hop, harg, hdata, hlen, hk⟩
      exact .inr ⟨hn, data.length, hk, byte, op, data, h, hop, harg, hdata, hlen, rfl⟩
    · rintro (⟨-, -, h'⟩ | ⟨hn, _, hk, byte', op, data, h', hop, harg, hdata, hlen, rfl⟩)
      · simp [h] at h'
      · obtain rfl : byte = byte' := by simpa [h] using h'
        exact ⟨hn, op, data, hop, harg, hdata, hlen, hk⟩

end Reader

/-! ### A stream against a single instruction -/

/-- Whether a fault says that nothing came in place of an opcode: it is `truncated` with one byte
expected. -/
def Fault.isMissingOpcode : Fault → Bool
  | .decode (.truncated expected _) => expected = 1
  | _ => false

theorem Fault.isMissingOpcode_eq_true_iff {e : Fault} :
    e.isMissingOpcode = true ↔ ∃ k, e = .decode (.truncated 1 k) := by
  constructor
  · intro h
    unfold isMissingOpcode at h
    split at h
    · obtain rfl := of_decide_eq_true h
      exact ⟨_, rfl⟩
    · cases h
  · rintro ⟨k, rfl⟩
    rfl

/-- What a stream makes of the result of `decode`: nothing in place of an opcode is the end of the
stream. -/
def streamed : Except Fault Instruction → Except Fault (Option Instruction)
  | .ok i => .ok (some i)
  | .error e => if e.isMissingOpcode then .ok none else .error e

theorem streamed_error {e : Fault} (h : e.isMissingOpcode = false) :
    streamed (.error e) = .error e := by
  rw [streamed, h]
  rfl

theorem streamed_eq_instruction_iff {result : Except Fault Instruction} {i : Instruction} :
    streamed result = .ok (some i) ↔ result = .ok i := by
  cases result with
  | ok j => simp [streamed]
  | error e => cases h : e.isMissingOpcode <;> simp [streamed, h]

namespace Reader

variable {d : Dialect} {r : Reader}

/-- Once the opcode `byte` is there, `finish` does not miss it. -/
theorem isMissingOpcode_of_finish {byte : UInt8} {e : Fault}
    (h : (finish d byte r).result = .error e) : e.isMissingOpcode = false := by
  rw [Bool.eq_false_iff]
  intro he
  obtain ⟨k, rfl⟩ := Fault.isMissingOpcode_eq_true_iff.1 he
  have hn := (finish_truncated_iff.1 h).1
  omega

/-- **`advance` has the result of `decode`**, but for the end of the stream. -/
theorem advance_result (d : Dialect) (offset : Nat) (r : Reader) :
    (r.advance d offset).result = streamed (r.decode d).result := by
  unfold advance decode
  rcases fetch_one_cases r with ⟨e, h⟩ | h | ⟨byte, h⟩
  · rw [Outcome.andThen_of_error h, Outcome.andThen_of_error h, streamed_error]
    rw [Bool.eq_false_iff]
    intro he
    obtain ⟨k, rfl⟩ := Fault.isMissingOpcode_eq_true_iff.1 he
    have hcut := isTruncation_of_fetch h
    cases hcut
  · rw [Outcome.andThen_of_ok h, Outcome.andThen_of_ok h]
    rfl
  · rw [Outcome.andThen_of_ok h, Outcome.andThen_of_ok h]
    dsimp only
    cases hres : (finish d byte (r.fetch 1).reader).result with
    | ok i => rfl
    | error e =>
      rw [streamed_error (isMissingOpcode_of_finish hres)]
      rfl

/-- **`advance` makes the reads of `decode`.** -/
theorem advance_reader (d : Dialect) (offset : Nat) (r : Reader) :
    (r.advance d offset).reader = (r.decode d).reader := by
  unfold advance decode
  rcases fetch_one_cases r with ⟨e, h⟩ | h | ⟨byte, h⟩
  · rw [Outcome.andThen_of_error h, Outcome.andThen_of_error h]
  · rw [Outcome.andThen_of_ok h, Outcome.andThen_of_ok h]
    rfl
  · rw [Outcome.andThen_of_ok h, Outcome.andThen_of_ok h]

end Reader

/-! ### The ways on of a stream -/

namespace Run

variable {d : Dialect} {offset : Nat} {r : Reader}

theorem resume_of_error {e : Fault} (h : (r.advance d offset).result = .error e) :
    resume d offset r =
      ⟨[], some e, (r.advance d offset).reader, (r.advance d offset).events⟩ := by
  rw [resume]
  dsimp only
  rw [h]

theorem resume_of_end (h : (r.advance d offset).result = .ok none) :
    resume d offset r =
      ⟨[], none, (r.advance d offset).reader, (r.advance d offset).events⟩ := by
  rw [resume]
  dsimp only
  rw [h]

theorem resume_of_instruction {i : Instruction} (h : (r.advance d offset).result = .ok (some i))
    (hlt : (r.advance d offset).reader.source.supply < r.source.supply) :
    resume d offset r =
      ⟨i :: (resume d (offset + i.size) (r.advance d offset).reader).instructions,
        (resume d (offset + i.size) (r.advance d offset).reader).fault,
        (resume d (offset + i.size) (r.advance d offset).reader).reader,
        (r.advance d offset).events ++
          (resume d (offset + i.size) (r.advance d offset).reader).events⟩ := by
  rw [resume]
  dsimp only
  rw [h]
  dsimp only
  rw [if_pos hlt]

theorem resume_of_endless {i : Instruction} (h : (r.advance d offset).result = .ok (some i))
    (hlt : ¬(r.advance d offset).reader.source.supply < r.source.supply) :
    resume d offset r =
      ⟨[i], some .endless, (r.advance d offset).reader, (r.advance d offset).events⟩ := by
  rw [resume]
  dsimp only
  rw [h]
  dsimp only
  rw [if_neg hlt]

/-- Where `decode` fails, the stream stops: at its end, if only the opcode is missing. -/
theorem resume_of_decode_error {e : Fault} (h : (r.decode d).result = .error e) (offset : Nat) :
    resume d offset r =
      ⟨[], if e.isMissingOpcode then none else some e, (r.decode d).reader,
        (r.advance d offset).events⟩ := by
  have hresult := r.advance_result d offset
  rw [h, streamed] at hresult
  by_cases he : e.isMissingOpcode = true
  · rw [if_pos he] at hresult ⊢
    rw [resume_of_end hresult, Reader.advance_reader]
  · rw [if_neg he] at hresult ⊢
    rw [resume_of_error hresult, Reader.advance_reader]

end Run
end Bytecode
