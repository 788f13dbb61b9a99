import Bytecode.Proofs.PlainBytes

/-!
# Reading undoes writing

Over plain bytes, the decoder is exactly the inverse of the encoder: a byte string is read as a list
of instructions if and only if it is their encoding (`decodeAll_ofBytes_eq_ok_iff`).  Of any other
byte string, the decoder reads the instructions at its beginning and then stops in one of two ways,
which are told apart by what follows them (`run_ofBytes_ends_in_one_way`).
-/

namespace Bytecode

namespace Reader

/-- **Exact round trip of whole programs.**  The bytes `data` are read as `is` exactly if these are
instructions of `d` and `data` is their encoding.  This asks nothing of `d`: an opcode whose value
is no byte has no encoding, and is never read. -/
theorem decodeAll_ofBytes_eq_ok_iff (d : Dialect) (data : List UInt8) (is : List Instruction) :
    ((ofBytes data).decodeAll d).result = .ok is ↔
      (∀ i ∈ is, i.dialect = d) ∧ Instruction.encodeAll is = .ok data := by
  constructor
  · intro h
    obtain ⟨head, span, left, reads, hdata, henc, hd, hhead, -⟩ := Run.resume_plain d 0 data 0 []
    replace h : (Run.resume d 0 ⟨.reader data, 0, []⟩).result = .ok is := h
    unfold Run.result at h
    unfold Run.ending at hhead
    cases hfault : (Run.resume d 0 ⟨.reader data, 0, []⟩).fault with
    | some e =>
      rw [hfault] at h
      cases h
    | none =>
      rw [hfault] at h hhead
      obtain rfl := Except.ok.inj h
      -- A clean end leaves nothing, so all the bytes are the encoding.
      cases hhead
      rw [List.append_nil, List.append_nil] at hdata
      refine ⟨hd, ?_⟩
      rw [henc, ← hdata]
  · rintro ⟨hd, henc⟩
    obtain ⟨reads, hrun⟩ := Run.resume_encoded hd henc 0 [] 0 []
    have hend : Run.resume d (0 + data.length) ⟨.reader [], 0 + data.length, reads⟩ =
        ⟨[], none, ⟨.reader [], 0 + data.length, reads ++ [1]⟩, []⟩ :=
      Run.resume_of_end rfl
    rw [List.append_nil, hend] at hrun
    show (Run.resume d 0 ⟨.reader data, 0, []⟩).result = .ok is
    rw [hrun, Run.result]
    dsimp only
    rw [List.append_nil]

end Reader

/-! ### Bytes that are no program -/

/-- The ways for a `Run` over plain bytes to end. -/
inductive Ending where
  /-- All the bytes were read. -/
  | clean
  /-- A byte is not assigned. -/
  | unknown
  /-- The bytes end within an instruction. -/
  | cut

namespace Ending

/-- What an ending says of the bytes `left` and of the `fault` of the run. -/
def Holds (d : Dialect) (left : List UInt8) (fault : Option Fault) : Ending → Prop
  | clean => left = [] ∧ fault = none
  | unknown => ∃ byte tail, left = byte :: tail ∧ (∀ op ∈ d.members, op.value ≠ byte.toNat) ∧
      fault = some (.decode (.unknownOpcode byte.toNat (some d.name)))
  | cut => ∃ byte tail, left = byte :: tail ∧ tail.length ≤ 1 ∧
      (∃ op ∈ d.members, op.value = byte.toNat ∧ d.hasArg? op = some true) ∧
      fault = some (.decode (.truncated 2 tail.length))

/-- What `left` and `fault` are tells the endings apart. -/
theorem Holds.unique {d : Dialect} {left : List UInt8} {fault : Option Fault} {a b : Ending}
    (ha : a.Holds d left fault) (hb : b.Holds d left fault) : a = b := by
  cases a with
  | clean =>
    obtain ⟨-, rfl⟩ := ha
    cases b <;> simp_all [Holds]
  | unknown =>
    obtain ⟨byte, tail, -, -, rfl⟩ := ha
    cases b <;> simp_all [Holds]
  | cut =>
    obtain ⟨byte, tail, -, -, -, rfl⟩ := ha
    cases b <;> simp_all [Holds]

end Ending

/-- **Exact failure behaviour on any bytes.**  A run over `data` reads the instructions that the
bytes begin with, which pass the checks of `Instruction.build`, and ends in exactly one way that
`Ending.Holds`. -/
theorem Reader.run_ofBytes_ends_in_one_way (d : Dialect) (hd : d.DefinesArg) (data : List UInt8) :
    let run := (ofBytes data).run d
    (∀ i ∈ run.instructions, i.dialect = d ∧
      Instruction.build i.dialect i.opcode i.opcode_mem
        (i.arg.map fun arg => (arg.toNat : Int)) = .ok i) ∧
    ∃ head left, Instruction.encodeAll run.instructions = .ok head ∧ data = head ++ left ∧
      ∃! ending : Ending, ending.Holds d left run.fault := by
  intro run
  obtain ⟨head, span, left, reads, hdata, henc, hdi, hhead, -⟩ := Run.resume_plain d 0 data 0 []
  refine ⟨fun i hi => ⟨hdi i hi, i.build_self⟩, head, span ++ left, henc, hdata, ?_⟩
  -- One of the endings holds; that there is no other is a matter of the fault alone.
  suffices h : ∃ ending : Ending, ending.Holds d (span ++ left) run.fault by
    obtain ⟨ending, hending⟩ := h
    exact ⟨ending, hending, fun _ hother => hother.unique hending⟩
  replace hhead : d.Head span left run.ending := hhead
  unfold Run.ending at hhead
  cases hfault : run.fault with
  | none =>
    rw [hfault] at hhead
    cases hhead
    exact ⟨.clean, rfl, rfl⟩
  | some e =>
    rw [hfault] at hhead
    cases hhead with
    | unknown h => exact ⟨.unknown, _, left, rfl, h, rfl⟩
    | cut mem hv harg hlen =>
      refine ⟨.cut, _, _, List.append_nil _, ?_, ⟨_, mem, hv, harg⟩, rfl⟩
      omega
    | unclassified mem hv harg =>
      have hsome := hd _ mem
      rw [harg] at hsome
      cases hsome

/-- Three instructions and one that is cut short.  The hypothesis `DefinesArg` holds of a shipped
dialect. -/
theorem Reader.run_ofBytes_ends_in_one_way_standard :
    Dialect.standard.DefinesArg ∧
    ∃ head left,
      Instruction.encodeAll
        ((ofBytes [9, 100, 1, 0, 9, 100, 5]).run .standard).instructions = .ok head ∧
      [9, 100, 1, 0, 9, 100, 5] = head ++ left ∧
      ∃! ending : Ending, ending.Holds .standard left
        ((ofBytes [9, 100, 1, 0, 9, 100, 5]).run .standard).fault := by
  have hd : Dialect.standard.DefinesArg := Dialect.definesArg_of_classifiesArg rfl
  exact ⟨hd, (run_ofBytes_ends_in_one_way .standard hd [9, 100, 1, 0, 9, 100, 5]).2⟩

end Bytecode
