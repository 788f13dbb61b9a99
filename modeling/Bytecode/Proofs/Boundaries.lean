import Bytecode.Proofs.Concatenation

/-!
# Instruction boundaries

Where one instruction ends and the next begins depends on the values of the opcodes and on which of
them take an argument, and on nothing else that a dialect says.  Two dialects that agree on the
arguments of the bytes which both assign (`Dialect.AgreesOnArgs`) cut every source into the same
instructions, up to the first byte that one of them lacks (`Run.resume_together`).

Two dialects are such a pair if in both of them the opcodes that take an argument are those from one
and the same value on (`Dialect.agreesOnArgs_of_argsFrom`).  Each of the shipped ones has a value of
its own for that, and the two values agree (`Dialect.agreesOnArgs_shipped`).
-/

namespace Bytecode

/-- What can be seen of `i` without its dialect: the value of the opcode and the argument. -/
def Instruction.shape (i : Instruction) : Int × Option UInt16 :=
  (i.opcode.value, i.arg)

/-! ### Dialects that agree -/

namespace Dialect

variable {d d' : Dialect}

/-- Of every `byte` that both `d` and `d'` assign, they say the same on whether it takes an
argument. -/
def AgreesOnArgs (d d' : Dialect) : Prop :=
  ∀ byte : UInt8, ∀ op ∈ d.members, ∀ op' ∈ d'.members,
    op.value = byte.toNat → op'.value = byte.toNat → d.hasArg? op = d'.hasArg? op'

theorem AgreesOnArgs.hasArg?_eq (h : d.AgreesOnArgs d') {byte : UInt8} {op op' : Opcode}
    (hop : d.ofValue? byte.toNat = some op) (hop' : d'.ofValue? byte.toNat = some op') :
    d.hasArg? op = d'.hasArg? op' :=
  h byte op (mem_members_of_ofValue? hop) op' (mem_members_of_ofValue? hop')
    (value_of_ofValue? hop) (value_of_ofValue? hop')

/-- The opcodes of `d` that take an argument are those from `threshold` on. -/
def ArgsFrom (threshold : Int) (d : Dialect) : Prop :=
  ∀ op ∈ d.members, d.hasArg? op = some (decide (threshold ≤ op.value))

instance (threshold : Int) : DecidablePred (ArgsFrom threshold) := fun d =>
  inferInstanceAs
    (Decidable (∀ op ∈ d.members, d.hasArg? op = some (decide (threshold ≤ op.value))))

theorem agreesOnArgs_of_argsFrom {threshold : Int} (h : d.ArgsFrom threshold)
    (h' : d'.ArgsFrom threshold) : d.AgreesOnArgs d' := by
  intro byte op mem op' mem' hv hv'
  rw [h op mem, h' op' mem', hv, hv']

theorem argsFrom_python27 : python27.ArgsFrom python27ArgThreshold := by
  decide +kernel

theorem argsFrom_python39 : python39.ArgsFrom python39ArgThreshold := by
  decide +kernel

/-- The shipped dialects agree, because `python27ArgThreshold` and `python39ArgThreshold` are the
same value. -/
theorem agreesOnArgs_shipped : python27.AgreesOnArgs python39 := by
  have hthreshold : python27ArgThreshold = python39ArgThreshold := rfl
  exact agreesOnArgs_of_argsFrom (hthreshold ▸ argsFrom_python27) argsFrom_python39

end Dialect

/-- The fault `e` is that `d` does not assign a byte. -/
def Fault.IsUnknownIn (d : Dialect) (e : Fault) : Prop :=
  ∃ byte : UInt8, (∀ op ∈ d.members, op.value ≠ byte.toNat) ∧
    e = .decode (.unknownOpcode byte.toNat (some d.name))

/-- Two results of `advance` that are the same but for what the dialects make of an instruction,
which has the same `shape` for both. -/
inductive Instruction.SameShape :
    Except Fault (Option Instruction) → Except Fault (Option Instruction) → Prop where
  | fault (e : Fault) : SameShape (.error e) (.error e)
  | nothing : SameShape (.ok none) (.ok none)
  | instruction {i i' : Instruction} (h : i.shape = i'.shape) :
      SameShape (.ok (some i)) (.ok (some i'))

/-! ### One instruction -/

namespace Reader

variable {d d' : Dialect} {r r' : Reader}

/-- **Two dialects at one opcode `byte`.**  If both `d` and `d'` assign it, they make the same of
what follows. -/
theorem finish_together (h : d.AgreesOnArgs d') (hsource : r.source = r'.source) (byte : UInt8) :
    (∃ e, (finish d byte r).result = .error e ∧ e.IsUnknownIn d) ∨
    (∃ e, (finish d' byte r').result = .error e ∧ e.IsUnknownIn d') ∨
    (Instruction.SameShape ((finish d byte r).result.map some)
        ((finish d' byte r').result.map some) ∧
      (finish d byte r).reader.source = (finish d' byte r').reader.source) := by
  obtain hop | ⟨op, hop⟩ := Option.eq_none_or_eq_some (d.ofValue? byte.toNat)
  · rw [finish_unknown hop]
    exact .inl ⟨_, rfl, byte, Dialect.ofValue?_eq_none_iff.1 hop, rfl⟩
  obtain hop' | ⟨op', hop'⟩ := Option.eq_none_or_eq_some (d'.ofValue? byte.toNat)
  · rw [finish_unknown hop']
    exact .inr (.inl ⟨_, rfl, byte, Dialect.ofValue?_eq_none_iff.1 hop', rfl⟩)
  -- Both opcodes have the byte as their value, and both of them or none take an argument.
  refine .inr (.inr ?_)
  have hvalue : op.value = op'.value := by
    rw [Dialect.value_of_ofValue? hop, Dialect.value_of_ofValue? hop']
  have hagree := h.hasArg?_eq hop hop'
  match harg : d.hasArg? op with
  | none =>
    rw [finish_unclassified hop harg, finish_unclassified hop' (hagree.symm.trans harg)]
    exact ⟨.fault _, hsource⟩
  | some false =>
    rw [finish_bare hop harg, finish_bare hop' (hagree.symm.trans harg)]
    exact ⟨.instruction (congrArg (·, none) hvalue), hsource⟩
  | some true =>
    obtain ⟨hresult, hafter, -⟩ := fetchOperand_alike hsource
    rw [finish_operand hop harg, finish_operand hop' (hagree.symm.trans harg)]
    refine ⟨?_, hafter⟩
    show Instruction.SameShape (Except.map _ (Except.map _ _)) (Except.map _ (Except.map _ _))
    rw [hresult]
    cases r'.fetchOperand.result with
    | error e => exact .fault e
    | ok arg => exact .instruction (congrArg (·, some arg) hvalue)

/-- The dialects `d` and `d'` at one place of a stream. -/
theorem advance_together (h : d.AgreesOnArgs d') (hsource : r.source = r'.source)
    (offset offset' : Nat) :
    (∃ e, (r.advance d offset).result = .error e ∧ e.IsUnknownIn d) ∨
    (∃ e, (r'.advance d' offset').result = .error e ∧ e.IsUnknownIn d') ∨
    (Instruction.SameShape (r.advance d offset).result (r'.advance d' offset').result ∧
      (r.advance d offset).reader.source = (r'.advance d' offset').reader.source) := by
  obtain ⟨hresult, hafter, -⟩ := fetch_alike hsource 1
  unfold advance
  rcases fetch_one_cases r' with ⟨e, hf⟩ | hf | ⟨byte, hf⟩
  · rw [Outcome.andThen_of_error hf, Outcome.andThen_of_error (hresult.trans hf)]
    exact .inr (.inr ⟨.fault e, hafter⟩)
  · rw [Outcome.andThen_of_ok hf, Outcome.andThen_of_ok (hresult.trans hf)]
    exact .inr (.inr ⟨.nothing, hafter⟩)
  · rw [Outcome.andThen_of_ok hf, Outcome.andThen_of_ok (hresult.trans hf)]
    dsimp only
    rcases finish_together h hafter byte with ⟨e, he, hunknown⟩ | ⟨e, he, hunknown⟩ | hsame
    · exact .inl ⟨e, by rw [he]; rfl, hunknown⟩
    · exact .inr (.inl ⟨e, by rw [he]; rfl, hunknown⟩)
    · exact .inr (.inr hsame)

end Reader

/-! ### Whole streams -/

namespace Run

variable {d d' : Dialect} {r r' : Reader}

/-- The `shape`s of the instructions of `run`, in order. -/
def shapes (run : Run) : List (Int × Option UInt16) :=
  run.instructions.map Instruction.shape

/-- The `run` ended at a byte that `d` does not assign. -/
def EndsUnknown (d : Dialect) (run : Run) : Prop :=
  ∃ e, run.fault = some e ∧ e.IsUnknownIn d

/-- The runs `run` and `run'`, by `d` and by `d'`, go together until one of the dialects lacks a
byte. -/
inductive Together (d d' : Dialect) (run run' : Run) : Prop where
  /-- The dialect `d` lacks a byte. -/
  | firstStops (hend : run.EndsUnknown d) (hshapes : run.shapes <+: run'.shapes)
  /-- The dialect `d'` lacks a byte. -/
  | secondStops (hend : run'.EndsUnknown d') (hshapes : run'.shapes <+: run.shapes)
  /-- Neither does before the end, which is the same `fault` or none. -/
  | throughout (hshapes : run.shapes = run'.shapes) (hfault : run.fault = run'.fault)

/-- Runs that go `Together` also do after one more instruction of the same `shape`. -/
theorem Together.cons {run run' : Run} {i i' : Instruction} (h : Together d d' run run')
    (hshape : i.shape = i'.shape) (reader reader' : Reader) (events events' : List Event) :
    Together d d' ⟨i :: run.instructions, run.fault, reader, events⟩
      ⟨i' :: run'.instructions, run'.fault, reader', events'⟩ := by
  cases h with
  | firstStops hend hshapes =>
    refine .firstStops hend ?_
    show i.shape :: run.shapes <+: i'.shape :: run'.shapes
    exact List.cons_prefix_cons.2 ⟨hshape, hshapes⟩
  | secondStops hend hshapes =>
    refine .secondStops hend ?_
    show i'.shape :: run'.shapes <+: i.shape :: run.shapes
    exact List.cons_prefix_cons.2 ⟨hshape.symm, hshapes⟩
  | throughout hshapes hfault =>
    refine .throughout ?_ hfault
    show i.shape :: run.shapes = i'.shape :: run'.shapes
    rw [hshape, hshapes]

/-- **Two dialects over one source.**  Whatever the source, `d` and `d'` go through it
`Together`. -/
theorem resume_together (h : d.AgreesOnArgs d') (hsource : r.source = r'.source)
    (offset offset' : Nat) : Together d d' (resume d offset r) (resume d' offset' r') := by
  -- Strong induction on what the source has left, which streams that go on make less.
  induction hn : r.source.supply using Nat.strongRecOn generalizing offset offset' r r' with
  | _ n ih =>
    rcases Reader.advance_together h hsource offset offset' with
      ⟨e, he, hunknown⟩ | ⟨e, he, hunknown⟩ | ⟨hsame, hafter⟩
    · rw [resume_of_error he]
      exact .firstStops ⟨e, rfl, hunknown⟩ List.nil_prefix
    · rw [resume_of_error he]
      exact .secondStops ⟨e, rfl, hunknown⟩ List.nil_prefix
    · generalize hadv : (r.advance d offset).result = result at hsame
      generalize hadv' : (r'.advance d' offset').result = result' at hsame
      cases hsame with
      | fault e =>
        rw [resume_of_error hadv, resume_of_error hadv']
        exact .throughout rfl rfl
      | nothing =>
        rw [resume_of_end hadv, resume_of_end hadv']
        exact .throughout rfl rfl
      | instruction hshape =>
        have hless : (r.advance d offset).reader.source.supply < r.source.supply ↔
            (r'.advance d' offset').reader.source.supply < r'.source.supply := by
          rw [hafter, hsource]
        by_cases hlt : (r.advance d offset).reader.source.supply < r.source.supply
        · rw [resume_of_instruction hadv hlt, resume_of_instruction hadv' (hless.1 hlt)]
          exact (ih _ (hn ▸ hlt) hafter _ _ rfl).cons hshape _ _ _ _
        · rw [resume_of_endless hadv hlt, resume_of_endless hadv' (mt hless.2 hlt)]
          exact .throughout (congrArg (fun shape => [shape]) hshape) rfl

/-- A run over plain bytes `data` that is not `EndsUnknown` ends cleanly or within an
instruction. -/
theorem fault_of_not_endsUnknown (hd : d.DefinesArg) {data : List UInt8}
    (h : ¬((Reader.ofBytes data).run d).EndsUnknown d) :
    ((Reader.ofBytes data).run d).fault = none ∨
      ∃ received, ((Reader.ofBytes data).run d).fault = some (.decode (.truncated 2 received)) := by
  obtain ⟨-, span, left, -, -, -, -, hhead, -⟩ := resume_plain d 0 data 0 []
  replace hhead : d.Head span left ((Reader.ofBytes data).run d).ending := hhead
  unfold ending at hhead
  cases hfault : ((Reader.ofBytes data).run d).fault with
  | none => exact .inl rfl
  | some e =>
    rw [hfault] at hhead
    cases hhead with
    | unknown hbyte => exact absurd ⟨_, hfault, _, hbyte, rfl⟩ h
    | cut mem hv harg hlen => exact .inr ⟨_, rfl⟩
    | unclassified mem hv harg =>
      have hsome := hd _ mem
      rw [harg] at hsome
      cases hsome

end Run

/-- **Instruction boundaries depend on values and arguments alone.**  The shipped dialects agree on
the arguments of the bytes that both assign (`AgreesOnArgs`).  For any `d` and `d'` that do, and
whatever the bytes `data`, the `shapes` that one of them reads begin with all the shapes that the
other reads, and a dialect which reads fewer stopped at a byte that it does not assign.  If neither
did, they read the same shapes to the same end. -/
theorem Reader.run_boundaries_agree :
    Dialect.python27.AgreesOnArgs Dialect.python39 ∧
    ∀ d d' : Dialect, d.AgreesOnArgs d' → ∀ data : List UInt8,
      let run := (ofBytes data).run d
      let run' := (ofBytes data).run d'
      (run.shapes <+: run'.shapes ∨ run'.shapes <+: run.shapes) ∧
      (run.shapes.length < run'.shapes.length → run.EndsUnknown d) ∧
      (run'.shapes.length < run.shapes.length → run'.EndsUnknown d') ∧
      (¬run.EndsUnknown d → ¬run'.EndsUnknown d' →
        run.shapes = run'.shapes ∧ run.fault = run'.fault ∧
        (d.DefinesArg →
          run.fault = none ∨ ∃ received, run.fault = some (.decode (.truncated 2 received)))) := by
  refine ⟨Dialect.agreesOnArgs_shipped, ?_⟩
  intro d d' h data run run'
  have htogether : Run.Together d d' run run' := Run.resume_together h rfl 0 0
  have hend : ¬run.EndsUnknown d → d.DefinesArg → _ :=
    fun hnot hd => Run.fault_of_not_endsUnknown hd hnot
  cases htogether with
  | firstStops hstop hshapes =>
    refine ⟨.inl hshapes, fun _ => hstop, ?_, fun hnot => absurd hstop hnot⟩
    intro hlt
    exact absurd hshapes.length_le (Nat.not_le_of_lt hlt)
  | secondStops hstop hshapes =>
    refine ⟨.inr hshapes, ?_, fun _ => hstop, fun _ hnot => absurd hstop hnot⟩
    intro hlt
    exact absurd hshapes.length_le (Nat.not_le_of_lt hlt)
  | throughout hshapes hfault =>
    rw [hshapes]
    refine ⟨.inl List.prefix_rfl, ?_, ?_, ?_⟩
    · exact fun hlt => absurd hlt (Nat.lt_irrefl _)
    · exact fun hlt => absurd hlt (Nat.lt_irrefl _)
    · exact fun hnot _ => ⟨rfl, hfault, hend hnot⟩

/-- Bytes of which `python39` reads one instruction more than `python27`, though byte 89 is another
operation in each, and bytes that both of them find cut short. -/
theorem Reader.run_boundaries_agree_shipped :
    let run (data : List UInt8) := (ofBytes data).run .python27
    let run' (data : List UInt8) := (ofBytes data).run .python39
    (run [89, 100, 1, 0, 165, 2, 0]).shapes = [(89, none), (100, some 1)] ∧
    (run' [89, 100, 1, 0, 165, 2, 0]).shapes = [(89, none), (100, some 1), (165, some 2)] ∧
    (run [89, 100, 1, 0, 165, 2, 0]).EndsUnknown .python27 ∧
    (run [89, 100, 7]).fault = some (.decode (.truncated 2 1)) ∧
    (run [89, 100, 7]).shapes = (run' [89, 100, 7]).shapes := by
  intro run run'
  obtain ⟨hagree, hboundaries⟩ := run_boundaries_agree
  have hshapes : (run [89, 100, 1, 0, 165, 2, 0]).shapes = [(89, none), (100, some 1)] := by
    decide +kernel
  have hshapes' : (run' [89, 100, 1, 0, 165, 2, 0]).shapes =
      [(89, none), (100, some 1), (165, some 2)] := by
    decide +kernel
  have hfault : (run [89, 100, 7]).fault = some (.decode (.truncated 2 1)) := by decide +kernel
  have hfault' : (run' [89, 100, 7]).fault = some (.decode (.truncated 2 1)) := by decide +kernel
  -- A run that is cut short did not end at a byte that is not assigned.
  have hknown : ∀ {d : Dialect} {run : Run}, run.fault = some (.decode (.truncated 2 1)) →
      ¬run.EndsUnknown d := by
    rintro d run hcut ⟨e, he, byte, -, rfl⟩
    cases hcut.symm.trans he
  refine ⟨hshapes, hshapes', ?_, hfault, ?_⟩
  · obtain ⟨-, hstop, -⟩ := hboundaries _ _ hagree [89, 100, 1, 0, 165, 2, 0]
    refine hstop ?_
    show (run _).shapes.length < (run' _).shapes.length
    rw [hshapes, hshapes']
    decide
  · obtain ⟨-, -, -, hsame⟩ := hboundaries _ _ hagree [89, 100, 7]
    exact (hsame (hknown hfault) (hknown hfault')).1

end Bytecode
