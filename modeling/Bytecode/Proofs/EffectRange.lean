import Bytecode.Proofs.BitPatterns
import Bytecode.Proofs.PlainBytes

/-!
# Stack effects of decoded instructions

An instruction can be analysed if its opcode stands for an operation of the catalog and brings the
argument that the effect of the operation goes by (`Dialect.Analysable`).  Both shipped dialects see
to that (`analysable_shipped`): every spelling in their tables is one of the catalog, or the row says
what it stands for.  So whatever bytes they are given, every instruction that they decode has a text, and a
stack effect unless it is one of the nine operations whose effect depends on the path taken.

The effects themselves are bounded table by table: the fixed ones are small (`fixed_bounds`), and
those that go by the argument are linear in it or in its two bytes (`argument_bounds`).  The
extremes are a map of 65535 pairs, which pops two values for each and pushes one, and 65535 copies
of values on the stack.
-/

namespace Bytecode

/-! ### The range of the effects -/

namespace StackEffect

variable {m : Mnemonic}

theorem fixed_bounds {change : Int} (h : fixedTable.lookup m = some change) :
    -7 ≤ change ∧ change ≤ 2 := by
  have hlisted : ∀ p ∈ listed, -7 ≤ p.2 ∧ p.2 ≤ 2 := by decide
  have hmem := mem_of_lookup h
  simp only [fixedTable, List.mem_append, List.mem_map, Prod.mk.injEq] at hmem
  obtain (hmem | ⟨_, -, -, rfl⟩) | ⟨_, -, -, rfl⟩ := hmem
  · exact hlisted _ hmem
  · decide
  · decide

theorem argument_bounds {change : Int → Int} (h : argumentTable.lookup m = some change) (arg : Int)
    (hnonneg : 0 ≤ arg) (hle : arg ≤ 65535) : -131069 ≤ change arg ∧ change arg ≤ 65535 := by
  have hall : ∀ p ∈ argumentTable, -131069 ≤ p.2 arg ∧ p.2 arg ≤ 65535 := by
    have hmake := makeFunction_bounds arg
    simp only [argumentTable, List.forall_mem_cons, List.not_mem_nil, false_implies,
      implies_true, and_true, call_eq, lowByte_eq_emod, shiftByte_eq_ediv]
    and_intros
    all_goals omega
  exact hall (m, change) (mem_of_lookup h)

end StackEffect

/-! ### Dialects that can be analysed -/

/-- The operation of the catalog that `op` stands for, if it stands for one. -/
def Opcode.mnemonic? (op : Opcode) : Option Mnemonic :=
  match op.label with
  | .ok (.catalog m) => some m
  | _ => none

theorem Opcode.label_of_mnemonic? {op : Opcode} {m : Mnemonic} (h : op.mnemonic? = some m) :
    op.label = .ok (.catalog m) := by
  unfold mnemonic? at h
  split at h
  · rename_i hlabel
    rw [hlabel, Option.some.inj h]
  · cases h

namespace Dialect

/-- Every opcode of `d` stands for an operation of the catalog, and takes an argument if the
operation has an entry in `argumentTable`. -/
def Analysable (d : Dialect) : Prop :=
  ∀ op ∈ d.members, ∃ m, op.mnemonic? = some m ∧
    ((StackEffect.argumentTable.lookup m).isSome = true → d.hasArg? op = some true)

/-- `Analysable` as a check of the table. -/
theorem analysable_iff {d : Dialect} :
    d.Analysable ↔ ∀ op ∈ d.members, op.mnemonic?.any
      (fun m => (StackEffect.argumentTable.lookup m).isSome = true → d.hasArg? op = some true) =
        true := by
  refine forall₂_congr fun op _ => ?_
  simp only [Option.any_eq_true, decide_eq_true_eq]

instance : DecidablePred Analysable := fun _ =>
  decidable_of_iff _ analysable_iff.symm

theorem analysable_shipped : ∀ d ∈ [python27, python39], d.Analysable := by
  decide +kernel

end Dialect

namespace Instruction

variable {i : Instruction}

theorem text_of_label {label : Label} {name : String} (hlabel : i.label = .ok label)
    (hname : label.name = .ok name) :
    i.text = .ok (match i.arg with
      | none => name
      | some arg => name ++ " " ++ toString arg.toNat) := by
  have hlabelName : i.opcode.labelName = .ok name := by
    unfold Opcode.labelName
    rw [show i.opcode.label = .ok label from hlabel]
    exact hname
  unfold text
  rw [hlabelName]
  cases i.arg <;> rfl

/-- The instruction `i` has a text and stands for an operation `m` of the catalog.  If `m` is
`pathDependent`, the stack effect is the answer that it is indeterminate; otherwise it is a number
in range. -/
def HasTextAndEffect (i : Instruction) : Prop :=
  (∃ text, i.text = .ok text) ∧
  ∃ m, i.label = .ok (.catalog m) ∧
    (m ∈ Mnemonic.pathDependent →
      i.stackEffect.result = .error (.stackEffect (.indeterminate (.catalog m)))) ∧
    (m ∉ Mnemonic.pathDependent →
      ∃ change, i.stackEffect.result = .ok change ∧ -131069 ≤ change ∧ change ≤ 65535)

theorem hasTextAndEffect_of_analysable (h : i.dialect.Analysable) : i.HasTextAndEffect := by
  obtain ⟨m, hm, harg⟩ := h i.opcode i.opcode_mem
  have hlabel : i.label = .ok (.catalog m) := Opcode.label_of_mnemonic? hm
  refine ⟨⟨_, text_of_label hlabel rfl⟩, m, hlabel, ?_, ?_⟩
  · intro hpath
    have heffect := StackEffect.stackEffect?_of_path hpath
    rw [stackEffect_of_label hlabel, Label.effectWith_of_indeterminate heffect]
  · intro hpath
    rw [stackEffect_of_label hlabel]
    obtain ⟨change, hentry⟩ | ⟨change, hentry⟩ | hentry := StackEffect.entry_cases m
    · have hbounds := StackEffect.fixed_bounds hentry
      rw [Label.effectWith_of_fixed (StackEffect.stackEffect?_of_fixed hentry)]
      exact ⟨change, rfl, by omega, by omega⟩
    · -- The opcode takes an argument, so the instruction has one.
      have hsome : i.arg.isSome = true := by
        have htrue := harg (by rw [hentry]; rfl)
        rw [i.hasArg_eq] at htrue
        exact Option.some.inj htrue
      obtain ⟨arg, hiarg⟩ := Option.isSome_iff_exists.1 hsome
      have hlt := arg.toNat_lt
      have hbounds := StackEffect.argument_bounds hentry arg.toNat (by omega) (by omega)
      rw [hiarg, Option.map_some,
        Label.effectWith_of_argument (StackEffect.stackEffect?_of_argument hentry)]
      exact ⟨change arg.toNat, rfl, hbounds⟩
    · exact absurd hentry hpath

end Instruction

/-! ### Whole programs -/

/-- **Analysis with a shipped dialect is safe.**  Whatever the bytes `data`, every instruction that
is decoded from them, also before a decoding error, has a text and a stack effect: a number in
range, or, exactly for the operations that are `pathDependent`, the answer that it is
indeterminate. -/
theorem Reader.run_shipped_has_text_and_effect (d : Dialect)
    (hd : d = .python27 ∨ d = .python39) (data : List UInt8) :
    ∀ i ∈ ((ofBytes data).run d).instructions, i.HasTextAndEffect := by
  intro i hi
  obtain ⟨-, -, -, -, -, -, hdialect, -⟩ := Run.resume_plain d 0 data 0 []
  have hanalysable : d.Analysable := Dialect.analysable_shipped d (by simpa using hd)
  apply Instruction.hasTextAndEffect_of_analysable
  rw [hdialect i hi]
  exact hanalysable

/-- A map of 65535 pairs, a loop `FOR_ITER`, whose effect depends on the path taken, and an
instruction that is cut short. -/
theorem Reader.run_shipped_has_text_and_effect_extremes :
    let run := (ofBytes [105, 255, 255, 93, 1, 0, 100, 5]).run .python39
    run.instructions.map (fun i => i.stackEffect.result.toOption) = [some (-131069), none] ∧
      run.fault = some (.decode (.truncated 2 1)) ∧
      ∀ i ∈ run.instructions, i.HasTextAndEffect := by
  refine ⟨by decide +kernel, by decide +kernel, ?_⟩
  exact run_shipped_has_text_and_effect .python39 (.inr rfl) [105, 255, 255, 93, 1, 0, 100, 5]

end Bytecode
