import Bytecode.Dialect.Validation
import Bytecode.Proofs.PlainBytes
import Mathlib.Data.List.Nodup
import Mathlib.Data.Set.Finite.List
import Mathlib.Order.Bounds.Basic

/-!
# Sound dialects

A dialect is sound if each of its opcodes keeps five rules on its own, if no two opcodes stand for
the same thing, and if the opcodes that take an argument are those from some value on
(`Dialect.Sound`).  Validation accepts exactly the sound dialects (`validate_eq_ok_iff_sound`).

Validation is a scan with a growing table of labels, followed by a look at the least value of an
opcode that takes an argument.  The scan is taken apart rule by rule (`ownProblems_eq`); that it
finds nothing means that the rules hold and that no label occurs twice (`memberProblems_spec`).
The last step works because members of one value are equal: at the least value itself there is
only the opcode that takes an argument (`gapProblems_eq_nil_iff`).
-/

namespace Bytecode.Dialect

variable {d : Dialect} {op : Opcode}

/-! ### The rules for one opcode -/

/-- A rule that an opcode of a `Sound` dialect keeps on its own. -/
inductive Rule where
  | singleByte
  | oneJumpKind
  | oneOperandKind
  | operandHasArgument
  | conditionHasJump
deriving DecidableEq

namespace Rule

/-- The rules, in the order in which `ownProblems` goes through them. -/
def all : List Rule :=
  [singleByte, oneJumpKind, oneOperandKind, operandHasArgument, conditionHasJump]

theorem mem_all (rule : Rule) : rule ∈ all := by
  cases rule <;> decide

/-- What a rule says of the opcode `op` of `d`. -/
def Holds (d : Dialect) (op : Opcode) : Rule → Prop
  | singleByte => 0 ≤ op.value ∧ op.value ≤ 255
  | oneJumpKind => ¬ (op.traits.isRelativeJump = true ∧ op.traits.isAbsoluteJump = true)
  | oneOperandKind =>
    [op.traits.hasConst, op.traits.hasName, op.traits.hasLocal, op.traits.hasFree].Pairwise
      fun a b => ¬ (a = true ∧ b = true)
  | operandHasArgument =>
    op.traits.isJump = true ∨ op.traits.hasComparison = true ∨ op.traits.hasConst = true ∨
      op.traits.hasName = true ∨ op.traits.hasLocal = true ∨ op.traits.hasFree = true →
    d.hasArg? op = some true
  | conditionHasJump =>
    op.traits.isConditionalJump = true ∨ op.traits.isOtherConditionalJump = true →
    op.traits.isJump = true

instance (d : Dialect) (op : Opcode) : DecidablePred (Holds d op)
  | singleByte => inferInstanceAs (Decidable (_ ∧ _))
  | oneJumpKind => inferInstanceAs (Decidable (¬ _))
  | oneOperandKind => inferInstanceAs (Decidable (List.Pairwise _ _))
  | operandHasArgument => inferInstanceAs (Decidable (_ → _))
  | conditionHasJump => inferInstanceAs (Decidable (_ → _))

/-- The problem that the `opcode` breaks a rule. -/
def problem (opcode : String) : Rule → Problem
  | singleByte => .notSingleByte opcode
  | oneJumpKind => .bothJumps opcode
  | oneOperandKind => .severalOperandKinds opcode
  | operandHasArgument => .operandWithoutArgument opcode
  | conditionHasJump => .conditionWithoutJump opcode

/-- The rules that `op` breaks, in order. -/
def broken (d : Dialect) (op : Opcode) : List Rule :=
  all.filter fun rule => ¬ rule.Holds d op

theorem broken_eq_nil_iff : broken d op = [] ↔ ∀ rule : Rule, rule.Holds d op := by
  unfold broken
  rw [List.filter_eq_nil_iff]
  constructor
  · intro h rule
    have hrule := h rule rule.mem_all
    simpa using hrule
  · intro h rule _
    simpa using h rule

/-! A flag of the scan is raised exactly if its rule is broken. -/

theorem report_eq {rule : Rule} {flag : Bool} (h : flag = true ↔ ¬ rule.Holds d op) :
    Problem.report flag (rule.problem op.name) =
      ([rule].filter fun rule => ¬ rule.Holds d op).map (problem op.name) := by
  unfold Problem.report
  by_cases hr : rule.Holds d op
  · have hflag : flag = false := Bool.eq_false_iff.2 fun hf => h.1 hf hr
    simp [hflag, hr]
  · simp [h.2 hr, hr]

theorem singleByte_flag (d : Dialect) (op : Opcode) :
    (!isByte op.value) = true ↔ ¬ singleByte.Holds d op := by
  simp only [isByte, Holds, Bool.not_eq_true', Bool.and_eq_false_iff, decide_eq_false_iff_not]
  omega

theorem oneJumpKind_flag (d : Dialect) (op : Opcode) :
    (op.traits.isRelativeJump && op.traits.isAbsoluteJump) = true ↔ ¬ oneJumpKind.Holds d op := by
  simp [Holds]

theorem oneOperandKind_flag (d : Dialect) (op : Opcode) :
    decide (1 < op.traits.operandKinds.count true) = true ↔ ¬ oneOperandKind.Holds d op := by
  have hcount : ∀ a b c e : Bool, decide (1 < [a, b, c, e].count true) = true ↔
      ¬ [a, b, c, e].Pairwise fun x y => ¬ (x = true ∧ y = true) := by decide
  exact hcount ..

theorem needsArg_iff {t : Traits} :
    t.needsArg = true ↔ t.isJump = true ∨ t.hasComparison = true ∨ t.hasConst = true ∨
      t.hasName = true ∨ t.hasLocal = true ∨ t.hasFree = true := by
  simp [Traits.needsArg, Traits.operandKinds, or_assoc]

/-- `lacksArg` asks `d` about an opcode that needs an argument, and raises the `flag` if there is
none. -/
theorem lacksArg_spec (harg : (d.hasArg? op).isSome = true) :
    ∃ flag, d.lacksArg op = .ok flag ∧ (flag = true ↔ ¬ operandHasArgument.Holds d op) := by
  obtain ⟨hasArg, hasArg_eq⟩ := Option.isSome_iff_exists.1 harg
  unfold lacksArg
  by_cases hneeds : op.traits.needsArg = true
  · rw [if_pos hneeds, hasArg_eq]
    refine ⟨!hasArg, rfl, ?_⟩
    simp [Holds, needsArg_iff.1 hneeds, hasArg_eq]
  · rw [if_neg hneeds]
    refine ⟨false, rfl, ?_⟩
    rw [needsArg_iff] at hneeds
    simp [Holds, hneeds]

theorem conditionHasJump_flag (d : Dialect) (op : Opcode) :
    (op.traits.isConditional && !op.traits.isJump) = true ↔ ¬ conditionHasJump.Holds d op := by
  simp [Holds, Traits.isConditional]

end Rule

/-- **`ownProblems` are the rules that `op` breaks**, in order. -/
theorem ownProblems_eq (harg : (d.hasArg? op).isSome = true) :
    d.ownProblems op = .ok ((Rule.broken d op).map (Rule.problem op.name)) := by
  obtain ⟨flag, hlacks, hflag⟩ := Rule.lacksArg_spec harg
  have hbyte := Rule.report_eq (Rule.singleByte_flag d op)
  have hjump := Rule.report_eq (Rule.oneJumpKind_flag d op)
  have hkind := Rule.report_eq (Rule.oneOperandKind_flag d op)
  have hoperand := Rule.report_eq hflag
  have hcondition := Rule.report_eq (Rule.conditionHasJump_flag d op)
  unfold ownProblems
  rw [hlacks]
  show Except.ok _ = _
  simp only [Rule.problem] at hbyte hjump hkind hoperand hcondition
  rw [hbyte, hjump, hkind, hoperand, hcondition]
  -- Filtering the rules one by one is filtering all of them.
  simp only [← List.map_append, ← List.filter_append]
  rfl

/-! ### Labels -/

/-- Every opcode of `d` stands for something that has a name: an operation of the catalog, or a
member of another catalog. -/
def NamesLabels (d : Dialect) : Prop :=
  ∀ op ∈ d.members, ∃ label name, op.label = .ok label ∧ label.name = .ok name

theorem namesLabels_iff :
    d.NamesLabels ↔ ∀ op ∈ d.members, op.labelName.isOk = true := by
  refine forall₂_congr fun op _ => ?_
  unfold Opcode.labelName
  cases hlabel : op.label with
  | error e => simp [Except.bind, Except.isOk, Except.toBool]
  | ok label =>
    cases hname : label.name with
    | error e => simp [Except.bind, Except.isOk, Except.toBool, hname]
    | ok name => simp [Except.bind, Except.isOk, Except.toBool, hname]

instance : DecidablePred NamesLabels := fun d =>
  decidable_of_iff (∀ op ∈ d.members, op.labelName.isOk = true) namesLabels_iff.symm

/-- `sharingProblems` reports nothing exactly if the label of `op` is not among the `earlier`
ones. -/
theorem sharingProblems_spec (earlier : List (Label × String)) {label : Label} {name : String}
    (hlabel : op.label = .ok label) (hname : label.name = .ok name) :
    ∃ problems, sharingProblems earlier op label = .ok problems ∧
      (problems = [] ↔ ∀ p ∈ earlier, op.label ≠ .ok p.1) := by
  unfold sharingProblems
  cases hlook : earlier.lookup label with
  | none =>
    refine ⟨[], rfl, ?_⟩
    rw [List.lookup_eq_none_iff] at hlook
    simpa [hlabel] using hlook
  | some holder =>
    obtain ⟨before, after, hearlier, -⟩ := List.lookup_eq_some_iff.1 hlook
    have hmem : (label, holder) ∈ earlier := by simp [hearlier]
    refine ⟨[.sharedLabel op.name holder name], by rw [hname]; rfl, ?_⟩
    constructor
    · intro hnil
      cases hnil
    · intro hnew
      exact absurd hlabel (hnew _ hmem)

/-- The `memberProblems` of opcodes `ops` that all have arguments defined and labels with names:
there are none exactly if the rules hold, no label occurs twice, and none is among the `earlier`
ones. -/
theorem memberProblems_spec {ops : List Opcode} (earlier : List (Label × String))
    (harg : ∀ op ∈ ops, (d.hasArg? op).isSome = true)
    (hlabel : ∀ op ∈ ops, ∃ label name, op.label = .ok label ∧ label.name = .ok name) :
    ∃ problems, d.memberProblems earlier ops = .ok problems ∧
      (problems = [] ↔
        (∀ op ∈ ops, ∀ rule : Rule, rule.Holds d op) ∧ (ops.map Opcode.label).Nodup ∧
          ∀ op ∈ ops, ∀ p ∈ earlier, op.label ≠ .ok p.1) := by
  induction ops generalizing earlier with
  | nil => exact ⟨[], rfl, by simp⟩
  | cons op ops ih =>
    obtain ⟨label, name, hl, hname⟩ := hlabel op (List.mem_cons_self ..)
    obtain ⟨later, hlater, hnil⟩ := ih ((label, op.name) :: earlier)
      (fun o ho => harg o (List.mem_cons_of_mem _ ho))
      (fun o ho => hlabel o (List.mem_cons_of_mem _ ho))
    have hown := ownProblems_eq (harg op (List.mem_cons_self ..))
    obtain ⟨sharing, hsharing, hnew⟩ := sharingProblems_spec earlier hl hname
    refine ⟨(Rule.broken d op).map (Rule.problem op.name) ++ sharing ++ later, ?_, ?_⟩
    · rw [memberProblems, hown, hl]
      show (sharingProblems earlier op label >>= fun _ => _) = _
      rw [hsharing]
      show (d.memberProblems ((label, op.name) :: earlier) ops >>= fun _ => _) = _
      rw [hlater]
      rfl
    · rw [List.append_eq_nil_iff, List.append_eq_nil_iff, List.map_eq_nil_iff,
        Rule.broken_eq_nil_iff, hnew, hnil, List.map_cons, List.nodup_cons]
      simp only [List.mem_cons, forall_eq_or_imp, List.mem_map, not_exists, not_and, hl]
      constructor
      · rintro ⟨⟨hrule, hfresh⟩, hrules, hnodup, hdisjoint⟩
        exact ⟨⟨hrule, hrules⟩, ⟨fun o ho => (hdisjoint o ho).1, hnodup⟩, hfresh,
          fun o ho => (hdisjoint o ho).2⟩
      · rintro ⟨⟨hrule, hrules⟩, ⟨hdistinct, hnodup⟩, hfresh, hdisjoint⟩
        exact ⟨⟨hrule, hfresh⟩, hrules, hnodup, fun o ho => ⟨hdistinct o ho, hdisjoint o ho⟩⟩

/-! ### Members and their values -/

theorem eq_of_value_eq {a b : Opcode} (ha : a ∈ d.members) (hb : b ∈ d.members)
    (h : a.value = b.value) : a = b := by
  have hfind := mem_members_iff.1 ha
  rw [h, mem_members_iff.1 hb] at hfind
  exact (Option.some.inj hfind).symm

/-- The values of the `members` are pairwise different. -/
theorem pairwise_members (d : Dialect) : d.members.Pairwise fun a b => a.value ≠ b.value := by
  unfold members
  induction d.entries with
  | nil => exact List.Pairwise.nil
  | cons e es ih =>
    rw [firstOfEachValue, List.pairwise_cons]
    constructor
    · intro op hop
      have hne := (List.mem_filter.1 hop).2
      exact Ne.symm (of_decide_eq_true hne)
    · exact ih.filter _

theorem nodup_members (d : Dialect) : d.members.Nodup := by
  refine d.pairwise_members.imp ?_
  rintro a b hne rfl
  exact hne rfl

theorem classifiesArg_of_hasArg? (h : (d.hasArg? op).isSome = true) : d.classifiesArg = true := by
  by_contra hc
  rw [hasArg?, if_neg hc] at h
  cases h

theorem hasArg?_of_mem (h : d.DefinesArg) (mem : op ∈ d.members) :
    d.hasArg? op = some op.traits.hasArg := by
  rw [hasArg?, if_pos (classifiesArg_of_hasArg? (h op mem))]

/-- A dialect that `DefinesArg` classifies its opcodes, unless it has none. -/
theorem classifiesArg_or_isEmpty (h : d.DefinesArg) :
    (d.classifiesArg || d.members.isEmpty) = true := by
  cases hm : d.members with
  | nil => simp
  | cons op ops =>
    have mem : op ∈ d.members := hm ▸ List.mem_cons_self ..
    rw [classifiesArg_of_hasArg? (h op mem)]
    rfl

/-! ### The range of the opcodes that take an argument -/

/-- The opcodes of `d` that take an argument are those from some value on. -/
def HasThreshold (d : Dialect) : Prop :=
  ∃ threshold : Int, ∀ op ∈ d.members, d.hasArg? op = some true ↔ threshold ≤ op.value

theorem threshold?_eq_none_iff :
    d.threshold? = none ↔ ∀ op ∈ d.members, op.traits.hasArg = false := by
  unfold threshold?
  rw [List.min?_eq_none_iff, List.map_eq_nil_iff, List.filter_eq_nil_iff]
  simp

theorem threshold?_eq_some_iff {t : Int} :
    d.threshold? = some t ↔
      (∃ op ∈ d.members, op.traits.hasArg = true ∧ op.value = t) ∧
        ∀ op ∈ d.members, op.traits.hasArg = true → t ≤ op.value := by
  unfold threshold?
  rw [List.min?_eq_some_iff]
  simp only [List.mem_map, List.mem_filter, forall_exists_index, and_imp, and_assoc]
  constructor
  · rintro ⟨hmem, hle⟩
    exact ⟨hmem, fun op hop harg => hle _ op hop harg rfl⟩
  · rintro ⟨hmem, hle⟩
    refine ⟨hmem, ?_⟩
    rintro _ op hop harg rfl
    exact hle op hop harg

theorem stragglers_eq_nil_iff {t : Int} :
    d.stragglers t = [] ↔ ∀ op ∈ d.members, t < op.value → op.traits.hasArg = true := by
  unfold stragglers
  rw [List.filter_eq_nil_iff]
  simp

theorem gapProblems_of_threshold {t : Int} (ht : d.threshold? = some t) :
    d.gapProblems = [] ↔ d.stragglers t = [] := by
  unfold gapProblems
  rw [ht]
  dsimp only
  unfold Problem.report
  cases d.stragglers t <;> simp

/-- **`gapProblems` reports nothing exactly if `d` `HasThreshold`.** -/
theorem gapProblems_eq_nil_iff (h : d.DefinesArg) : d.gapProblems = [] ↔ d.HasThreshold := by
  have hiff : ∀ op ∈ d.members, (d.hasArg? op = some true ↔ op.traits.hasArg = true) := by
    intro op mem
    rw [hasArg?_of_mem h mem, Option.some.injEq]
  unfold HasThreshold
  cases ht : d.threshold? with
  | none =>
    -- No opcode takes an argument, and any value above all of theirs is a threshold.
    have hnone := threshold?_eq_none_iff.1 ht
    have hnil : d.gapProblems = [] := by
      unfold gapProblems
      rw [ht]
    obtain ⟨bound, hbound⟩ := (d.members.map (·.value)).finite_toSet.bddAbove
    refine ⟨fun _ => ⟨bound + 1, fun op mem => ?_⟩, fun _ => hnil⟩
    have hle : op.value ≤ bound := hbound (List.mem_map_of_mem mem)
    rw [hiff op mem, hnone op mem]
    constructor
    · intro hfalse
      cases hfalse
    · intro hlt
      omega
  | some t =>
    obtain ⟨⟨least, hleast, hleastArg, rfl⟩, hmin⟩ := threshold?_eq_some_iff.1 ht
    rw [gapProblems_of_threshold ht, stragglers_eq_nil_iff]
    constructor
    · -- The least value is a threshold: only `least` itself has it.
      intro habove
      refine ⟨least.value, fun op mem => ?_⟩
      rw [hiff op mem]
      constructor
      · exact hmin op mem
      · intro hle
        by_cases heq : least.value = op.value
        · rw [← eq_of_value_eq hleast mem heq]
          exact hleastArg
        · exact habove op mem (by omega)
    · rintro ⟨threshold, hthreshold⟩ op mem hlt
      have hle := (hthreshold least hleast).1 ((hiff least hleast).2 hleastArg)
      exact (hiff op mem).1 ((hthreshold op mem).2 (by omega))

/-! ### Validation -/

/-- A dialect `d` without contradictions. -/
structure Sound (d : Dialect) : Prop where
  /-- Each opcode keeps every `Rule`. -/
  rules : ∀ op ∈ d.members, ∀ rule : Rule, rule.Holds d op
  /-- Different opcodes stand for different things. -/
  labels : ∀ a ∈ d.members, ∀ b ∈ d.members, a.label = b.label → a = b
  /-- The opcodes that take an argument are those from some value on. -/
  range : d.HasThreshold

theorem problems_spec (harg : d.DefinesArg) (hlabel : d.NamesLabels) :
    ∃ problems, d.problems = .ok problems ∧ (problems = [] ↔ d.Sound) := by
  obtain ⟨own, hown, hnil⟩ := memberProblems_spec [] harg hlabel
  refine ⟨own ++ d.gapProblems, ?_, ?_⟩
  · unfold problems
    rw [hown]
    show (if _ then _ else _) = _
    rw [if_pos (classifiesArg_or_isEmpty harg)]
    rfl
  · rw [List.append_eq_nil_iff, hnil, gapProblems_eq_nil_iff harg,
      List.nodup_map_iff_inj_on d.nodup_members]
    constructor
    · rintro ⟨⟨hrules, hlabels, -⟩, hrange⟩
      exact ⟨hrules, hlabels, hrange⟩
    · rintro ⟨hrules, hlabels, hrange⟩
      exact ⟨⟨hrules, hlabels, by simp⟩, hrange⟩

/-- **Validation is sound and complete.**  If `d` says which opcodes take an argument (`DefinesArg`)
and its opcodes stand for something with a name (`NamesLabels`), `validate` accepts it exactly if it
is `Sound`, and reports problems if it is not. -/
theorem validate_eq_ok_iff_sound (d : Dialect) (harg : d.DefinesArg) (hlabel : d.NamesLabels) :
    (d.validate = .ok () ↔ d.Sound) ∧
      (¬ d.Sound →
        ∃ problems, problems ≠ [] ∧ d.validate = .error (.invalidDialect d.name problems)) := by
  obtain ⟨problems, hproblems, hsound⟩ := problems_spec harg hlabel
  have hvalidate : d.validate =
      if problems.isEmpty then .ok () else .error (.invalidDialect d.name problems) := by
    unfold validate
    rw [hproblems]
    rfl
  rw [hvalidate, ← hsound]
  cases problems with
  | nil => simp
  | cons problem rest => simp

/-- The dialect `python39` is sound, and the table `gap`, in which `POP_TOP` takes no argument above
`NOP`, which takes one, is not. -/
theorem validate_eq_ok_iff_sound_shipped_and_gap :
    let gap := declare "gap" "Gap"
      [⟨"NOP", 1, { hasArg := true }, none⟩, ⟨"POP_TOP", 2, {}, none⟩] false
    (python39.DefinesArg ∧ python39.NamesLabels ∧ python39.Sound) ∧
      (gap.DefinesArg ∧ gap.NamesLabels ∧ ¬ gap.Sound) := by
  intro gap
  have harg : python39.DefinesArg := definesArg_of_classifiesArg rfl
  have ⟨hlabel, hok⟩ : python39.NamesLabels ∧ python39.validate = .ok () := by decide +kernel
  have harg' : gap.DefinesArg := definesArg_of_classifiesArg rfl
  have hlabel' : gap.NamesLabels := by decide +kernel
  have hnot : gap.validate ≠ .ok () := by decide +kernel
  refine ⟨⟨harg, hlabel, ?_⟩, harg', hlabel', ?_⟩
  · exact (validate_eq_ok_iff_sound python39 harg hlabel).1.1 hok
  · exact fun hsound => hnot ((validate_eq_ok_iff_sound gap harg' hlabel').1.2 hsound)

end Bytecode.Dialect
