import Bytecode.Proofs.SoundDialect
import Mathlib.Data.Finset.Card

/-!
# The report of a validation

Validation reports every contradiction of a dialect once and in a fixed order, and this module says
which list that is: for each opcode the rules that it breaks and then the opcode that it shares its
label with (`violationsFrom`), and last a gap in the range of the opcodes that take an argument
(`GapReport`).

The scan keeps a table of the labels seen so far, in which a later holder of a label hides the
earlier ones.  The invariant is that the table holds the opcodes already done, the latest first
(`memberProblems_eq`); so the opcode that is named is the nearest of those with the same label, also
if there are more of them.
-/

namespace Bytecode

theorem Opcode.labelName_of_label {op : Opcode} {label : Label} {name : String}
    (hlabel : op.label = .ok label) (hname : label.name = .ok name) : op.labelName = .ok name := by
  unfold Opcode.labelName
  rw [hlabel]
  exact hname

namespace Dialect

variable {d : Dialect} {op : Opcode}

/-! ### Opcodes that share a label -/

/-- The nearest of the `earlier` opcodes that stands for the same thing as `op`. -/
def namesake? (earlier : List Opcode) (op : Opcode) : Option Opcode :=
  (earlier.filter (·.label = op.label)).getLast?

/-- The problem that `op` stands for the same thing as one of the `earlier` opcodes, if it does. -/
def sharing (earlier : List Opcode) (op : Opcode) : List Problem :=
  match namesake? earlier op, op.labelName with
  | some nearest, .ok label => [.sharedLabel op.name nearest.name label]
  | _, _ => []

theorem namesake?_isSome_iff {earlier : List Opcode} :
    (namesake? earlier op).isSome = true ↔ op.label ∈ earlier.map Opcode.label := by
  unfold namesake?
  rw [List.getLast?_filter, List.find?_isSome]
  simp

/-- The table `earlier` of a scan leads to the nearest opcode with a `label`. -/
theorem lookup_eq_find? {earlier : List (Label × String)} {nearest : List Opcode}
    (h : earlier.map (fun p => (Except.ok p.1, p.2)) = nearest.map fun o => (o.label, o.name))
    (label : Label) :
    earlier.lookup label = (nearest.find? (·.label = .ok label)).map (·.name) := by
  induction nearest generalizing earlier with
  | nil =>
    obtain rfl := List.map_eq_nil_iff.1 h
    rfl
  | cons o nearest ih =>
    cases earlier with
    | nil => cases h
    | cons p earlier =>
      obtain ⟨hhead, htail⟩ := List.cons.inj h
      obtain ⟨hlabel, hname⟩ := Prod.mk.inj hhead
      rw [List.lookup_cons, List.find?_cons, ← hlabel, ih htail]
      by_cases heq : p.1 = label
      · simp [heq, hname]
      · have hne : (label == p.1) = false := beq_eq_false_iff_ne.2 (Ne.symm heq)
        simp [heq, hne]

theorem sharingProblems_eq {earlier : List (Label × String)} {done : List Opcode} {label : Label}
    {name : String}
    (h : earlier.map (fun p => (Except.ok p.1, p.2)) =
      done.reverse.map fun o => (o.label, o.name))
    (hlabel : op.label = .ok label) (hname : label.name = .ok name) :
    sharingProblems earlier op label = .ok (sharing done op) := by
  unfold sharingProblems sharing namesake?
  rw [lookup_eq_find? h, List.getLast?_filter, Opcode.labelName_of_label hlabel hname, hlabel]
  cases done.reverse.find? (·.label = .ok label) with
  | none => rfl
  | some nearest =>
    show label.name.map _ = _
    rw [hname]
    rfl

/-! ### The scan -/

/-- The problems of `op` among the opcodes of the dialect: the rules that it breaks, in order, and
then that it shares its label with one of the `earlier` opcodes. -/
def violationsOf (d : Dialect) (earlier : List Opcode) (op : Opcode) : List Problem :=
  (Rule.broken d op).map (Rule.problem op.name) ++ sharing earlier op

/-- The problems of the opcodes `ops` that follow those already `done`, each among all before it. -/
def violationsFrom (d : Dialect) (done ops : List Opcode) : List Problem :=
  (ops.zipIdx done.length).flatMap fun p => d.violationsOf ((done ++ ops).take p.2) p.1

theorem violationsFrom_nil (d : Dialect) (done : List Opcode) : d.violationsFrom done [] = [] :=
  rfl

theorem violationsFrom_cons (d : Dialect) (done : List Opcode) (op : Opcode) (ops : List Opcode) :
    d.violationsFrom done (op :: ops) =
      d.violationsOf done op ++ d.violationsFrom (done ++ [op]) ops := by
  unfold violationsFrom
  rw [List.zipIdx_cons, List.flatMap_cons, List.take_left, List.length_append,
    List.length_singleton, List.append_assoc, List.singleton_append]

/-- **What `memberProblems` finds.**  The table `earlier` holds the opcodes already `done`, the
latest first. -/
theorem memberProblems_eq (done ops : List Opcode) (earlier : List (Label × String))
    (h : earlier.map (fun p => (Except.ok p.1, p.2)) =
      done.reverse.map fun o => (o.label, o.name))
    (harg : ∀ op ∈ ops, (d.hasArg? op).isSome = true)
    (hlabel : ∀ op ∈ ops, ∃ label name, op.label = .ok label ∧ label.name = .ok name) :
    d.memberProblems earlier ops = .ok (d.violationsFrom done ops) := by
  induction ops generalizing done earlier with
  | nil => rfl
  | cons op ops ih =>
    obtain ⟨label, name, hl, hname⟩ := hlabel op List.mem_cons_self
    have hown := ownProblems_eq (harg op List.mem_cons_self)
    have hsharing := sharingProblems_eq h hl hname
    -- The opcode goes on top of the table.
    have hnext : ((label, op.name) :: earlier).map (fun p => (Except.ok p.1, p.2)) =
        (done ++ [op]).reverse.map fun o => (o.label, o.name) := by
      rw [List.reverse_append, List.map_cons, h, ← hl]
      rfl
    have hlater := ih _ _ hnext (fun o ho => harg o (List.mem_cons_of_mem _ ho))
      (fun o ho => hlabel o (List.mem_cons_of_mem _ ho))
    rw [memberProblems, hown, hl]
    show (sharingProblems earlier op label >>= fun _ => _) = _
    rw [hsharing]
    show (d.memberProblems ((label, op.name) :: earlier) ops >>= fun _ => _) = _
    rw [hlater, violationsFrom_cons]
    rfl

/-! ### How many labels are shared -/

/-- Whether a problem is a `sharedLabel`. -/
def Problem.isSharing : Problem → Bool
  | .sharedLabel .. => true
  | _ => false

theorem Rule.isSharing_problem (rule : Rule) (name : String) :
    (rule.problem name).isSharing = false := by
  cases rule <;> rfl

theorem countP_violationsOf {earlier : List Opcode} {name : String}
    (hname : op.labelName = .ok name) :
    (d.violationsOf earlier op).countP Problem.isSharing =
      if op.label ∈ earlier.map Opcode.label then 1 else 0 := by
  have hbroken : ((Rule.broken d op).map (Rule.problem op.name)).countP Problem.isSharing = 0 := by
    rw [List.countP_eq_zero]
    simp [Rule.isSharing_problem]
  unfold violationsOf sharing
  rw [List.countP_append, hbroken, Nat.zero_add, hname]
  cases hnearest : namesake? earlier op with
  | none =>
    rw [if_neg]
    · rfl
    · intro hmem
      have hsome := namesake?_isSome_iff.2 hmem
      rw [hnearest] at hsome
      cases hsome
  | some nearest =>
    rw [if_pos]
    · rfl
    · rw [← namesake?_isSome_iff, hnearest]
      rfl

/-- Each of `ops` brings a new label or a problem that `isSharing`. -/
theorem countP_violationsFrom (done ops : List Opcode)
    (hlabel : ∀ op ∈ ops, ∃ label name, op.label = .ok label ∧ label.name = .ok name) :
    (d.violationsFrom done ops).countP Problem.isSharing +
        ((done ++ ops).map Opcode.label).toFinset.card =
      (done.map Opcode.label).toFinset.card + ops.length := by
  induction ops generalizing done with
  | nil => simp [violationsFrom_nil]
  | cons op ops ih =>
    obtain ⟨label, name, hl, hname⟩ := hlabel op List.mem_cons_self
    have hlater := ih (done ++ [op]) fun o ho => hlabel o (List.mem_cons_of_mem _ ho)
    have hcard : ((done ++ [op]).map Opcode.label).toFinset.card =
        if op.label ∈ done.map Opcode.label then (done.map Opcode.label).toFinset.card
        else (done.map Opcode.label).toFinset.card + 1 := by
      rw [List.map_append, List.toFinset_append, Finset.union_comm]
      simp [Finset.card_insert_eq_ite]
    rw [List.append_assoc, List.singleton_append] at hlater
    rw [violationsFrom_cons, List.countP_append,
      countP_violationsOf (Opcode.labelName_of_label hl hname), List.length_cons]
    by_cases hmem : op.label ∈ done.map Opcode.label
    · rw [if_pos hmem] at hcard ⊢
      omega
    · rw [if_neg hmem] at hcard ⊢
      omega

/-! ### The gap -/

/-- The value `least` is the least of an opcode that takes an argument. -/
def IsThreshold (d : Dialect) (least : Int) : Prop :=
  IsLeast {v | ∃ op ∈ d.members, d.hasArg? op = some true ∧ op.value = v} least

/-- What is reported about the range of the opcodes of `d` that take an argument. -/
inductive GapReport (d : Dialect) : List Problem → Prop where
  /-- No opcode without an argument lies above the `least` one with an argument. -/
  | none (h : ∀ least, d.IsThreshold least → ∀ op ∈ d.members, least < op.value →
      d.hasArg? op ≠ some false) : d.GapReport []
  /-- Some do, and these `stragglers` are listed in order of definition. -/
  | gap {least : Int} {stragglers : List Opcode} (hleast : d.IsThreshold least)
      (hstragglers : stragglers =
        d.members.filter fun op => least < op.value ∧ d.hasArg? op = some false)
      (hne : stragglers ≠ []) : d.GapReport [.gap least (stragglers.map (·.name))]

theorem threshold?_eq_some_iff_isThreshold (h : d.DefinesArg) {least : Int} :
    d.threshold? = some least ↔ d.IsThreshold least := by
  rw [threshold?_eq_some_iff]
  constructor
  · rintro ⟨⟨op, mem, harg, hv⟩, hle⟩
    refine ⟨⟨op, mem, by rw [hasArg?_of_mem h mem, harg], hv⟩, ?_⟩
    rintro v ⟨op, mem, harg, rfl⟩
    rw [hasArg?_of_mem h mem] at harg
    exact hle op mem (Option.some.inj harg)
  · rintro ⟨⟨op, mem, harg, hv⟩, hle⟩
    rw [hasArg?_of_mem h mem] at harg
    refine ⟨⟨op, mem, Option.some.inj harg, hv⟩, ?_⟩
    intro op mem harg
    exact hle ⟨op, mem, by rw [hasArg?_of_mem h mem, harg], rfl⟩

theorem stragglers_eq (h : d.DefinesArg) (least : Int) :
    d.stragglers least =
      d.members.filter fun op => least < op.value ∧ d.hasArg? op = some false := by
  unfold stragglers
  apply List.filter_congr
  intro op mem
  rw [hasArg?_of_mem h mem]
  simp

theorem gapReport_gapProblems (h : d.DefinesArg) : d.GapReport d.gapProblems := by
  unfold gapProblems
  cases hleast : d.threshold? with
  | none =>
    refine .none ?_
    intro least hthreshold
    rw [← threshold?_eq_some_iff_isThreshold h, hleast] at hthreshold
    cases hthreshold
  | some least =>
    have hthreshold := (threshold?_eq_some_iff_isThreshold h).1 hleast
    dsimp only
    unfold Problem.report
    cases hstragglers : d.stragglers least with
    | nil =>
      refine .none ?_
      intro other hother op mem hlt harg
      obtain rfl := hother.unique hthreshold
      rw [stragglers_eq h, List.filter_eq_nil_iff] at hstragglers
      simpa [hlt, harg] using hstragglers op mem
    | cons op ops =>
      rw [← hstragglers]
      have hne : d.stragglers least ≠ [] := by simp [hstragglers]
      have hflag : (!(d.stragglers least).isEmpty) = true := by simp [hstragglers]
      rw [if_pos hflag]
      exact .gap hthreshold (stragglers_eq h least) hne

theorem GapReport.countP_isSharing {gap : List Problem} (h : d.GapReport gap) :
    gap.countP Problem.isSharing = 0 := by
  cases h <;> rfl

/-! ### The whole report -/

end Dialect
end Bytecode
