import Bytecode.Proofs.SoundDialect

/-!
# Instructions of a validated dialect

A dialect that passes validation is sound, and the rules that its opcodes keep become facts about
every instruction that can be built from it: the opcode is a byte, so the instruction can be encoded
and is read back; no two opcodes share a label, so the label leads back to the opcode
(`ofLabel_eq_ok_iff`); and an opcode that makes no sense without an argument has one.

Validation itself does not have to be told that the dialect says which opcodes take an argument: it
fails if the dialect does not (`definesArg_of_validate`).  Nor do the labels need names for opcodes
to be told apart by them: the scan also fails at a shared label without a name
(`eq_of_label_eq_of_validate`).
-/

namespace Bytecode

theorem exists_of_bind_eq_ok {α β : Type} {x : Except Fault α} {f : α → Except Fault β} {b : β}
    (h : x >>= f = .ok b) : ∃ a, x = .ok a ∧ f a = .ok b := by
  cases x with
  | error e => cases h
  | ok a => exact ⟨a, rfl, h⟩

/-- A `label` that has a name is `same` only as itself. -/
theorem Label.same_iff_of_name {label other : Label} {name : String} (h : label.name = .ok name) :
    label.same other = true ↔ label = other := by
  cases label with
  | catalog m => simp [Label.same]
  | foreign catalogName n => simp [Label.same]
  | plain v => cases h

namespace Dialect

variable {d : Dialect} {op : Opcode} {label : Label} {name : String}

/-! ### What acceptance means -/

theorem problems_of_validate (h : d.validate = .ok ()) : d.problems = .ok [] := by
  unfold validate at h
  cases hproblems : d.problems with
  | error e =>
    rw [hproblems] at h
    cases h
  | ok problems =>
    rw [hproblems] at h
    cases problems with
    | nil => rfl
    | cons problem rest => cases h

/-- If `validate` accepts `d`, then `d` says which opcodes take an argument, if it has any, and
`memberProblems` finds nothing. -/
theorem scan_of_validate (h : d.validate = .ok ()) :
    d.memberProblems [] d.members = .ok [] ∧ (d.classifiesArg || d.members.isEmpty) = true := by
  obtain ⟨own, hown, hproblems⟩ := exists_of_bind_eq_ok (problems_of_validate h)
  split at hproblems
  · rename_i hclassifies
    obtain ⟨rfl, -⟩ := List.append_eq_nil_iff.1 (Except.ok.inj hproblems)
    exact ⟨hown, hclassifies⟩
  · cases hproblems

theorem definesArg_of_validate (h : d.validate = .ok ()) : d.DefinesArg := by
  rcases Bool.or_eq_true_iff.1 (scan_of_validate h).2 with hc | hempty
  · exact definesArg_of_classifiesArg hc
  · intro op mem
    rw [List.isEmpty_iff.1 hempty] at mem
    cases mem

theorem lookup_of_sharingProblems {earlier : List (Label × String)}
    (h : sharingProblems earlier op label = .ok []) : earlier.lookup label = none := by
  unfold sharingProblems at h
  cases hlook : earlier.lookup label with
  | none => rfl
  | some holder =>
    rw [hlook] at h
    cases hname : label.name with
    | error e =>
      rw [hname] at h
      cases h
    | ok name =>
      rw [hname] at h
      cases h

/-- If `memberProblems` finds nothing, it has met no label twice.  This does not need labels with
names: at a shared label without a name the scan fails. -/
theorem nodup_labels_of_memberProblems {ops : List Opcode} {earlier : List (Label × String)}
    (h : d.memberProblems earlier ops = .ok []) :
    (ops.map Opcode.label).Nodup ∧ ∀ op ∈ ops, ∀ p ∈ earlier, op.label ≠ .ok p.1 := by
  induction ops generalizing earlier with
  | nil => exact ⟨List.nodup_nil, by simp⟩
  | cons op ops ih =>
    rw [memberProblems] at h
    obtain ⟨own, -, h⟩ := exists_of_bind_eq_ok h
    obtain ⟨label, hlabel, h⟩ := exists_of_bind_eq_ok h
    obtain ⟨sharing, hsharing, h⟩ := exists_of_bind_eq_ok h
    obtain ⟨later, hlater, h⟩ := exists_of_bind_eq_ok h
    obtain ⟨hfirst, rfl⟩ := List.append_eq_nil_iff.1 (Except.ok.inj h)
    obtain ⟨-, rfl⟩ := List.append_eq_nil_iff.1 hfirst
    obtain ⟨hnodup, hfresh⟩ := ih hlater
    have hnew := List.lookup_eq_none_iff.1 (lookup_of_sharingProblems hsharing)
    rw [List.map_cons, List.nodup_cons, List.forall_mem_cons, hlabel]
    refine ⟨⟨?_, hnodup⟩, ?_, ?_⟩
    · rw [List.mem_map]
      rintro ⟨o, ho, heq⟩
      exact hfresh o ho (label, op.name) List.mem_cons_self heq
    · intro p hp heq
      simpa [Except.ok.inj heq] using hnew p hp
    · exact fun o ho p hp => hfresh o ho p (List.mem_cons_of_mem _ hp)

/-- If `validate` accepts `d`, different opcodes stand for different things, with a name or not. -/
theorem eq_of_label_eq_of_validate (h : d.validate = .ok ()) {a b : Opcode} (ha : a ∈ d.members)
    (hb : b ∈ d.members) (hlabel : a.label = b.label) : a = b := by
  have hnodup := (nodup_labels_of_memberProblems (scan_of_validate h).1).1
  exact List.inj_on_of_nodup_map hnodup ha hb hlabel

theorem sound_of_validate (h : d.validate = .ok ()) (hnamed : d.NamesLabels) : d.Sound := by
  obtain ⟨problems, hproblems, hsound⟩ := problems_spec (definesArg_of_validate h) hnamed
  rw [problems_of_validate h] at hproblems
  exact hsound.1 (Except.ok.inj hproblems).symm

/-! ### From labels back to opcodes -/

/-- The search of `ofLabel` for a label with a name among opcodes `ops` that have labels with
names. -/
theorem search_spec {ops : List Opcode} (hname : label.name = .ok name)
    (hlabel : ∀ op ∈ ops, ∃ label name, op.label = .ok label ∧ label.name = .ok name) :
    (∃ op ∈ ops, op.label = .ok label ∧ ofLabel.search d label ops = .ok op) ∨
    ((∀ op ∈ ops, op.label ≠ .ok label) ∧
      ofLabel.search d label ops = .error (.noOpcodeFor d.name name)) := by
  induction ops with
  | nil =>
    refine .inr ⟨by simp, ?_⟩
    rw [ofLabel.search, hname]
    rfl
  | cons op ops ih =>
    obtain ⟨l, n, hl, hn⟩ := hlabel op (List.mem_cons_self ..)
    rw [ofLabel.search, hl]
    dsimp only
    by_cases heq : l = label
    · rw [if_pos ((Label.same_iff_of_name hn).2 heq)]
      exact .inl ⟨op, List.mem_cons_self .., by rw [hl, heq], rfl⟩
    · rw [if_neg (fun h => heq ((Label.same_iff_of_name hn).1 h))]
      obtain ⟨found, mem, hfound, hsearch⟩ | ⟨hnone, hsearch⟩ :=
        ih fun o ho => hlabel o (List.mem_cons_of_mem _ ho)
      · exact .inl ⟨found, List.mem_cons_of_mem _ mem, hfound, hsearch⟩
      · refine .inr ⟨?_, hsearch⟩
        rw [List.forall_mem_cons]
        exact ⟨fun h => heq (Except.ok.inj (hl.symm.trans h)), hnone⟩

/-- A label with a name is refused by `ofLabel` exactly if no opcode stands for it. -/
theorem ofLabel_eq_error_iff (hnamed : d.NamesLabels) (hname : label.name = .ok name) :
    d.ofLabel label = .error (.noOpcodeFor d.name name) ↔
      ∀ op ∈ d.members, op.label ≠ .ok label := by
  unfold ofLabel
  obtain ⟨found, mem, hfound, hsearch⟩ | ⟨hnone, hsearch⟩ := search_spec (d := d) hname hnamed
  · rw [hsearch]
    exact ⟨fun h => (nomatch h), fun h => absurd hfound (h found mem)⟩
  · exact ⟨fun _ => hnone, fun _ => hsearch⟩

/-- **Labels lead back to opcodes.**  In a `Sound` dialect `ofLabel` gives the one opcode that
stands for the `label`. -/
theorem ofLabel_eq_ok_iff (hsound : d.Sound) (hnamed : d.NamesLabels)
    (hname : label.name = .ok name) :
    d.ofLabel label = .ok op ↔ op ∈ d.members ∧ op.label = .ok label := by
  unfold ofLabel
  obtain ⟨found, mem, hfound, hsearch⟩ | ⟨hnone, hsearch⟩ := search_spec (d := d) hname hnamed
  · rw [hsearch]
    constructor
    · intro h
      obtain rfl := Except.ok.inj h
      exact ⟨mem, hfound⟩
    · rintro ⟨mem', hlabel⟩
      rw [hsound.labels found mem op mem' (hfound.trans hlabel.symm)]
  · rw [hsearch]
    exact ⟨fun h => (nomatch h), fun h => absurd h.2 (hnone op h.1)⟩

/-! ### Opcodes that need an argument -/

/-- An opcode `op` of a `Sound` dialect that jumps, on a condition or not, or whose argument refers
to something, takes an argument. -/
theorem Sound.hasArg?_of_operand (hsound : d.Sound) (mem : op ∈ d.members)
    (h : op.traits.isJump = true ∨ op.traits.isConditionalJump = true ∨
      op.traits.isOtherConditionalJump = true ∨ op.traits.hasConst = true ∨
      op.traits.hasComparison = true ∨ op.traits.hasName = true ∨ op.traits.hasLocal = true ∨
      op.traits.hasFree = true) :
    d.hasArg? op = some true := by
  have hcondition := hsound.rules op mem .conditionHasJump
  have hoperand := hsound.rules op mem .operandHasArgument
  simp only [Rule.Holds] at hcondition hoperand
  apply hoperand
  rcases h with h | h | h | h | h | h | h | h
  · exact .inl h
  · exact .inl (hcondition (.inl h))
  · exact .inl (hcondition (.inr h))
  all_goals simp [h]

end Dialect

namespace Instruction

variable {d : Dialect} {op : Opcode} {mem : op ∈ d.members} {arg : Option Int} {i : Instruction}

/-- An instruction holds what it was built from by `build`. -/
theorem of_build (h : build d op mem arg = .ok i) :
    i.dialect = d ∧ i.opcode = op ∧ i.arg.map (fun n => (n.toNat : Int)) = arg := by
  unfold build at h
  split at h
  case h_3 n _ =>
    split at h
    · rename_i hfits
      obtain rfl := Except.ok.inj h
      simp only [Bool.and_eq_true, decide_eq_true_eq] at hfits
      refine ⟨rfl, rfl, ?_⟩
      rw [Option.map_some, UInt16.toNat_ofNat']
      congr 1
      omega
    · cases h
  case h_5 =>
    obtain rfl := Except.ok.inj h
    exact ⟨rfl, rfl, rfl⟩
  all_goals cases h

/-- An opcode whose value is a byte can be encoded by `encode`. -/
theorem exists_encode (hnonneg : 0 ≤ i.opcode.value) (hle : i.opcode.value ≤ 255) :
    ∃ bytes, i.encode = .ok bytes := by
  unfold encode
  rw [if_pos (by simp [hnonneg, hle])]
  exact ⟨_, rfl⟩

/-- The encoding `bytes` of `i` is decoded to `i`. -/
theorem decode_encoded {bytes : List UInt8} (he : i.encode = .ok bytes) :
    ((Reader.ofBytes bytes).decode i.dialect).result = .ok i := by
  obtain ⟨reads, hadv⟩ := Reader.advance_encoded rfl he 0 [] 0 []
  rw [List.append_nil] at hadv
  have hresult := Reader.advance_result i.dialect 0 ⟨.reader bytes, 0, []⟩
  rw [hadv] at hresult
  exact streamed_eq_instruction_iff.1 hresult.symm

end Instruction

/-! ### Instructions of an accepted dialect -/

/-- **What validation guarantees of instructions.**  If `validate` accepts `d` and its opcodes stand
for things with a name (`NamesLabels`), then every instruction `i` that `build` gives is encoded in
as many bytes as its `size` says, and decoded to itself.  The label of its opcode leads back to the
opcode by `ofLabel`, so the label and the argument give `i` again.  If the opcode jumps or refers to
something, the argument is there and fits in two bytes.  And a `label` with a name leads nowhere
exactly if no opcode stands for it. -/
theorem Dialect.validate_guarantees_instructions (d : Dialect) (hvalid : d.validate = .ok ())
    (hnamed : d.NamesLabels) :
    (∀ (op : Opcode) (mem : op ∈ d.members) (arg : Option Int) (i : Instruction),
      Instruction.build d op mem arg = .ok i →
      i.opcode = op ∧
      (∃ bytes, i.encode = .ok bytes ∧ bytes.length = i.size ∧
        ((Reader.ofBytes bytes).decode d).result = .ok i) ∧
      (∃ label, i.label = .ok label ∧ d.ofLabel label = .ok op ∧
        Instruction.build d op mem (i.arg.map fun n => (n.toNat : Int)) = .ok i) ∧
      (op.traits.isJump = true ∨ op.traits.isConditionalJump = true ∨
        op.traits.isOtherConditionalJump = true ∨ op.traits.hasConst = true ∨
        op.traits.hasComparison = true ∨ op.traits.hasName = true ∨ op.traits.hasLocal = true ∨
        op.traits.hasFree = true →
        ∃ n, arg = some n ∧ i.arg.map (fun n => (n.toNat : Int)) = some n ∧ 0 ≤ n ∧ n ≤ 65535)) ∧
    ∀ (label : Label) (name : String), label.name = .ok name →
      (d.ofLabel label = .error (.noOpcodeFor d.name name) ↔
        ∀ op ∈ d.members, op.label ≠ .ok label) ∧
      ∀ op, d.ofLabel label = .ok op ↔ op ∈ d.members ∧ op.label = .ok label := by
  have hsound := sound_of_validate hvalid hnamed
  refine ⟨fun op mem arg i hbuild => ?_, fun label name hname => ?_⟩
  · obtain ⟨rfl, rfl, rfl⟩ := Instruction.of_build hbuild
    obtain ⟨label, name, hlabel, hname⟩ := hnamed i.opcode mem
    have hback := (ofLabel_eq_ok_iff hsound hnamed hname).2 ⟨mem, hlabel⟩
    refine ⟨rfl, ?_, ⟨label, hlabel, hback, i.build_self⟩, ?_⟩
    · have hbyte := hsound.rules i.opcode mem .singleByte
      obtain ⟨bytes, he⟩ := Instruction.exists_encode hbyte.1 hbyte.2
      exact ⟨bytes, he, Instruction.length_of_encode he, Instruction.decode_encoded he⟩
    · intro hoperand
      have hsome : i.arg.isSome = true := by
        have harg := hsound.hasArg?_of_operand mem hoperand
        rw [i.hasArg_eq] at harg
        exact Option.some.inj harg
      obtain ⟨n, hn⟩ := Option.isSome_iff_exists.1 hsome
      have hlt := n.toNat_lt
      exact ⟨n.toNat, by rw [hn]; rfl, by rw [hn]; rfl, by omega, by omega⟩
  · exact ⟨ofLabel_eq_error_iff hnamed hname, fun op => ofLabel_eq_ok_iff hsound hnamed hname⟩

/-- A dialect with the widest byte and the widest argument, for a jump `leap` that stands for a
foreign namesake of the other opcode `nop`. -/
theorem Dialect.validate_guarantees_instructions_namesake :
    let nop : Opcode := ⟨"NOP", 0, {}, none⟩
    let leap : Opcode := ⟨"LEAP", 255, { hasArg := true, isAbsoluteJump := true },
      some (.direct (.foreign "Other" "NOP"))⟩
    let d := declare "leaps" "Leaps" [nop, leap] false
    d.validate = .ok () ∧ d.NamesLabels ∧
      d.ofLabel (.catalog .nop) = .ok nop ∧ d.ofLabel (.foreign "Other" "NOP") = .ok leap ∧
      d.ofLabel (.catalog .popTop) = .error (.noOpcodeFor "Leaps" "POP_TOP") ∧
      ∃ mem i bytes, Instruction.build d leap mem (some 65535) = .ok i ∧
        i.encode = .ok bytes ∧ bytes = [255, 255, 255] ∧
        ((Reader.ofBytes bytes).decode d).result = .ok i := by
  intro nop leap d
  have hvalid : d.validate = .ok () := by decide
  have hnamed : d.NamesLabels := by decide
  obtain ⟨hinstructions, hlabels⟩ := d.validate_guarantees_instructions hvalid hnamed
  have mem : leap ∈ d.members := by decide
  let i : Instruction := ⟨d, leap, some 65535, mem, rfl⟩
  have hbuild : Instruction.build d leap mem (some 65535) = .ok i := i.build_self
  have he : i.encode = .ok [255, 255, 255] := rfl
  obtain ⟨-, ⟨bytes, hencode, -, hdecode⟩, -⟩ := hinstructions leap mem (some 65535) i hbuild
  obtain rfl := Except.ok.inj (he.symm.trans hencode)
  refine ⟨hvalid, hnamed, ?_, ?_, ?_, mem, i, _, hbuild, hencode, rfl, hdecode⟩
  · exact ((hlabels _ _ rfl).2 nop).2 ⟨by decide, rfl⟩
  · exact ((hlabels _ _ rfl).2 leap).2 ⟨mem, rfl⟩
  · exact (hlabels _ _ rfl).1.2 (by decide)

end Bytecode
