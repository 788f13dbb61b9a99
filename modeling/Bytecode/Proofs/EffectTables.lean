import Bytecode.StackEffect

/-!
# Stack effects by table

Together the three tables of stack effects list each operation of the catalog once
(`Mnemonic.tables_fit_catalog`).  So no table hides an entry of another (`stackEffect?_of_fixed`,
`stackEffect?_of_argument`, `stackEffect?_of_path`), and no operation is without an entry
(`entry_cases`).

Hence there are four ways for the questions about a label to be answered (`Label.effect_cases`), and
each of them settles all the questions: whether the label has an effect, of which kind that is, and
what it comes to with an argument or without one.
-/

namespace Bytecode

/-! ### What an effect answers -/

namespace Label

variable {m : Mnemonic}

theorem effectWith_of_fixed {change : Int} (h : m.stackEffect? = some (.fixed change))
    (arg : Option Int) : (catalog m).effectWith arg = .silent (.ok change) := by
  simp only [effectWith, h]

theorem effectWith_of_argument {change : Int → Int}
    (h : m.stackEffect? = some (.ofArgument change)) (arg : Int) :
    (catalog m).effectWith (some arg) = .silent (.ok (change arg)) := by
  simp only [effectWith, h]

theorem effectWith_none_of_argument {change : Int → Int}
    (h : m.stackEffect? = some (.ofArgument change)) :
    (catalog m).effectWith none = .silent (.error (.effectNeedsArgument m)) := by
  simp only [effectWith, h]

theorem effectWith_of_indeterminate (h : m.stackEffect? = some .indeterminate)
    (arg : Option Int) :
    (catalog m).effectWith arg =
      ⟨.error (.stackEffect (.indeterminate (.catalog m))), [.indeterminate m.name]⟩ := by
  simp only [effectWith, h, Fault.indeterminate]

/-- The `kind` of the effect answers the questions `effectKind` and `isStatic`. -/
theorem questions_of_effect {effect : StackEffect} (h : m.stackEffect? = some effect) :
    (catalog m).effectKind.result = .ok effect.kind ∧
    (catalog m).isStatic.result = .ok (decide (effect.kind ≠ .indeterminate)) := by
  have hlabel : (catalog m).stackEffect? = some effect := h
  constructor
  · rw [effectKind, hlabel]
    rfl
  · rw [isStatic, effectKind, hlabel]
    rfl

end Label

theorem Instruction.stackEffect_of_label {i : Instruction} {label : Label}
    (h : i.label = .ok label) :
    i.stackEffect = label.effectWith (i.arg.map fun arg => (arg.toNat : Int)) := by
  unfold stackEffect
  rw [h]

/-! ### Look-ups in a table -/

namespace StackEffect

variable {m : Mnemonic}

/-- A look-up of `m` gives nothing exactly if `table` does not list `m`. -/
theorem lookup_eq_none_iff {β : Type} {table : List (Mnemonic × β)} :
    table.lookup m = none ↔ m ∉ table.map (·.1) := by
  rw [List.lookup_eq_none_iff]
  simp only [List.mem_map, not_exists, not_and, bne_iff_ne]
  exact forall₂_congr fun p _ => ne_comm

/-- What a look-up of `m` gives is an entry of the `table`. -/
theorem mem_of_lookup {β : Type} {table : List (Mnemonic × β)} {b : β}
    (h : table.lookup m = some b) : (m, b) ∈ table := by
  obtain ⟨before, after, htable, -⟩ := List.lookup_eq_some_iff.1 h
  simp [htable]

theorem mem_keys_of_lookup {β : Type} {table : List (Mnemonic × β)} {b : β}
    (h : table.lookup m = some b) : m ∈ table.map (·.1) :=
  List.mem_map.2 ⟨_, mem_of_lookup h, rfl⟩

/-! ### The tables and the catalog -/

theorem nodup_tables :
    (fixedTable.map (·.1) ++ (argumentTable.map (·.1) ++ Mnemonic.pathDependent)).Nodup :=
  Mnemonic.tables_fit_catalog.nodup_iff.2 Mnemonic.nodup_catalog

theorem stackEffect?_of_fixed {change : Int} (h : fixedTable.lookup m = some change) :
    m.stackEffect? = some (.fixed change) := by
  simp only [Mnemonic.stackEffect?, h]

theorem stackEffect?_of_argument {change : Int → Int} (h : argumentTable.lookup m = some change) :
    m.stackEffect? = some (.ofArgument change) := by
  have hfixed : fixedTable.lookup m = none := by
    rw [lookup_eq_none_iff]
    intro hkey
    exact (List.nodup_append.1 nodup_tables).2.2 m hkey m
      (List.mem_append_left _ (mem_keys_of_lookup h)) rfl
  simp only [Mnemonic.stackEffect?, hfixed, h]

/-- The entry in `argumentTable` may be given by any formula `change'` with the same values. -/
theorem stackEffect?_of_argument_eq {change change' : Int → Int}
    (h : argumentTable.lookup m = some change) (heq : ∀ arg, change arg = change' arg) :
    m.stackEffect? = some (.ofArgument change') := by
  rw [stackEffect?_of_argument h, funext heq]

theorem stackEffect?_of_path (h : m ∈ Mnemonic.pathDependent) :
    m.stackEffect? = some .indeterminate := by
  obtain ⟨-, hrest, hdisjoint⟩ := List.nodup_append.1 nodup_tables
  have hfixed : fixedTable.lookup m = none := by
    rw [lookup_eq_none_iff]
    exact fun hkey => hdisjoint m hkey m (List.mem_append_right _ h) rfl
  have hargument : argumentTable.lookup m = none := by
    rw [lookup_eq_none_iff]
    exact fun hkey => (List.nodup_append.1 hrest).2.2 m hkey m h rfl
  simp only [Mnemonic.stackEffect?, hfixed, hargument, h, if_true]

/-- **Every operation `m` has an entry** in one of the tables. -/
theorem entry_cases (m : Mnemonic) :
    (∃ change, fixedTable.lookup m = some change) ∨
    (∃ change, argumentTable.lookup m = some change) ∨ m ∈ Mnemonic.pathDependent := by
  cases hfixed : fixedTable.lookup m with
  | some change => exact .inl ⟨change, rfl⟩
  | none =>
    cases hargument : argumentTable.lookup m with
    | some change => exact .inr (.inl ⟨change, rfl⟩)
    | none =>
      have hm := Mnemonic.tables_fit_catalog.mem_iff.2 m.mem_catalog
      rw [lookup_eq_none_iff] at hfixed hargument
      exact .inr (.inr (by simpa [hfixed, hargument] using hm))

end StackEffect

/-! ### The answers about a label -/

namespace Label

/-- **The four ways to answer.**  Either `label` is outside the catalog, and every question about it
is refused, or it is an operation `m` that stands in one of the tables, and that table answers. -/
theorem effect_cases (label : Label) (arg : Option Int) :
    ((∀ m, label ≠ .catalog m) ∧
      label.effectKind.result = .error (.stackEffect (.unclassified label)) ∧
      label.isStatic.result = .error (.stackEffect (.unclassified label)) ∧
      (label.effectWith arg).result = .error (.stackEffect (.unclassified label))) ∨
    ∃ m, label = .catalog m ∧
      ((m ∈ Mnemonic.pathDependent ∧
        label.effectKind.result = .ok .indeterminate ∧
        label.isStatic.result = .ok false ∧
        (label.effectWith arg).result = .error (.stackEffect (.indeterminate label))) ∨
      (∃ change, StackEffect.fixedTable.lookup m = some change ∧
        label.fixedEffect? = some change ∧
        label.effectKind.result = .ok .fixed ∧
        label.isStatic.result = .ok true ∧
        (label.effectWith arg).result = .ok change) ∨
      (∃ change, StackEffect.argumentTable.lookup m = some change ∧
        label.argumentEffect? = some change ∧
        label.effectKind.result = .ok .argument ∧
        label.isStatic.result = .ok true ∧
        (label.effectWith arg).result = match arg with
          | some n => .ok (change n)
          | none => .error (.effectNeedsArgument m))) := by
  cases label with
  | foreign catalogName name => exact .inl ⟨(fun m h => by cases h), rfl, rfl, rfl⟩
  | plain v => exact .inl ⟨(fun m h => by cases h), rfl, rfl, rfl⟩
  | catalog m =>
    refine .inr ⟨m, rfl, ?_⟩
    rw [fixedEffect?, argumentEffect?, show (catalog m).stackEffect? = m.stackEffect? from rfl]
    obtain ⟨change, hentry⟩ | ⟨change, hentry⟩ | hpath := StackEffect.entry_cases m
    · have heffect := StackEffect.stackEffect?_of_fixed hentry
      obtain ⟨hkind, hstatic⟩ := questions_of_effect heffect
      rw [hkind, hstatic, heffect, effectWith_of_fixed heffect]
      exact .inr (.inl ⟨change, hentry, rfl, rfl, rfl, rfl⟩)
    · have heffect := StackEffect.stackEffect?_of_argument hentry
      obtain ⟨hkind, hstatic⟩ := questions_of_effect heffect
      rw [hkind, hstatic, heffect]
      refine .inr (.inr ⟨change, hentry, rfl, rfl, rfl, ?_⟩)
      cases arg with
      | some n => rw [effectWith_of_argument heffect]; rfl
      | none => rw [effectWith_none_of_argument heffect]; rfl
    · have heffect := StackEffect.stackEffect?_of_path hpath
      obtain ⟨hkind, hstatic⟩ := questions_of_effect heffect
      rw [hkind, hstatic, effectWith_of_indeterminate heffect]
      exact .inl ⟨hpath, rfl, rfl, rfl⟩

end Label

/-! ### The effect of an instruction -/

/-- **Questions and effects agree.**  In whatever dialect, an instruction `i` whose opcode stands
for `label` is refused as unclassified exactly if the questions `effectKind` and `isStatic` about
`label` are, and that is exactly if it is no operation of the catalog, however it is spelled.  An
operation is static or not.  If it is not, every instruction of it is indeterminate.  If it is, the
effect is the entry in `fixedTable` or in `argumentTable`, read with the argument if it goes by one,
and the only thing that can be wrong is that there is no argument to go by.  Numbers come from
nowhere else. -/
theorem Instruction.stackEffect_agrees_with_label (i : Instruction) {label : Label}
    (hlabel : i.label = .ok label) :
    (∀ other,
      (i.stackEffect.result = .error (.stackEffect (.unclassified other)) ↔
        other = label ∧ ∀ m, label ≠ .catalog m) ∧
      (label.effectKind.result = .error (.stackEffect (.unclassified other)) ↔
        other = label ∧ ∀ m, label ≠ .catalog m) ∧
      (label.isStatic.result = .error (.stackEffect (.unclassified other)) ↔
        other = label ∧ ∀ m, label ≠ .catalog m)) ∧
    (∀ m, label = .catalog m → ∃ static, label.isStatic.result = .ok static) ∧
    (label.isStatic.result = .ok false →
      (∃ m ∈ Mnemonic.pathDependent, label = .catalog m) ∧
      label.effectKind.result = .ok .indeterminate ∧
      i.stackEffect.result = .error (.stackEffect (.indeterminate label))) ∧
    (label.isStatic.result = .ok true → ∃ m, label = .catalog m ∧
      ((label.effectKind.result = .ok .fixed ∧
        ∃ change, StackEffect.fixedTable.lookup m = some change ∧
          label.fixedEffect? = some change ∧ i.stackEffect.result = .ok change) ∨
      (label.effectKind.result = .ok .argument ∧
        ∃ change, StackEffect.argumentTable.lookup m = some change ∧
          label.argumentEffect? = some change ∧
          i.stackEffect.result = match i.arg with
            | some arg => .ok (change arg.toNat)
            | none => .error (.effectNeedsArgument m)))) ∧
    ∀ n, i.stackEffect.result = .ok n → label.isStatic.result = .ok true := by
  rw [stackEffect_of_label hlabel]
  obtain ⟨houtside, hkind, hstatic, heffect⟩ | ⟨m, rfl, hentry⟩ :=
    label.effect_cases (i.arg.map fun arg => (arg.toNat : Int))
  · -- Whatever the question, the answer is the same fault.
    have hrefused : ∀ {α : Type} (other : Label),
        ((.error (.stackEffect (.unclassified label)) : Except Fault α) =
            .error (.stackEffect (.unclassified other)) ↔
          other = label ∧ ∀ m, label ≠ .catalog m) := by
      intro α other
      simp [houtside, eq_comm]
    rw [hkind, hstatic, heffect]
    refine ⟨fun other => ⟨hrefused other, hrefused other, hrefused other⟩, ?_, ?_, ?_, ?_⟩
    · exact fun m hm => absurd hm (houtside m)
    · intro h; cases h
    · intro h; cases h
    · intro n h; cases h
  · obtain ⟨hpath, hkind, hstatic, heffect⟩ | ⟨change, hentry, hfixed, hkind, hstatic, heffect⟩ |
      ⟨change, hentry, hargument, hkind, hstatic, heffect⟩ := hentry
    · rw [hkind, hstatic, heffect]
      refine ⟨fun other => ?_, ?_, ?_, ?_, ?_⟩
      · simp
      · exact fun _ _ => ⟨false, rfl⟩
      · exact fun _ => ⟨⟨m, hpath, rfl⟩, rfl, rfl⟩
      · intro h; cases h
      · intro n h; cases h
    · rw [hkind, hstatic, heffect]
      refine ⟨fun other => ?_, ?_, ?_, ?_, ?_⟩
      · simp
      · exact fun _ _ => ⟨true, rfl⟩
      · intro h; cases h
      · exact fun _ => ⟨m, rfl, .inl ⟨rfl, change, hentry, hfixed, rfl⟩⟩
      · exact fun _ _ => rfl
    · rw [hkind, hstatic, heffect]
      refine ⟨fun other => ?_, ?_, ?_, ?_, ?_⟩
      · cases i.arg <;> simp
      · exact fun _ _ => ⟨true, rfl⟩
      · intro h; cases h
      · refine fun _ => ⟨m, rfl, .inr ⟨rfl, change, hentry, hargument, ?_⟩⟩
        cases i.arg <;> rfl
      · exact fun _ _ => rfl

/-- An opcode `NOP` that stands for a foreign namesake of the operation, and an opcode `BUILD_TUPLE`
that takes no argument, though the effect of the operation goes by it. -/
theorem Instruction.stackEffect_agrees_with_label_namesake :
    let d := Dialect.declare "alike" "Alike"
      [⟨"NOP", 9, {}, some (.direct (.foreign "Other" "NOP"))⟩,
        ⟨"BUILD_TUPLE", 102, {}, none⟩] false
    ∃ nop tuple : Instruction, nop.dialect = d ∧ tuple.dialect = d ∧
      nop.stackEffect.result = .error (.stackEffect (.unclassified (.foreign "Other" "NOP"))) ∧
      tuple.label = .ok (.catalog .buildTuple) ∧
      tuple.stackEffect.result = .error (.effectNeedsArgument .buildTuple) := by
  intro d
  let nop : Instruction := ⟨d, d.entries[0], none, by decide, rfl⟩
  let tuple : Instruction := ⟨d, d.entries[1], none, by decide, rfl⟩
  have hnop : nop.label = .ok (.foreign "Other" "NOP") := rfl
  have htuple : tuple.label = .ok (.catalog .buildTuple) := rfl
  refine ⟨nop, tuple, rfl, rfl, ?_, htuple, ?_⟩
  · exact ((nop.stackEffect_agrees_with_label hnop).1 _).1.2 ⟨rfl, fun m h => by cases h⟩
  · have heffect := StackEffect.stackEffect?_of_argument (m := .buildTuple) rfl
    rw [stackEffect_of_label htuple]
    exact congrArg Traced.result (Label.effectWith_none_of_argument heffect)

end Bytecode
