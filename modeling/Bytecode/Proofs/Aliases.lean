import Bytecode.Proofs.SoundDialect
import Mathlib.Data.List.FinRange

/-!
# Aliases

A table may give a value more than once.  Of the entries with a value, the first one counts, and all
ways to come to an opcode agree on it: going through the members, looking a value up, and looking up
the name of any entry with that value, be it an alias.

An entry leads if no earlier entry has its value (`Leads`).  The members are the entries that lead,
in the order of the table (`firstOfEachValue_eq_leading`).  In a table whose names differ, an entry
is found by its name (`find?_name_of_mem`), so that it can be told apart from all others.
-/

namespace Bytecode.Dialect

variable {d : Dialect} {es : List Opcode} {e : Opcode}

/-! ### Entries that lead -/

/-- No entry of `es` before entry `i` has its value. -/
def Leads (es : List Opcode) (i : Fin es.length) : Prop :=
  ∀ j < i, (es.get j).value ≠ (es.get i).value

instance : DecidablePred (Leads es) := fun i =>
  inferInstanceAs (Decidable (∀ j < i, (es.get j).value ≠ (es.get i).value))

theorem leads_zero : Leads (e :: es) 0 := by
  intro j hj
  exact absurd hj (Fin.not_lt_zero j)

theorem leads_succ_iff {i : Fin es.length} :
    Leads (e :: es) i.succ ↔ (es.get i).value ≠ e.value ∧ Leads es i := by
  constructor
  · intro h
    refine ⟨Ne.symm (h 0 (Fin.succ_pos i)), ?_⟩
    intro j hj
    exact h j.succ (Fin.succ_lt_succ_iff.2 hj)
  · rintro ⟨hne, hleads⟩ j hj
    cases j using Fin.cases with
    | zero => exact hne.symm
    | succ j => exact hleads j (Fin.succ_lt_succ_iff.1 hj)

/-- **The entries of `firstOfEachValue` are those that lead** (`Leads`), in the order of the
table. -/
theorem firstOfEachValue_eq_leading (es : List Opcode) :
    firstOfEachValue es = ((List.finRange es.length).filter (Leads es ·)).map es.get := by
  induction es with
  | nil => rfl
  | cons e es ih =>
    have hrange : List.finRange (e :: es).length = 0 :: (List.finRange es.length).map Fin.succ :=
      List.finRange_succ
    have hhead : decide (Leads (e :: es) 0) = true := decide_eq_true leads_zero
    -- Behind the head, those entries lead that differ from it and lead in the tail.
    have htail : (fun i => decide (Leads (e :: es) i)) ∘ Fin.succ =
        fun i => decide ((es.get i).value ≠ e.value) && decide (Leads es i) := by
      funext i
      rw [Function.comp_apply, ← Bool.decide_and, decide_eq_decide]
      exact leads_succ_iff
    calc firstOfEachValue (e :: es)
        = e :: (((List.finRange es.length).filter (Leads es ·)).map es.get).filter
            (·.value ≠ e.value) := by
          rw [firstOfEachValue, ih]
      _ = e :: ((List.finRange es.length).filter fun i =>
            decide ((es.get i).value ≠ e.value) && decide (Leads es i)).map es.get := by
          rw [List.filter_map, List.filter_filter]
          rfl
      _ = ((List.finRange (e :: es).length).filter (Leads (e :: es) ·)).map (e :: es).get := by
          rw [hrange, List.filter_cons, if_pos hhead, List.filter_map, htail, List.map_cons,
            List.map_map]
          rfl

/-! ### Look-ups -/

/-- `ofValue?` ends at the first entry that has the value `v`. -/
theorem ofValue?_eq_some_iff_first {v : Int} {op : Opcode} :
    d.ofValue? v = some op ↔ ∃ i : Fin d.entries.length, d.entries.get i = op ∧ op.value = v ∧
      ∀ j < i, (d.entries.get j).value ≠ v := by
  unfold ofValue?
  rw [List.find?_eq_some_iff_getElem]
  constructor
  · rintro ⟨hv, i, hi, hop, hbefore⟩
    refine ⟨⟨i, hi⟩, hop, by simpa using hv, ?_⟩
    intro j hj
    simpa using hbefore j hj
  · rintro ⟨i, hop, hv, hbefore⟩
    refine ⟨by simpa using hv, i, i.isLt, hop, ?_⟩
    intro j hj
    simpa using hbefore ⟨j, hj.trans i.isLt⟩ hj

theorem ofValue?_eq_none_iff_entries {v : Int} :
    d.ofValue? v = none ↔ ∀ e ∈ d.entries, e.value ≠ v := by
  simp [ofValue?]

theorem find?_name_of_mem (h : (es.map (·.name)).Nodup) (mem : e ∈ es) :
    es.find? (·.name = e.name) = some e := by
  obtain ⟨before, after, rfl⟩ := List.append_of_mem mem
  rw [List.map_append, List.map_cons, List.nodup_append] at h
  obtain ⟨-, -, hdisjoint⟩ := h
  rw [List.find?_eq_some_iff_append]
  refine ⟨by simp, before, after, rfl, ?_⟩
  intro a ha
  have hne : a.name ≠ e.name := hdisjoint _ (List.mem_map_of_mem ha) _ (List.mem_cons_self ..)
  simpa using hne

theorem ofName?_of_mem (h : (d.entries.map (·.name)).Nodup) (mem : e ∈ d.entries) :
    d.ofName? e.name = d.ofValue? e.value := by
  unfold ofName?
  rw [find?_name_of_mem h mem, Option.bind_some]

/-! ### Tables with aliases -/

/-- **Every look-up leads to the first entry of a value.**  Let the names of a table differ
(`hnames`); its values are any integers and may repeat.  Then the `members` are, in the order of the
table, the entries whose value occurs in no earlier entry, so that no two of them share a value.
`ofValue?` gives the first entry that has the value, and nothing exactly if no entry has it.  Hence
the value of a member leads back to that member, and the name of an entry, alias or not, leads by
`ofName?` where its value leads. -/
theorem lookups_lead_to_first_entry (d : Dialect) (hnames : (d.entries.map (·.name)).Nodup) :
    d.members = ((List.finRange d.entries.length).filter (Leads d.entries ·)).map d.entries.get ∧
    d.members.Pairwise (fun a b => a.value ≠ b.value) ∧
    (∀ v op, d.ofValue? v = some op ↔ ∃ i : Fin d.entries.length, d.entries.get i = op ∧
      op.value = v ∧ ∀ j < i, (d.entries.get j).value ≠ v) ∧
    (∀ v, d.ofValue? v = none ↔ ∀ e ∈ d.entries, e.value ≠ v) ∧
    (∀ op ∈ d.members, d.ofValue? op.value = some op) ∧
    ∀ e ∈ d.entries, d.ofName? e.name = d.ofValue? e.value := by
  refine ⟨firstOfEachValue_eq_leading d.entries, d.pairwise_members,
    fun v op => ofValue?_eq_some_iff_first, fun v => ofValue?_eq_none_iff_entries, ?_, ?_⟩
  · intro op mem
    exact mem_members_iff.1 mem
  · intro e mem
    exact ofName?_of_mem hnames mem

/-- A table with the values 300 and -1 beyond a byte, and with the aliases `idle` of 9 and `top` of
300: `idle` is neither a member nor what its own name leads to, though it takes an argument and
`nop` does not. -/
theorem lookups_lead_to_first_entry_aliases :
    let nop : Opcode := ⟨"NOP", 9, {}, none⟩
    let high : Opcode := ⟨"HIGH", 300, {}, none⟩
    let idle : Opcode := ⟨"IDLE", 9, { hasArg := true }, none⟩
    let low : Opcode := ⟨"LOW", -1, {}, none⟩
    let top : Opcode := ⟨"TOP", 300, {}, none⟩
    let d := declare "aliased" "Aliased" [nop, high, idle, low, top] false
    (d.entries.map (·.name)).Nodup ∧ d.members = [nop, high, low] ∧
      d.ofName? "IDLE" = some nop ∧ d.ofName? "TOP" = d.ofValue? 300 ∧ d.ofValue? 10 = none := by
  intro nop high idle low top d
  have hnames : (d.entries.map (·.name)).Nodup := by decide
  obtain ⟨hmembers, -, hfirst, hnone, -, hname⟩ := lookups_lead_to_first_entry d hnames
  have hidle : d.ofName? "IDLE" = d.ofValue? 9 := hname idle (by decide)
  have hnine : d.ofValue? 9 = some nop :=
    (hfirst 9 nop).2 ⟨⟨0, by decide⟩, rfl, rfl, by decide⟩
  refine ⟨hnames, ?_, hidle.trans hnine, hname top (by decide), ?_⟩
  · rw [hmembers]
    decide
  · rw [hnone]
    decide

end Bytecode.Dialect
