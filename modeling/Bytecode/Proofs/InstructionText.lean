import Bytecode.Proofs.EffectRange
import Bytecode.Proofs.InstructionEquality
import Mathlib

/-!
# The text of an instruction

The text of an instruction is the spelling of the operation that its opcode stands for, and then, if
there is an argument, a blank and the argument in decimal.  Nothing of that is lost: no spelling
has a blank in it, so the spelling is the text up to the first one (`takeWhile_text`), the catalog
leads from the spelling back to the operation (`Mnemonic.ofName?_name`), and decimal numbers are
told apart by their digits.

The text shows neither dialect nor opcode.  Within an accepted dialect it gives them all the same,
because there no two opcodes stand for the same operation.
-/

namespace Bytecode

/-! ### Spellings -/

namespace Mnemonic

theorem name_injective : Function.Injective name := by
  intro m n h
  have hm := ofName?_name m
  rw [h, ofName?_name] at hm
  exact (Option.some.inj hm).symm

theorem blank_not_mem_name (m : Mnemonic) : ' ' ∉ m.name.toList := by
  have hall : ∀ m ∈ all, ' ' ∉ m.name.toList := by decide +kernel
  exact hall m m.mem_catalog

end Mnemonic

namespace Instruction

variable {i j : Instruction} {m n : Mnemonic}

/-- What `Instruction.text` adds to the spelling. -/
def argText : Option UInt16 → String
  | none => ""
  | some arg => " " ++ toString arg.toNat

theorem argText_injective : Function.Injective argText := by
  intro a b h
  have hlist := congrArg String.toList h
  match a, b with
  | none, none => rfl
  | none, some b => simp [argText] at hlist
  | some a, none => simp [argText] at hlist
  | some a, some b =>
    have hdigits : toString a.toNat = toString b.toNat := by
      apply String.toList_injective
      simpa [argText] using hlist
    have hnat : a.toNat = b.toNat := by
      rw [Nat.toString_eq_repr, Nat.toString_eq_repr] at hdigits
      exact Nat.repr_inj.1 hdigits
    rw [UInt16.toNat_inj.1 hnat]

/-- The spelling of `m` is the text up to the first blank. -/
theorem takeWhile_text (m : Mnemonic) (arg : Option UInt16) :
    (m.name ++ argText arg).toList.takeWhile (· ≠ ' ') = m.name.toList := by
  have hname : ∀ c ∈ m.name.toList, decide (c ≠ ' ') = true := by
    intro c hc
    rw [decide_eq_true_eq]
    rintro rfl
    exact m.blank_not_mem_name hc
  have harg : (argText arg).toList.takeWhile (· ≠ ' ') = [] := by
    cases arg <;> simp [argText]
  rw [String.toList_append, List.takeWhile_append_of_pos hname, harg, List.append_nil]

/-- **Spelling and `argText` make the text**, and it gives both back. -/
theorem name_append_argText_inj {arg arg' : Option UInt16} :
    m.name ++ argText arg = n.name ++ argText arg' ↔ m = n ∧ arg = arg' := by
  constructor
  · intro h
    have hname : m.name.toList = n.name.toList := by
      rw [← takeWhile_text m arg, h, takeWhile_text]
    obtain rfl : m = n := Mnemonic.name_injective (String.toList_injective hname)
    have hlist := congrArg String.toList h
    rw [String.toList_append, String.toList_append, List.append_cancel_left_eq] at hlist
    exact ⟨rfl, argText_injective (String.toList_injective hlist)⟩
  · rintro ⟨rfl, rfl⟩
    rfl

/-! ### Texts of instructions -/

theorem text_of_mnemonic (h : i.label = .ok (.catalog m)) :
    i.text = .ok (m.name ++ argText i.arg) := by
  rw [text_of_label h rfl]
  cases i.arg with
  | none => simp [argText]
  | some arg => simp [argText, String.append_assoc]

/-- **The text of an instruction is lossless.**  Let `i` and `j` be instructions of whatever
dialects that stand for the operations `m` and `n` of the catalog.  They have texts, and these are
the same exactly if the operations and the arguments are.  Then the stack effects are the same, too,
faults and events included.  Within one dialect that passes `validate`, instructions with the same
text are the same instruction. -/
theorem text_eq_iff (hi : i.label = .ok (.catalog m)) (hj : j.label = .ok (.catalog n)) :
    (∃ s, i.text = .ok s) ∧ (∃ s, j.text = .ok s) ∧
    (i.text = j.text ↔ m = n ∧ i.arg = j.arg) ∧
    (i.text = j.text → i.stackEffect = j.stackEffect) ∧
    (i.dialect = j.dialect → i.dialect.validate = .ok () → i.text = j.text → i = j) := by
  have htext := text_of_mnemonic hi
  have htext' := text_of_mnemonic hj
  have hiff : i.text = j.text ↔ m = n ∧ i.arg = j.arg := by
    rw [htext, htext', Except.ok.injEq, name_append_argText_inj]
  refine ⟨⟨_, htext⟩, ⟨_, htext'⟩, hiff, ?_, ?_⟩
  · intro h
    obtain ⟨rfl, harg⟩ := hiff.1 h
    rw [stackEffect_of_label hi, stackEffect_of_label hj, harg]
  · intro hd hvalid h
    obtain ⟨rfl, harg⟩ := hiff.1 h
    have hmem : j.opcode ∈ i.dialect.members := hd ▸ j.opcode_mem
    have hop : i.opcode = j.opcode :=
      Dialect.eq_of_label_eq_of_validate hvalid i.opcode_mem hmem (hi.trans hj.symm)
    exact eq_iff_key.2 ⟨hd, congrArg Opcode.value hop, harg⟩

/-- The same text of two instructions that have nothing else in common: `i` of `python27`, and `j`
of a small dialect `d` that has its own name and number for the operation.  Within `d`, which passes
`validate`, no other instruction has the text. -/
theorem text_eq_iff_across_dialects :
    let d := Dialect.declare "small" "Small"
      [⟨"PUSH", 7, { hasArg := true, hasConst := true }, some (.named "LOAD_CONST")⟩] false
    d.validate = .ok () ∧
    ∃ i j : Instruction, i.dialect = .python27 ∧ j.dialect = d ∧ i.sameByte j = false ∧
      i.text = .ok "LOAD_CONST 258" ∧ i.text = j.text ∧ i.stackEffect = j.stackEffect ∧
      ∀ k : Instruction, k.dialect = d → k.label = .ok (.catalog .loadConst) →
        j.text = k.text → j = k := by
  intro d
  have hvalid : d.validate = .ok () := by decide +kernel
  let i : Instruction :=
    ⟨.python27,
      (Opcode.row "LOAD_CONST" 100 .constant).classify Dialect.python27ArgThreshold
        Dialect.python27ExtendedArgThreshold,
      some 258, by decide +kernel, rfl⟩
  let j : Instruction :=
    ⟨d, ⟨"PUSH", 7, { hasArg := true, hasConst := true }, some (.named "LOAD_CONST")⟩, some 258,
      by decide +kernel, rfl⟩
  have hi : i.label = .ok (.catalog .loadConst) := by decide +kernel
  have hj : j.label = .ok (.catalog .loadConst) := by decide +kernel
  obtain ⟨-, -, hiff, heffect, -⟩ := text_eq_iff hi hj
  have htext : i.text = j.text := hiff.2 ⟨rfl, rfl⟩
  refine ⟨hvalid, i, j, rfl, rfl, by decide +kernel, by decide +kernel, htext, heffect htext, ?_⟩
  intro k hd hk hsame
  exact (text_eq_iff hj hk).2.2.2.2 hd.symm hvalid hsame

end Instruction
end Bytecode
