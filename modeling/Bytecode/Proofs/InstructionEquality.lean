import Bytecode.Proofs.ValidatedDialect
import Mathlib.Data.Finset.Card

/-!
# Equality of instructions

An instruction is told apart from others by its dialect, the value of its opcode and its argument
(`Instruction.eq_iff_key`): within a dialect, a value has only one opcode, by whatever name it was
found.  The bytes of an instruction in turn give its value and its argument back, whatever its
dialect (`Instruction.eq_of_encode`).  So equality of instructions is equality of dialect and
encoding, and different dialects never have an instruction in common, be they alike in all that they
contain.
-/

namespace Bytecode

/-- The values of all opcodes of `d` are bytes. -/
def Dialect.ByteValued (d : Dialect) : Prop :=
  ∀ op ∈ d.members, 0 ≤ op.value ∧ op.value ≤ 255

instance : DecidablePred Dialect.ByteValued := fun d =>
  inferInstanceAs (Decidable (∀ op ∈ d.members, 0 ≤ op.value ∧ op.value ≤ 255))

namespace Instruction

variable {i j : Instruction}

/-! ### What tells instructions apart -/

/-- **Dialect, value and argument** are equal exactly if `i` and `j` are. -/
theorem eq_iff_key :
    i = j ↔ i.dialect = j.dialect ∧ i.opcode.value = j.opcode.value ∧ i.arg = j.arg := by
  constructor
  · rintro rfl
    exact ⟨rfl, rfl, rfl⟩
  · obtain ⟨d, op, arg, mem, harg⟩ := i
    obtain ⟨d', op', arg', mem', harg'⟩ := j
    rintro ⟨hd, hvalue, ha⟩
    dsimp only at hd hvalue ha
    subst hd ha
    -- Members of one value are one opcode.
    obtain rfl := Dialect.eq_of_value_eq mem mem' hvalue
    rfl

theorem arg_eq_of_operandBytes (h : i.operandBytes = j.operandBytes) : i.arg = j.arg := by
  cases hi : i.arg with
  | none =>
    cases hj : j.arg with
    | none => rfl
    | some b =>
      rw [operandBytes_of_none hi, operandBytes_of_some hj] at h
      cases h
  | some a =>
    cases hj : j.arg with
    | none =>
      rw [operandBytes_of_none hj, operandBytes_of_some hi] at h
      cases h
    | some b =>
      rw [operandBytes_of_some hi, operandBytes_of_some hj, Operand.toBytes, Operand.toBytes] at h
      obtain ⟨hlow, htail⟩ := List.cons.inj h
      obtain ⟨hhigh, -⟩ := List.cons.inj htail
      rw [← Operand.ofBytes_toBytes a, hlow, hhigh, Operand.ofBytes_toBytes]

/-- The bytes of `encode` give the value and the argument back, whatever the dialect. -/
theorem eq_of_encode {bytes : List UInt8} (hi : i.encode = .ok bytes) (hj : j.encode = .ok bytes) :
    i.opcode.value = j.opcode.value ∧ i.arg = j.arg := by
  obtain ⟨byte, hv, rfl⟩ := encode_eq_ok_iff.1 hi
  obtain ⟨byte', hv', hbytes⟩ := encode_eq_ok_iff.1 hj
  obtain ⟨rfl, hoperand⟩ := List.cons.inj hbytes
  exact ⟨hv.trans hv'.symm, arg_eq_of_operandBytes hoperand⟩

theorem exists_encode_of_byteValued (h : i.dialect.ByteValued) : ∃ bytes, i.encode = .ok bytes := by
  obtain ⟨hnonneg, hle⟩ := h i.opcode i.opcode_mem
  exact exists_encode hnonneg hle

theorem eq_iff_encode (h : i.dialect.ByteValued) :
    i = j ↔ i.dialect = j.dialect ∧ i.encode = j.encode := by
  constructor
  · rintro rfl
    exact ⟨rfl, rfl⟩
  · rintro ⟨hd, he⟩
    obtain ⟨bytes, hi⟩ := exists_encode_of_byteValued h
    exact eq_iff_key.2 ⟨hd, eq_of_encode hi (he.symm.trans hi)⟩

/-! ### Counting instructions -/

theorem nodup_eraseDups : (is : List Instruction) → is.eraseDups.Nodup
  | [] => List.nodup_nil
  | i :: is => by
    rw [List.eraseDups_cons, List.nodup_cons]
    constructor
    · rw [List.mem_eraseDups, List.mem_filter]
      simp
    · exact nodup_eraseDups (is.filter fun j => !j == i)
termination_by is => is.length
decreasing_by exact Nat.lt_succ_of_le (List.length_filter_le ..)

theorem countDistinct_eq_card (is : List Instruction) : countDistinct is = is.toFinset.card := by
  have hsame : is.eraseDups.toFinset = is.toFinset := by
    ext i
    simp only [List.mem_toFinset, List.mem_eraseDups]
  unfold countDistinct
  rw [← hsame, List.toFinset_card_of_nodup (nodup_eraseDups is)]

/-- `countDistinct` counts pairs of dialect and encoding, which tell instructions apart. -/
theorem countDistinct_eq_card_encodings {is : List Instruction}
    (h : ∀ i ∈ is, i.dialect.ByteValued) :
    countDistinct is = (is.map fun i => (i.dialect, i.encode)).toFinset.card := by
  have himage : (is.map fun i => (i.dialect, i.encode)).toFinset =
      is.toFinset.image fun i => (i.dialect, i.encode) := by
    ext p
    simp
  rw [himage, countDistinct_eq_card, Finset.card_image_of_injOn]
  intro i hi j _ hpair
  obtain ⟨hd, he⟩ := Prod.mk.inj hpair
  have hmem : i ∈ is := by simpa using hi
  exact (eq_iff_encode (h i hmem)).2 ⟨hd, he⟩

/-! ### Dialects that are alike -/

/-- The same instruction as `i` in a dialect that differs from its own in nothing but the `key`. -/
def rekey (i : Instruction) (key : Dialect.Key) : Instruction :=
  ⟨{ i.dialect with key := key }, i.opcode, i.arg, i.opcode_mem, i.hasArg_eq⟩

theorem beq_eq_false_of_dialect_ne (h : i.dialect ≠ j.dialect) : (i == j) = false := by
  rw [beq_eq_false_iff_ne]
  rintro rfl
  exact h rfl

/-- **Instructions are equal if their dialects and their bytes are.**  In dialects whose opcodes are
bytes (`ByteValued`), every instruction has an encoding, and `i` equals `j` exactly if the dialects
and the encodings are the same.  So equality is an equivalence; instructions of different dialects
are never equal, though a dialect that is alike in everything but its `key` has an instruction with
the same byte and the same encoding; and `countDistinct` counts different pairs of dialect and
encoding. -/
theorem beq_iff_same_dialect_and_bytes :
    (∀ i j : Instruction, i.dialect.ByteValued →
      ((i == j) = true ↔ i.dialect = j.dialect ∧
        ∃ bytes, i.encode = .ok bytes ∧ j.encode = .ok bytes)) ∧
    Equivalence (fun i j : Instruction => (i == j) = true) ∧
    (∀ i j : Instruction, i.dialect ≠ j.dialect → (i == j) = false) ∧
    (∀ (i : Instruction) (key : Dialect.Key), key ≠ i.dialect.key →
      ∃ j : Instruction, j.dialect = { i.dialect with key := key } ∧ i.sameByte j = true ∧
        i.encode = j.encode ∧ (i == j) = false) ∧
    ∀ is : List Instruction, (∀ i ∈ is, i.dialect.ByteValued) →
      countDistinct is = (is.map fun i => (i.dialect, i.encode)).toFinset.card := by
  refine ⟨?_, ?_, fun i j => beq_eq_false_of_dialect_ne, ?_,
    fun is => countDistinct_eq_card_encodings⟩
  · intro i j hi
    obtain ⟨bytes, hbytes⟩ := exists_encode_of_byteValued hi
    rw [beq_iff_eq, eq_iff_encode hi]
    constructor
    · rintro ⟨hd, he⟩
      exact ⟨hd, bytes, hbytes, he.symm.trans hbytes⟩
    · rintro ⟨hd, common, hi', hj'⟩
      exact ⟨hd, hi'.trans hj'.symm⟩
  · simp only [beq_iff_eq]
    exact eq_equivalence
  · intro i key hkey
    refine ⟨i.rekey key, rfl, by simp [sameByte, rekey], rfl, beq_eq_false_of_dialect_ne ?_⟩
    intro hd
    exact hkey (congrArg Dialect.key hd).symm

/-- Dialects `d` and `d'` of the same content, in which byte 9 has the two names `NOP` and `IDLE`.
The name does not matter, the dialect does. -/
theorem beq_iff_same_dialect_and_bytes_twins :
    let entries : List Opcode :=
      [⟨"NOP", 9, {}, none⟩, ⟨"IDLE", 9, {}, none⟩, ⟨"LOAD_CONST", 255, { hasArg := true }, none⟩]
    let d := Dialect.declare "one" "Twin" entries false
    let d' := Dialect.declare "two" "Twin" entries false
    d.ByteValued ∧ d'.ByteValued ∧
      ∃ nop idle nop' : Instruction, ofSelector d (.name "NOP") none = .ok nop ∧
        ofSelector d (.name "IDLE") none = .ok idle ∧ ofSelector d' (.name "NOP") none = .ok nop' ∧
        (nop == idle) = true ∧ nop.sameByte nop' = true ∧ nop.encode = nop'.encode ∧
        (nop == nop') = false ∧ countDistinct [nop, idle, nop'] = 2 := by
  intro entries d d'
  have hd : d.ByteValued := by decide
  have hd' : d'.ByteValued := by decide
  let nop : Instruction := ⟨d, ⟨"NOP", 9, {}, none⟩, none, by decide, rfl⟩
  let nop' : Instruction := ⟨d', ⟨"NOP", 9, {}, none⟩, none, by decide, rfl⟩
  have he : nop.encode = .ok [9] := rfl
  obtain ⟨hsame, -, hdifferent, -, hcount⟩ := beq_iff_same_dialect_and_bytes
  refine ⟨hd, hd', nop, nop, nop', by decide, by decide, by decide,
    (hsame nop nop hd).2 ⟨rfl, [9], he, he⟩, by decide, rfl,
    hdifferent nop nop' (by decide), ?_⟩
  rw [hcount [nop, nop, nop'] (by simp [nop, nop', hd, hd'])]
  decide

end Instruction
end Bytecode
