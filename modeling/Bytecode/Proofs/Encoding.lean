import Bytecode.Instruction

/-!
# The encoding of instructions

An instruction that can be encoded is a byte that its opcode has as value, followed by the bytes of
its operand, if any (`encode_eq_ok_iff`).  So an encoding is never empty, and `size` counts its
bytes.  `encodeAll` writes several instructions one after the other.
-/

namespace Bytecode.Instruction

/-- The bytes of the operand of `i`, none if there is no argument. -/
def operandBytes (i : Instruction) : List UInt8 :=
  (i.arg.map Operand.toBytes).getD []

theorem operandBytes_of_none {i : Instruction} (h : i.arg = none) : i.operandBytes = [] := by
  rw [operandBytes, h]
  rfl

theorem operandBytes_of_some {i : Instruction} {arg : UInt16} (h : i.arg = some arg) :
    i.operandBytes = Operand.toBytes arg := by
  rw [operandBytes, h]
  rfl

/-- `size` counts the opcode byte and the `operandBytes`. -/
theorem size_eq (i : Instruction) : i.size = 1 + i.operandBytes.length := by
  unfold size
  cases h : i.arg with
  | none => simp [operandBytes_of_none h]
  | some arg => simp [operandBytes_of_some h, Operand.toBytes]

/-- **What `encode` looks like.**  It starts with the `byte` that is the value of the opcode, so an
opcode whose value is no byte has none. -/
theorem encode_eq_ok_iff {i : Instruction} {bytes : List UInt8} :
    i.encode = .ok bytes ↔
      ∃ byte : UInt8, i.opcode.value = byte.toNat ∧ bytes = byte :: i.operandBytes := by
  constructor
  · intro h
    unfold encode at h
    split at h
    · rename_i hv
      simp only [Bool.and_eq_true, decide_eq_true_eq] at hv
      refine ⟨UInt8.ofNat i.opcode.value.toNat, ?_, (Except.ok.inj h).symm⟩
      rw [UInt8.toNat_ofNat']
      omega
    · cases h
  · rintro ⟨byte, hv, rfl⟩
    have hlt := byte.toNat_lt
    unfold encode
    rw [hv, Int.toNat_natCast, UInt8.ofNat_toNat, if_pos]
    · rfl
    · simp only [Bool.and_eq_true, decide_eq_true_eq]
      omega

/-- `size` is the length of `encode`. -/
theorem length_of_encode {i : Instruction} {bytes : List UInt8} (h : i.encode = .ok bytes) :
    bytes.length = i.size := by
  obtain ⟨byte, -, rfl⟩ := encode_eq_ok_iff.1 h
  rw [size_eq, List.length_cons, Nat.add_comm]

theorem size_pos (i : Instruction) : 0 < i.size := by
  rw [size_eq]
  omega

/-- The checks of `build` let every instruction `i` through again. -/
theorem build_self (i : Instruction) :
    build i.dialect i.opcode i.opcode_mem (i.arg.map fun arg => (arg.toNat : Int)) = .ok i := by
  obtain ⟨d, op, arg, mem, harg⟩ := i
  cases arg with
  | none =>
    unfold build
    split <;> simp_all
  | some arg =>
    have hlt := arg.toNat_lt
    have hfits : (0 ≤ (arg.toNat : Int) && (arg.toNat : Int) ≤ 0xFFFF) = true := by
      simp only [Bool.and_eq_true, decide_eq_true_eq]
      omega
    unfold build
    split
    case h_3 n _ hn =>
      obtain rfl : (arg.toNat : Int) = n := Option.some.inj hn
      simp only [hfits, if_true, Int.toNat_natCast, UInt16.ofNat_toNat]
    all_goals simp_all

/-! ### Several instructions -/

/-- The `encode` of several instructions, one after the other.  Fails if one of them fails. -/
def encodeAll (is : List Instruction) : Except Fault (List UInt8) :=
  (is.mapM encode).map List.flatten

theorem encodeAll_nil : encodeAll [] = .ok [] := rfl

theorem encodeAll_cons_eq_ok_iff {i : Instruction} {is : List Instruction} {bytes : List UInt8} :
    encodeAll (i :: is) = .ok bytes ↔
      ∃ head tail, i.encode = .ok head ∧ encodeAll is = .ok tail ∧ bytes = head ++ tail := by
  unfold encodeAll
  rw [List.mapM_cons]
  cases i.encode with
  | error e =>
    constructor
    · intro h
      cases h
    · rintro ⟨_, _, h, -⟩
      cases h
  | ok head =>
    cases is.mapM encode with
    | error e =>
      constructor
      · intro h
        cases h
      · rintro ⟨_, _, -, h, -⟩
        cases h
    | ok parts =>
      constructor
      · intro h
        exact ⟨head, parts.flatten, rfl, rfl, (Except.ok.inj h).symm⟩
      · rintro ⟨_, _, h, h', rfl⟩
        cases h
        cases h'
        rfl

end Bytecode.Instruction
