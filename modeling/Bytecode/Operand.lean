/-!
# Operands

An operand is a number of 16 bits, written as two bytes, the low one first.  Operands and pairs of
bytes determine each other (`ofBytes_toBytes`, `toBytes_ofBytes`).
-/

namespace Bytecode.Operand

/-- The operand made of the bytes `low` and `high`. -/
def ofBytes (low high : UInt8) : UInt16 :=
  UInt16.ofNat (low.toNat + 256 * high.toNat)

/-- The bytes of the operand `arg`, the low one first. -/
def toBytes (arg : UInt16) : List UInt8 :=
  [UInt8.ofNat arg.toNat, UInt8.ofNat (arg.toNat / 256)]

/-- `ofBytes` of the bytes of `arg` is `arg`. -/
theorem ofBytes_toBytes (arg : UInt16) :
    ofBytes (UInt8.ofNat arg.toNat) (UInt8.ofNat (arg.toNat / 256)) = arg := by
  have hlt := arg.toNat_lt
  apply UInt16.toNat_inj.1
  simp only [ofBytes, UInt16.toNat_ofNat', UInt8.toNat_ofNat']
  omega

/-- `toBytes` of an operand made of `low` and `high` gives these bytes back. -/
theorem toBytes_ofBytes (low high : UInt8) : toBytes (ofBytes low high) = [low, high] := by
  have hl := low.toNat_lt
  have hh := high.toNat_lt
  have hn : (ofBytes low high).toNat = low.toNat + 256 * high.toNat := by
    simp only [ofBytes, UInt16.toNat_ofNat']
    omega
  simp only [toBytes, hn, List.cons.injEq, and_true]
  constructor
  · apply UInt8.toNat_inj.1
    rw [UInt8.toNat_ofNat']
    omega
  · apply UInt8.toNat_inj.1
    rw [UInt8.toNat_ofNat']
    omega

end Bytecode.Operand
