import Bytecode.Proofs.EffectTables
import Mathlib.Algebra.BigOperators.Group.Finset.Basic
import Mathlib.Tactic.Positivity

/-!
# Bit patterns as numbers

Some stack effects take their argument apart bit by bit.  The argument is any integer, seen as an
infinite pattern in two's complement.  That has a meaning in arithmetic which knows no difference
between positive and negative: to drop low bits is to divide and round down, to keep them is to take
the remainder that is not negative (`lowBits_eq_emod`), and bit `k` is what the quotient by `2 ^ k`
leaves when it is halved (`toNat_testBit`).

A call reads the two low bytes of its argument and nothing above them, so its effect repeats every
65536 arguments, and not sooner (`call_periodic_iff`).  Unpacking reads the low byte and all that is
above it.
-/

namespace Bytecode.StackEffect

/-! ### Bits -/

theorem lowBits_eq_emod (width : Nat) (arg : Int) : lowBits width arg = arg % 2 ^ width := by
  have hne : (2 : Int) ^ width ≠ 0 := by positivity
  unfold lowBits
  rw [BitVec.toNat_ofInt, Int.toNat_of_nonneg (Int.emod_nonneg arg (by exact_mod_cast hne))]
  push_cast
  rfl

theorem lowByte_eq_emod (arg : Int) : lowBits 8 arg = arg % 256 :=
  lowBits_eq_emod 8 arg

theorem shiftByte_eq_ediv (arg : Int) : arg >>> (8 : Nat) = arg / 256 :=
  Int.shiftRight_eq_div_pow arg 8

/-- Of the `lowBits` up to bit `k`, only that bit is left without those below it. -/
theorem lowBits_succ_ediv (k : Nat) (arg : Int) :
    lowBits (k + 1) arg / 2 ^ k = arg / 2 ^ k % 2 := by
  have hne : (2 : Int) ^ k ≠ 0 := by positivity
  have hquotient : arg / 2 ^ (k + 1) = arg / 2 ^ k / 2 := by
    rw [pow_succ, Int.ediv_ediv_of_nonneg (by positivity)]
  calc lowBits (k + 1) arg / 2 ^ k
      = (arg - 2 ^ (k + 1) * (arg / 2 ^ (k + 1))) / 2 ^ k := by
        rw [lowBits_eq_emod, Int.emod_def]
    _ = (arg - 2 ^ k * (2 * (arg / 2 ^ k / 2))) / 2 ^ k := by
        rw [hquotient, pow_succ, mul_assoc]
    _ = arg / 2 ^ k - 2 * (arg / 2 ^ k / 2) := Int.sub_mul_ediv_left _ _ hne
    _ = arg / 2 ^ k % 2 := (Int.emod_def _ _).symm

/-- Bit `k` of `arg`, taken as zero or one. -/
theorem toNat_testBit (k : Nat) (arg : Int) :
    ((testBit k arg).toNat : Int) = arg / 2 ^ k % 2 := by
  have hlow : ((testBit k arg).toNat : Int) = lowBits (k + 1) arg / 2 ^ k % 2 := by
    unfold testBit lowBits
    rw [← BitVec.testBit_toNat, Nat.toNat_testBit]
    push_cast
    rfl
  rw [hlow, lowBits_succ_ediv, Int.emod_emod]

theorem countBits_succ (width : Nat) (arg : Int) :
    countBits (width + 1) arg = countBits width arg + (testBit width arg).toNat := by
  unfold countBits
  rw [List.range_succ, List.countP_append, List.countP_singleton]
  cases testBit width arg <;> rfl

theorem countBits_eq_sum (width : Nat) (arg : Int) :
    (countBits width arg : Int) = ∑ k ∈ Finset.range width, arg / 2 ^ k % 2 := by
  induction width with
  | zero => rfl
  | succ width ih =>
    rw [countBits_succ, Finset.sum_range_succ, ← ih, ← toNat_testBit]
    push_cast
    rfl

theorem countBits_le (width : Nat) (arg : Int) : countBits width arg ≤ width := by
  have hle := List.countP_le_length (p := fun k => testBit k arg) (l := List.range width)
  rwa [List.length_range] at hle

theorem makeFunction_bounds (arg : Int) : -5 ≤ makeFunction arg ∧ makeFunction arg ≤ -1 := by
  have hle := countBits_le 4 arg
  unfold makeFunction
  omega

/-! ### Calls -/

/-- A `call` pops what the two low bytes of `arg` count, and the `extra` slots. -/
theorem call_eq (arg extra : Int) : call arg extra = -(arg % 256 + arg / 256 % 256) - extra := by
  unfold call
  dsimp only
  rw [lowByte_eq_emod, lowByte_eq_emod, shiftByte_eq_ediv]
  omega

theorem call_bounds (arg extra : Int) :
    -510 - extra ≤ call arg extra ∧ call arg extra ≤ -extra := by
  rw [call_eq]
  omega

/-- The periods of `call` are the multiples of 65536. -/
theorem call_periodic_iff (extra period : Int) :
    (∀ arg, call (arg + period) extra = call arg extra) ↔ 65536 ∣ period := by
  constructor
  · intro h
    -- At zero a call pops nothing but the extra slots, and so it does at a period.
    have hzero : call period extra = call 0 extra := by simpa using h 0
    rw [call_eq, call_eq] at hzero
    have hlow : period % 256 = 0 := by omega
    have hhigh : period / 256 % 256 = 0 := by omega
    omega
  · rintro ⟨n, rfl⟩ arg
    rw [call_eq, call_eq]
    omega

/-! ### The effects -/

theorem ite_testBit (k : Nat) (arg change : Int) :
    (if testBit k arg then change - 1 else change) = change - arg / 2 ^ k % 2 := by
  rw [← toNat_testBit]
  cases testBit k arg
  · simp
  · rfl

/-- **Bit patterns are arithmetic.**  On all integers, negative ones and those beyond sixteen bits
included, the effects that are computed from the bits of the argument are what the quotients,
rounded down, and the remainders, never negative, of the argument say.  The effect of a `call` has
the multiples of 65536 for its periods, and lies between the `extra` slots and 510 values more. -/
theorem bits_eq_arithmetic :
    (∀ arg extra : Int, call arg extra = -(arg % 256 + arg / 256 % 256) - extra ∧
      -510 - extra ≤ call arg extra ∧ call arg extra ≤ -extra) ∧
    (∀ extra period : Int,
      (∀ arg, call (arg + period) extra = call arg extra) ↔ 65536 ∣ period) ∧
    Mnemonic.unpackEx.stackEffect? = some (.ofArgument fun arg => arg % 256 + arg / 256) ∧
    Mnemonic.makeFunctionFlags.stackEffect? =
      some (.ofArgument fun arg => -1 - ∑ k ∈ Finset.range 4, arg / 2 ^ k % 2) ∧
    Mnemonic.formatValue.stackEffect? = some (.ofArgument fun arg => -(arg / 4 % 2)) ∧
    Mnemonic.callFunctionEx.stackEffect? = some (.ofArgument fun arg => -1 - arg % 2) ∧
    Mnemonic.callFunction.stackEffect? = some (.ofArgument fun arg => call arg 0) ∧
    Mnemonic.callFunctionVar.stackEffect? = some (.ofArgument fun arg => call arg 1) ∧
    Mnemonic.callFunctionKw.stackEffect? = some (.ofArgument fun arg => call arg 1) ∧
    Mnemonic.callFunctionVarKw.stackEffect? = some (.ofArgument fun arg => call arg 2) := by
  refine ⟨fun arg extra => ⟨call_eq arg extra, call_bounds arg extra⟩, call_periodic_iff,
    ?unpackEx, ?makeFunctionFlags, ?formatValue, ?callFunctionEx, stackEffect?_of_argument rfl,
    stackEffect?_of_argument rfl, stackEffect?_of_argument rfl, stackEffect?_of_argument rfl⟩
  case unpackEx =>
    refine stackEffect?_of_argument_eq rfl fun arg => ?_
    rw [lowByte_eq_emod, shiftByte_eq_ediv]
  case makeFunctionFlags =>
    refine stackEffect?_of_argument_eq rfl fun arg => ?_
    rw [makeFunction, countBits_eq_sum]
  case formatValue =>
    refine stackEffect?_of_argument_eq rfl fun arg => ?_
    calc (if testBit 2 arg then -1 else 0) = 0 - arg / 4 % 2 := ite_testBit 2 arg 0
      _ = -(arg / 4 % 2) := zero_sub _
  case callFunctionEx =>
    refine stackEffect?_of_argument_eq rfl fun arg => ?_
    calc (if testBit 0 arg then -2 else -1) = -1 - arg / 1 % 2 := ite_testBit 0 arg (-1)
      _ = -1 - arg % 2 := by rw [Int.ediv_one]

end Bytecode.StackEffect
