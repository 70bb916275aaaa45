import Mathlib
import LateBound.Proofs.FloatOrder
/-! The exact reading of a float is its sign, significand and exponent, and no two floats have the
same, NaN included. -/
namespace LateBound
namespace Binary

open Float.Model Float.Model.UnpackedFloat

def isNegative : Sign → Bool
  | .negative => true
  | .positive => false

def reading : UnpackedFloat → Reading
  | .notANumber => .nan
  | .infinity s => .infinite (isNegative s)
  | .zero s => .finite (isNegative s) 0 (-1074)
  | .finite s m e _ => .finite (isNegative s) m e

theorem isNegative_injective : Function.Injective isNegative := by
  intro s t h
  cases s <;> cases t <;> first | rfl | contradiction

theorem reading_injective : Function.Injective reading := by
  intro u v h
  cases u <;> cases v <;> simp [reading, isNegative_injective.eq_iff] at h ⊢
  all_goals omega

section Fields

variable (b : BitVec 64)

theorem toNat_unpackMantissa : (@unpackMantissa .binary64 b).toNat = b.toNat % 2 ^ 52 := by
  change (BitVec.extractLsb 51 0 b).toNat = _
  simp

theorem toNat_unpackExponent :
    (@unpackExponent .binary64 b).toNat = b.toNat / 2 ^ 52 % 2 ^ 11 := by
  change (BitVec.extractLsb 62 52 b).toNat = _
  simp [Nat.shiftRight_eq_div_pow]

theorem toNat_unpackSign : (@unpackSign .binary64 b).toNat = b.toNat / 2 ^ 63 := by
  change (BitVec.extractLsb 63 63 b).toNat = _
  have := b.isLt
  simp [Nat.shiftRight_eq_div_pow]
  omega

theorem isNegative_unpackSign :
    isNegative (.ofBitVec (@unpackSign .binary64 b)) = decide (b.toNat / 2 ^ 63 = 1) := by
  have hsign := toNat_unpackSign b
  have hlt := b.isLt
  unfold Sign.ofBitVec
  split
  · rename_i hzero
    rw [hzero] at hsign
    exact (decide_eq_false (by rw [← hsign]; decide)).symm
  · rename_i hone
    have hne : (@unpackSign .binary64 b).toNat ≠ 0 :=
      fun h => hone (BitVec.eq_of_toNat_eq h)
    exact (decide_eq_true (by omega)).symm

theorem toNat_eq_zero_iff {n : Nat} (b : BitVec n) : b.toNat = 0 ↔ b = 0#n := by
  rw [← BitVec.toNat_inj, BitVec.toNat_zero]

theorem read_eq (x : Float) : read x = reading x.toModel.unpack := by
  let b : BitVec 64 := x.toBits.toBitVec
  have hm := toNat_unpackMantissa b
  have he := toNat_unpackExponent b
  have hs := isNegative_unpackSign b
  have hbias : Format.binary64.exponentBias = 1023 := rfl
  have hbits : x.toBits.toNat = b.toNat := rfl
  have hunpack : x.toModel.unpack = UnpackedFloat.unpack .binary64 b := rfl
  rw [hunpack]
  unfold read
  simp only [twoPow_eq, hbits, ← hm, ← he, ← hs]
  unfold UnpackedFloat.unpack
  dsimp only
  rw [hbias]
  have hmzero := toNat_eq_zero_iff (@unpackMantissa .binary64 b)
  have hezero := toNat_eq_zero_iff (@unpackExponent .binary64 b)
  have heones := exponent_eq_neg_one_iff (@unpackExponent .binary64 b)
  simp only [hmzero, hezero, ← heones]
  split
  · split <;> rfl
  · split
    · split
      · rename_i hm
        rw [hm]
        rfl
      · rename_i hexponent _
        have hexponent : (@unpackExponent .binary64 b).toNat = 0 := hezero.2 hexponent
        rw [reading]
        congr 1
        omega
    · rw [reading]
      congr 1
      exact (Nat.add_comm ..).trans (toNat_implicit _).symm

end Fields

section Floats

variable {x y : Float}

theorem eq_of_unpack (h : x.toModel.unpack = y.toModel.unpack) : x = y := by
  have hbits : x.toModel.toBits.toBitVec = y.toModel.toBits.toBitVec := by
    rw [← pack_unpack_of_valid x.toModel.valid, ← pack_unpack_of_valid y.toModel.valid]
    exact congrArg (UnpackedFloat.pack .binary64) h
  obtain ⟨⟨⟨_⟩, _⟩⟩ := x
  obtain ⟨⟨⟨_⟩, _⟩⟩ := y
  congr

theorem read_injective : Function.Injective read := by
  intro x y h
  rw [read_eq, read_eq] at h
  exact eq_of_unpack (reading_injective h)

theorem unpack_neg (x : Float) : (-x).toModel.unpack = x.toModel.unpack.neg :=
  unpack_pack (inRange x).neg

/-- A float is told by its magnitude and its sign. -/
theorem signed_eq {negative : Bool} (h : x.toModel.unpack =
    if negative then y.toModel.unpack.neg else y.toModel.unpack) :
    (if negative then -y else y) = x := by
  apply eq_of_unpack
  rw [h]
  split
  · exact unpack_neg y
  · rfl

end Floats

end Binary
end LateBound
