import Mathlib
import LateBound.Binary
/-! A whole number is widened to a float that is a number, and so equals itself. -/
namespace LateBound
namespace Binary

open Float.Model

variable {spec : Format} {u : UnpackedFloat}

theorem isNaN_unpack_packComponents {e : BitVec spec.exponentBits}
    {m : BitVec spec.mantissaBitsWithoutImplicit} (h : e = -1#_ → m = 0#_)
    (s : UnpackedFloat.Sign) :
    (UnpackedFloat.unpack spec (UnpackedFloat.packComponents spec s e m)).isNaN = false := by
  simp only [UnpackedFloat.unpack, UnpackedFloat.unpackExponent_packComponents,
    UnpackedFloat.unpackMantissa_packComponents]
  split
  · rename_i he
    rw [if_pos (h he)]
    rfl
  · split
    · split <;> rfl
    · rfl

theorem isNaN_unpack_pack (h : u.isNaN = false) :
    (UnpackedFloat.unpack spec (UnpackedFloat.pack spec u)).isNaN = false := by
  cases u with
  | notANumber => contradiction
  | infinity s => exact isNaN_unpack_packComponents (fun _ => rfl) s
  | zero s => exact isNaN_unpack_packComponents (fun _ => rfl) s
  | finite s m e hm =>
    unfold UnpackedFloat.pack
    dsimp only
    split
    · exact isNaN_unpack_packComponents (fun _ => rfl) s
    · rename_i hfits
      have hwide : 1 < 2 ^ spec.exponentBits := Nat.one_lt_two_pow (Nat.pos_iff_ne_zero.1 spec.he)
      split
      · refine isNaN_unpack_packComponents (fun he => absurd he ?_) s
        rw [BitVec.neg_one_eq_allOnes, ← BitVec.toNat_inj, BitVec.toNat_ofNat, BitVec.toNat_allOnes,
          Nat.mod_eq_of_lt (by omega)]
        omega
      · refine isNaN_unpack_packComponents (fun he => absurd he ?_) s
        rw [BitVec.neg_one_eq_allOnes, ← BitVec.toNat_inj, BitVec.toNat_zero, BitVec.toNat_allOnes]
        omega

theorem isNaN_normalize (mantissa exponent : Int) (s : UnpackedFloat.Sign) :
    (UnpackedFloat.normalize spec mantissa exponent s).isNaN = false := by
  have hround (s : UnpackedFloat.Sign) (m : Nat) : (UnpackedFloat.round spec s m exponent).isNaN =
    false := by
    unfold UnpackedFloat.round UnpackedFloat.roundWithAccuracy
    dsimp only
    split <;> rfl
  unfold UnpackedFloat.normalize
  split
  · exact hround _ _
  · rfl
  · exact hround _ _

theorem isNaN_ofInt64 (n : Int64) : (ofInt64 n).isNaN = false :=
  isNaN_unpack_pack (isNaN_normalize n.toInt 0 .positive)

end Binary
end LateBound
