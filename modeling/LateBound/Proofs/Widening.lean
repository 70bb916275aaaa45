import LateBound.Proofs.FloatOrder
/-! Integers widened to floats. A float holds the nearest integer of 53 bits. Widening keeps the
order of integers, though not strictly: from `2 ^ 53` on, different integers can be widened to
one float. -/
namespace LateBound
namespace Binary

section Widened

variable {a b : Int64}

theorem natAbs_widened_lt (n : Int64) : (nearestInt n.toInt * unitsOf 1 0).natAbs < top := by
  have hlow := n.le_toInt
  have hhigh := n.toInt_lt
  have hfits : nearest (2 ^ 63) = 2 ^ 63 := by simpa using nearest_of_fits (m := 1) (by norm_num) 63
  have hle : nearest n.toInt.natAbs ≤ 2 ^ 52 * 2 ^ 11 :=
    le_of_le_of_eq (nearest_mono (by omega)) hfits
  calc (nearestInt n.toInt * unitsOf 1 0).natAbs = unitsOf (nearest n.toInt.natAbs) 0 := by
        rw [Int.natAbs_mul, natAbs_nearestInt, Int.natAbs_natCast, ← unitsOf_eq_mul]
    _ ≤ unitsOf (2 ^ 52 * 2 ^ 11) 0 := (unitsOf_strictMono 0).monotone hle
    _ = unitsOf (2 ^ 52) 11 := unitsOf_mul_pow (2 ^ 52) 11 (by norm_num)
    _ < top := unitsOf_lt_top (by norm_num) (by norm_num)

theorem units_widened (n : Int64) : units (ofInt64 n) = nearestInt n.toInt * unitsOf 1 0 := by
  have hnearest : nearestInt (n.toInt * unitsOf 1 0) = nearestInt n.toInt * unitsOf 1 0 := by
    rw [unitsOf_eq, Nat.one_mul, Nat.cast_pow]
    exact nearestInt_mul_pow n.toInt _
  have hbelow := natAbs_widened_lt n
  rw [units_ofInt64, rounded, hnearest]
  omega

theorem isFinite_ofInt64 (n : Int64) : (ofInt64 n).isFinite = true := by
  by_contra hinfinite
  have hsize := units_of_infinite (isNaN_ofInt64 n) (Bool.eq_false_of_not_eq_true hinfinite)
  have hbelow := natAbs_widened_lt n
  rw [units_widened] at hsize
  omega

theorem unit_pos : 0 < (unitsOf 1 0 : Int) := by exact_mod_cast unitsOf_pos Nat.one_pos 0

theorem units_ofInt64_lt_iff :
    units (ofInt64 a) < units (ofInt64 b) ↔ nearestInt a.toInt < nearestInt b.toInt := by
  rw [units_widened, units_widened, mul_lt_mul_iff_left₀ unit_pos]

theorem units_ofInt64_le_iff :
    units (ofInt64 a) ≤ units (ofInt64 b) ↔ nearestInt a.toInt ≤ nearestInt b.toInt := by
  rw [units_widened, units_widened, mul_le_mul_iff_left₀ unit_pos]

theorem beq_ofInt64_iff : (ofInt64 a == ofInt64 b) = true ↔
    nearestInt a.toInt = nearestInt b.toInt := by
  rw [beq_iff_units (isNaN_ofInt64 a) (isNaN_ofInt64 b), units_widened, units_widened,
    Int.mul_eq_mul_right_iff unit_pos.ne']

end Widened

/-- Different integers widened to one float. -/
def Merged (a b : Int64) : Prop := a ≠ b ∧ (ofInt64 a == ofInt64 b) = true

namespace Merged

variable {a b : Int64}

theorem symm (h : Merged a b) :
    Merged b a := ⟨h.1.symm, beq_ofInt64_iff.2 (beq_ofInt64_iff.1 h.2).symm⟩

theorem le_natAbs (h : Merged a b) : 2 ^ 53 ≤ a.toInt.natAbs := by
  have hequal := beq_ofInt64_iff.1 h.2
  by_contra hlt
  have ha : nearestInt a.toInt = a.toInt := nearestInt_of_fits (by omega)
  have hpositive : nearestInt (2 ^ 53) = 2 ^ 53 := nearestInt_of_fits (by norm_num)
  have hnegative : nearestInt (-2 ^ 53) = -2 ^ 53 := nearestInt_of_fits (by norm_num)
  by_cases hb : b.toInt.natAbs ≤ 2 ^ 53
  · rw [ha, nearestInt_of_fits hb] at hequal
    exact h.1 (Int64.toInt_inj.1 hequal)
  · by_cases hsign : 0 ≤ b.toInt
    · have hmono := nearestInt_mono (m := 2 ^ 53) (n := b.toInt) (by omega)
      omega
    · have hmono := nearestInt_mono (m := b.toInt) (n := -2 ^ 53) (by omega)
      omega

end Merged

end Binary
end LateBound
