/-! Powers of two, and the whole numbers that 64 signed bits hold. Main statements: reading an
integer back gives the word it came from, and clamping changes no integer that fits. -/
namespace LateBound

def twoPow (k : Nat) : Nat := 1 <<< k

namespace Integer64

def ofInt? (n : Int) : Option Int64 :=
  if Int64.minValue.toInt ≤ n ∧ n ≤ Int64.maxValue.toInt then some (Int64.ofInt n) else none

def clamp (n : Int) : Int64 :=
  Int64.ofInt (max Int64.minValue.toInt (min Int64.maxValue.toInt n))

theorem ofInt?_toInt (n : Int64) : ofInt? n.toInt = some n := by
  unfold ofInt?
  rw [if_pos ⟨n.minValue_le_toInt, n.toInt_le⟩, Int64.ofInt_toInt]

theorem clamp_of_ofInt? {n : Int} {m : Int64} (h : ofInt? n = some m) : clamp n = m := by
  unfold ofInt? at h
  unfold clamp
  split at h
  · rw [← Option.some.inj h, Int.min_eq_right (by omega), Int.max_eq_right (by omega)]
  · contradiction

end Integer64

end LateBound
