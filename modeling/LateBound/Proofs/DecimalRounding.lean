import Mathlib
import LateBound.Proofs.FloatOrder
/-! Decimals rounded to floats. A number is read as the float `m · 2 ^ e` when it lies within half a
place of it, or on the edge if `m` is even; below a power of two the places are half as wide. -/
namespace LateBound
namespace Binary

open Float.Model Float.Model.UnpackedFloat

/-- How far below `m · 2 ^ e` numbers still round to it, in quarters of a place. -/
def reachBelow (m : Nat) (e : Int) : Nat := if m = 2 ^ 52 ∧ -1074 < e then 1 else 2

/-- The number rounds to `m · 2 ^ e`, ties to even. -/
structure RoundsTo (m : Nat) (e : Int) (q : ℚ) : Prop where
  lower : 4 * m - reachBelow m e ≤ q / 2 ^ (e - 2)
  upper : q / 2 ^ (e - 2) ≤ 4 * m + 2
  edge : q / 2 ^ (e - 2) = 4 * m - reachBelow m e ∨ q / 2 ^ (e - 2) = 4 * m + 2 → m % 2 = 0

theorem tells_ofFraction {n d : Nat} (hd : 0 < d) :
    Tells (.ofMantissaAndAccuracy (n / d) (accuracyOfFraction (n % d) d)) (n / d) d (n % d) := by
  have hlt := Nat.mod_lt n hd
  unfold accuracyOfFraction
  by_cases hzero : n % d = 0
  · rw [if_pos hzero]
    exact ⟨rfl, by simp [ExtendedMantissa.ofMantissaAndAccuracy]; omega,
      by simp [ExtendedMantissa.ofMantissaAndAccuracy, hzero], hlt⟩
  · rw [if_neg hzero]
    rcases lt_trichotomy (2 * (n % d)) d with h | h | h
    · rw [compare_lt_iff_lt.2 h]
      exact ⟨rfl, by simp [ExtendedMantissa.ofMantissaAndAccuracy, h],
        by simp [ExtendedMantissa.ofMantissaAndAccuracy, hzero, h.ne], hlt⟩
    · rw [compare_eq_iff_eq.2 h]
      exact ⟨rfl, by simp [ExtendedMantissa.ofMantissaAndAccuracy, h],
        by simp [ExtendedMantissa.ofMantissaAndAccuracy, h], hlt⟩
    · rw [compare_gt_iff_gt.2 h]
      exact ⟨rfl, by simp [ExtendedMantissa.ofMantissaAndAccuracy, h.le],
        by simp [ExtendedMantissa.ofMantissaAndAccuracy, hzero, h.ne'], hlt⟩

/-- A fraction is rounded to the integer that is at most a half away, the even one of two. -/
theorem roundedFraction_eq {n d r : Nat} (hlower : 2 * (r * d) ≤ 2 * n + d)
    (hupper : 2 * n ≤ 2 * (r * d) + d)
    (hedge : 2 * (r * d) = 2 * n + d ∨ 2 * n = 2 * (r * d) + d → r % 2 = 0) (hd : 0 < d) :
    (if d < 2 * (n % d) ∨ (d = 2 * (n % d) ∧ n / d % 2 = 1) then n / d + 1 else n / d) = r := by
  have hn := Nat.div_add_mod n d
  have hlt := Nat.mod_lt n hd
  have hle : n / d ≤ r := by
    by_contra hle
    have hmul : (r + 1) * d ≤ n / d * d := Nat.mul_le_mul_right d (Nat.not_le.1 hle)
    rw [Nat.add_mul, Nat.one_mul, Nat.mul_comm (n / d)] at hmul
    omega
  have hge : r ≤ n / d + 1 := by
    by_contra hge
    have hmul : (n / d + 1 + 1) * d ≤ r * d := Nat.mul_le_mul_right d (Nat.not_le.1 hge)
    rw [Nat.add_mul, Nat.add_mul, Nat.one_mul, Nat.mul_comm (n / d)] at hmul
    omega
  rcases Nat.eq_or_lt_of_le hle with h | h
  · rw [← h, Nat.mul_comm (n / d)] at hlower hupper hedge
    rw [← h]
    split_ifs <;> omega
  · obtain rfl : r = n / d + 1 := by omega
    rw [Nat.add_mul, Nat.one_mul, Nat.mul_comm (n / d)] at hlower hupper hedge
    split_ifs <;> omega

theorem digits_bounds {c : Nat} (hpos : 0 < c) :
    10 ^ ((Nat.toDigits 10 c).length - 1) ≤ c ∧ c < 10 ^ (Nat.toDigits 10 c).length := by
  have hlength : 0 < (Nat.toDigits 10 c).length := Nat.length_toDigits_pos
  refine ⟨?_, (Nat.length_toDigits_le_iff (by norm_num) hlength).1 le_rfl⟩
  by_cases hone : (Nat.toDigits 10 c).length = 1
  · rw [hone]
    exact hpos
  · by_contra hlt
    have := (Nat.length_toDigits_le_iff (by norm_num) (by omega)).2 (Nat.not_le.1 hlt)
    omega

section Place

variable {m : Nat} {e t : Int} {q : ℚ}

theorem reachBelow_le (m : Nat) (e : Int) : reachBelow m e ≤ 2 := by
  unfold reachBelow
  split <;> omega

theorem reachBelow_bounds (hm : 0 < m) (e : Int) : 0 < reachBelow m e ∧ reachBelow m e ≤ 4 * m := by
  unfold reachBelow
  split <;> omega

theorem zpow_eq_mul_quarter (e : Int) (k : Nat) : (2 : ℚ) ^ (e - 2 + k) = 2 ^ k * 2 ^ (e - 2) := by
  rw [zpow_add₀ (by norm_num), zpow_natCast, mul_comm]

theorem four_mul_quarter (e : Int) : 4 * (2 : ℚ) ^ (e - 2) = 2 ^ e := by
  rw [zpow_sub₀ (by norm_num)]
  field_simp
  norm_num

theorem RoundsTo.between {a b : ℚ} (ha : RoundsTo m e a) (hb : RoundsTo m e b) (haq : a ≤ q)
    (hqb : q ≤ b) : RoundsTo m e q := by
  have hpos : (0 : ℚ) < 2 ^ (e - 2) := by positivity
  have hleft := div_le_div_of_nonneg_right haq hpos.le
  have hright := div_le_div_of_nonneg_right hqb hpos.le
  refine ⟨ha.lower.trans hleft, hright.trans hb.upper, ?_⟩
  rintro (htie | htie)
  · exact ha.edge (.inl (le_antisymm (hleft.trans htie.le) ha.lower))
  · exact hb.edge (.inr (le_antisymm hb.upper (htie.ge.trans hright)))

theorem roundsTo_self (hm : 0 < m) (e : Int) : RoundsTo m e (m * 2 ^ e) := by
  have hreach := reachBelow_bounds hm e
  have hreach' : (0 : ℚ) < reachBelow m e := by exact_mod_cast hreach.1
  have hself : (m * 2 ^ e / 2 ^ (e - 2) : ℚ) = 4 * m := by
    rw [← four_mul_quarter]
    field_simp
  constructor
  · rw [hself]
    linarith
  · rw [hself]
    linarith
  · rw [hself]
    rintro (htie | htie) <;> linarith

theorem RoundsTo.le_of_quarters (h : RoundsTo m e q) {k : Nat}
    (hk : 2 ^ k + reachBelow m e ≤ 4 * m) : 2 ^ (e - 2 + k) ≤ q := by
  have hquarters : (2 : ℚ) ^ k ≤ 4 * m - reachBelow m e := by
    rw [le_sub_iff_add_le]
    exact_mod_cast hk
  rw [zpow_eq_mul_quarter, ← le_div_iff₀ (by positivity)]
  exact hquarters.trans h.lower

theorem RoundsTo.quarter_le (h : RoundsTo m e q) (hm : 0 < m) : 2 ^ (e - 2) ≤ q := by
  have hreach := reachBelow_le m e
  simpa using h.le_of_quarters (k := 0) (by omega)

theorem RoundsTo.lt_top (h : RoundsTo m e q) (hm : m < 2 ^ 53) : q < 2 ^ (e + 53) := by
  have hquarters : 4 * (m : ℚ) + 2 < 2 ^ 55 := by
    have : 4 * m + 2 < 2 ^ 55 := by omega
    exact_mod_cast this
  have hplaces : e + 53 = e - 2 + (55 : Nat) := by omega
  rw [hplaces, zpow_eq_mul_quarter, ← div_lt_iff₀ (by positivity)]
  exact h.upper.trans_lt hquarters

/-- The exponent that a number is rounded at is that of the float, unless the float is the power of
two that the number lies below. -/
theorem RoundsTo.exponent_eq (h : RoundsTo m e q) (hc : Canonical m e) (ht : -1074 ≤ t)
    (hle : t = -1074 ∨ 2 ^ (t + 52) ≤ q) (hlt : q < 2 ^ (t + 53)) :
    t = e ∨ t + 1 = e ∧ m = 2 ^ 52 := by
  have htwo : (1 : ℚ) < 2 := by norm_num
  have hbelow : t ≤ e := by
    rcases hle with rfl | hle
    · exact hc.le
    · have hpow := hle.trans_lt (h.lt_top hc.lt)
      rw [zpow_lt_zpow_iff_right₀ htwo] at hpow
      omega
  rcases hbelow.eq_or_lt with rfl | hstrict
  · exact .inl rfl
  · have hleast : 2 ^ 52 ≤ m := hc.least.resolve_right (by omega)
    rcases hleast.eq_or_lt with rfl | hm
    · have hreach : reachBelow (2 ^ 52) e = 1 := if_pos ⟨rfl, by omega⟩
      have hpow := (h.le_of_quarters (k := 53) (by rw [hreach]; norm_num)).trans_lt hlt
      rw [zpow_lt_zpow_iff_right₀ htwo] at hpow
      exact .inr ⟨by omega, rfl⟩
    · have hreach := reachBelow_le m e
      have hpow := (h.le_of_quarters (k := 54) (by omega)).trans_lt hlt
      rw [zpow_lt_zpow_iff_right₀ htwo] at hpow
      omega

/-- The number of quarters rounds to `r` wholes, ties to even. -/
structure QuartersOf (r : Nat) (x : ℚ) : Prop where
  lower : 4 * r - 2 ≤ x
  upper : x ≤ 4 * r + 2
  edge : x = 4 * r - 2 ∨ x = 4 * r + 2 → r % 2 = 0

theorem RoundsTo.quarters (h : RoundsTo m e q) : QuartersOf m (q / 2 ^ (e - 2)) := by
  have hreach : (reachBelow m e : ℚ) ≤ 2 := by exact_mod_cast reachBelow_le m e
  have hlower := h.lower
  refine ⟨by linarith, h.upper, ?_⟩
  rintro (htie | htie)
  · exact h.edge (.inl (by linarith))
  · exact h.edge (.inr htie)

/-- Below a power of two the places are half as wide, and there it takes the next significand. -/
theorem RoundsTo.quarters_carry (h : RoundsTo (2 ^ 52) e q) (ht : -1074 ≤ t) (he : t + 1 = e)
    (hlt : q < 2 ^ (t + 53)) : QuartersOf (2 ^ 53) (q / 2 ^ (t - 2)) := by
  have hreach : reachBelow (2 ^ 52) e = 1 := if_pos ⟨rfl, by omega⟩
  have hplaces : e - 2 = t - 2 + 1 := by omega
  have htop : t + 53 = t - 2 + (55 : Nat) := by omega
  have hdouble : q / 2 ^ (e - 2) = q / 2 ^ (t - 2) / 2 := by
    rw [hplaces, zpow_add₀ (by norm_num), zpow_one, div_div]
  have hlower := h.lower
  have hupper : q / 2 ^ (t - 2) < 2 ^ 55 := by
    rw [htop, zpow_eq_mul_quarter] at hlt
    exact (div_lt_iff₀ (by positivity)).2 hlt
  rw [hdouble, hreach] at hlower
  norm_num at hlower hupper ⊢
  exact ⟨by norm_num; linarith, by norm_num; linarith, fun _ => by norm_num⟩

/-- What the number is rounded to at its own exponent is the significand of the float, or moves up
to it. -/
theorem RoundsTo.exists_integer (h : RoundsTo m e q) (hc : Canonical m e) (ht : -1074 ≤ t)
    (hle : t = -1074 ∨ 2 ^ (t + 52) ≤ q) (hlt : q < 2 ^ (t + 53)) :
    ∃ r, QuartersOf r (q / 2 ^ (t - 2)) ∧
      shiftToTargetExponent .binary64 r t .exact = (⟨m, false, false⟩, e) := by
  rcases h.exponent_eq hc ht hle hlt with rfl | ⟨rfl, rfl⟩
  · exact ⟨m, h.quarters, shift_of_canonical hc⟩
  · exact ⟨2 ^ 53, h.quarters_carry ht rfl hlt, shift_carry ht⟩

end Place

section Fraction

variable {n d m : Nat} {f e : Int}

theorem places_bounds (hd : 0 < d) (hfits : 52 ≤ (n / d).log2 ∨ f ≤ -1074) :
    -1074 ≤ f + places (n / d) f ∧
      (f + places (n / d) f = -1074 ∨ 2 ^ (f + places (n / d) f + 52) ≤ (n / d * 2 ^ f : ℚ)) ∧
        (n / d * 2 ^ f : ℚ) < 2 ^ (f + places (n / d) f + 53) := by
  have hplaces : f + places (n / d) f = max ((n / d).log2 + f - 52) (-1074) := by
    unfold places
    omega
  have hd' : (0 : ℚ) < d := by exact_mod_cast hd
  have htwo : (0 : ℚ) < 2 ^ f := by positivity
  have hpow (k : Nat) : (2 : ℚ) ^ (k + f) = 2 ^ k * 2 ^ f := by
    rw [zpow_add₀ (by norm_num), zpow_natCast]
  refine ⟨by omega, ?_, ?_⟩
  · by_cases hleast : f + places (n / d) f = -1074
    · exact .inl hleast
    · have hne : n / d ≠ 0 := by
        intro hzero
        have hlog : (n / d).log2 = 0 := by rw [hzero, Nat.log2_zero]
        omega
      have hlog : (2 : ℚ) ^ (n / d).log2 ≤ n / d :=
        calc (2 : ℚ) ^ (n / d).log2 ≤ (n / d : Nat) := by exact_mod_cast Nat.log2_self_le hne
          _ ≤ n / d := Nat.cast_div_le
      have hexponent : f + places (n / d) f + 52 = (n / d).log2 + f := by omega
      rw [hexponent, hpow]
      exact .inr (mul_le_mul_of_nonneg_right hlog htwo.le)
  · have hlog : (n / d : ℚ) < 2 ^ ((n / d).log2 + 1) := by
      rw [div_lt_iff₀ hd']
      have hlt : n < 2 ^ ((n / d).log2 + 1) * d := by
        rw [← Nat.div_lt_iff_lt_mul hd]
        exact Nat.lt_log2_self
      exact_mod_cast hlt
    calc (n / d * 2 ^ f : ℚ) < 2 ^ ((n / d).log2 + 1) * 2 ^ f := mul_lt_mul_of_pos_right hlog htwo
      _ = 2 ^ (((n / d).log2 + 1 : Nat) + f) := (hpow _).symm
      _ ≤ 2 ^ (f + places (n / d) f + 53) := zpow_le_zpow_right₀ (by norm_num) (by omega)

theorem Tells.roundedMantissa_eq {em : ExtendedMantissa} {k r : Nat} (hd : 0 < d)
    (hem : Tells em (n / d) d (n % d)) (h : QuartersOf r (n / d * 2 ^ f / 2 ^ (f + k - 2))) :
    (em >>> k).roundedMantissa = r := by
  have hunit : (0 : ℚ) < d * 2 ^ k := by positivity
  have hquarters : (n / d * 2 ^ f / 2 ^ (f + k - 2) : ℚ) = 4 * n / (d * 2 ^ k) := by
    have hplaces : f + k - 2 = f + (k - 2 : Int) := by ring
    rw [hplaces, zpow_add₀ (by norm_num), zpow_sub₀ (by norm_num), zpow_natCast]
    field_simp
    norm_num
  obtain ⟨hlower, hupper, hedge⟩ := hquarters ▸ h
  rw [le_div_iff₀ hunit] at hlower
  rw [div_le_iff₀ hunit] at hupper
  rw [div_eq_iff hunit.ne', div_eq_iff hunit.ne'] at hedge
  rw [(hem.shiftRight k).roundedMantissa]
  refine roundedFraction_eq ?_ ?_ ?_ (by positivity)
  · have hdouble : (2 * (r * (d * 2 ^ k)) : ℚ) ≤ 2 * n + d * 2 ^ k := by linarith
    exact_mod_cast hdouble
  · have hdouble : (2 * n : ℚ) ≤ 2 * (r * (d * 2 ^ k)) + d * 2 ^ k := by linarith
    exact_mod_cast hdouble
  · rintro (htie | htie)
    · have hcast : (2 * (r * (d * 2 ^ k)) : ℚ) = 2 * n + d * 2 ^ k := by exact_mod_cast htie
      exact hedge (.inl (by linarith))
    · have hcast : (2 * n : ℚ) = 2 * (r * (d * 2 ^ k)) + d * 2 ^ k := by exact_mod_cast htie
      exact hedge (.inr (by linarith))

/-- A fraction that rounds to a float is made that float. -/
theorem roundWithAccuracy_eq (hd : 0 < d) (hfits : 52 ≤ (n / d).log2 ∨ f ≤ -1074)
    (hc : Canonical m e) (hm : 0 < m) (h : RoundsTo m e (n / d * 2 ^ f)) (s : Sign) :
    roundWithAccuracy .binary64 s (n / d) f (accuracyOfFraction (n % d) d) = .finite s m e hm := by
  obtain ⟨hleast, hle, hlt⟩ := places_bounds hd hfits
  obtain ⟨r, hr, hshift⟩ := h.exists_integer hc hleast hle hlt
  have hfirst : shiftToTargetExponent .binary64 (n / d) f (accuracyOfFraction (n % d) d) =
    (ExtendedMantissa.ofMantissaAndAccuracy (n / d) (accuracyOfFraction (n % d) d) >>>
      places (n / d) f, f + places (n / d) f) := rfl
  unfold roundWithAccuracy
  rw [hfirst]
  dsimp only
  rw [(tells_ofFraction hd).roundedMantissa_eq hd hr, hshift]
  exact dif_neg hm.ne'

end Fraction

end Binary
end LateBound
