import Mathlib
import LateBound.Binary
/-! Rounding to 53 significant bits, ties to even. Rounding keeps the order of whole numbers,
changes none that 53 bits hold, and commutes with doubling. A significand with an exponent is
rounded to a float in this way. -/
namespace LateBound

theorem twoPow_eq (k : Nat) : twoPow k = 2 ^ k := by simp [twoPow, Nat.shiftLeft_eq]

namespace Binary

section Halve

variable {m n : Nat}

theorem le_halve (m s : Nat) : m / 2 ^ s ≤ halve m s := by
  unfold halve
  simp only [twoPow_eq]
  split <;> omega

theorem halve_le (m s : Nat) : halve m s ≤ m / 2 ^ s + 1 := by
  unfold halve
  simp only [twoPow_eq]
  split <;> omega

theorem halve_mono (h : m ≤ n) (s : Nat) : halve m s ≤ halve n s := by
  have hdiv : m / 2 ^ s ≤ n / 2 ^ s := Nat.div_le_div_right h
  by_cases heq : m / 2 ^ s = n / 2 ^ s
  · have hm := Nat.div_add_mod m (2 ^ s)
    have hn := Nat.div_add_mod n (2 ^ s)
    rw [heq] at hm
    have hrest : m % 2 ^ s ≤ n % 2 ^ s := by omega
    unfold halve
    simp only [twoPow_eq, heq]
    split <;> split <;> omega
  · have hm := halve_le m s
    have hn := le_halve n s
    omega

theorem halve_of_lt {s : Nat} (h : 2 * (m % 2 ^ s) < 2 ^ s) : halve m s = m / 2 ^ s := by
  unfold halve
  simp only [twoPow_eq]
  rw [if_neg (by omega)]

theorem halve_of_dvd {s : Nat} (h : 2 ^ s ∣ m) : halve m s = m / 2 ^ s := by
  apply halve_of_lt
  rw [Nat.mod_eq_zero_of_dvd h]
  exact Nat.two_pow_pos s

theorem halve_zero (m : Nat) : halve m 0 = m := by simpa using halve_of_dvd (s := 0) (one_dvd m)

theorem halve_mul_pow (m s k : Nat) : halve (m * 2 ^ k) (s + k) = halve m s := by
  have hpos : 0 < 2 ^ k := Nat.two_pow_pos k
  have hover : 2 ^ s * 2 ^ k < 2 * (m % 2 ^ s * 2 ^ k) ↔ 2 ^ s < 2 * (m % 2 ^ s) := by
    rw [← Nat.mul_assoc, Nat.mul_lt_mul_right hpos]
  have htie : 2 ^ s * 2 ^ k = 2 * (m % 2 ^ s * 2 ^ k) ↔ 2 ^ s = 2 * (m % 2 ^ s) := by
    rw [← Nat.mul_assoc, Nat.mul_left_inj hpos.ne']
  unfold halve
  simp only [twoPow_eq, Nat.pow_add, Nat.mul_div_mul_right _ _ hpos, Nat.mul_mod_mul_right, hover,
    htie]

end Halve

/-- The nearest whole number that 53 significant bits hold, ties to even. -/
def nearest (n : Nat) : Nat := halve n (n.log2 - 52) * 2 ^ (n.log2 - 52)

section Nearest

variable {m n : Nat}

theorem halve_log2_le (n : Nat) : halve n (n.log2 - 52) ≤ 2 ^ 53 := by
  have hlt : n / 2 ^ (n.log2 - 52) < 2 ^ 53 := by
    rw [Nat.div_lt_iff_lt_mul (Nat.two_pow_pos _), ← Nat.pow_add]
    exact lt_of_lt_of_le Nat.lt_log2_self (Nat.pow_le_pow_right (by decide) (by omega))
  have hle := halve_le n (n.log2 - 52)
  omega

theorem le_halve_log2 (h : 52 ≤ n.log2) : 2 ^ 52 ≤ halve n (n.log2 - 52) := by
  have hn : n ≠ 0 := by
    rintro rfl
    simp at h
  refine le_trans ?_ (le_halve n _)
  rw [Nat.le_div_iff_mul_le (Nat.two_pow_pos _), ← Nat.pow_add, Nat.add_sub_cancel' h]
  exact Nat.log2_self_le hn

theorem nearest_of_lt (h : n < 2 ^ 53) : nearest n = n := by
  have hnone : n.log2 - 52 = 0 := by
    by_cases hn : n = 0
    · simp [hn]
    · have := (Nat.log2_lt hn).2 h
      omega
  rw [nearest, hnone, halve_zero, Nat.pow_zero, Nat.mul_one]

theorem log2_mul_pow (hm : m ≠ 0) (k : Nat) : (m * 2 ^ k).log2 = m.log2 + k := by
  rw [Nat.log2_eq_iff (by positivity), Nat.add_right_comm, Nat.pow_add, Nat.pow_add]
  constructor
  · exact Nat.mul_le_mul_right _ (Nat.log2_self_le hm)
  · exact Nat.mul_lt_mul_of_pos_right Nat.lt_log2_self (Nat.two_pow_pos k)

theorem nearest_mul_pow (m k : Nat) : nearest (m * 2 ^ k) = nearest m * 2 ^ k := by
  by_cases hm : m = 0
  · simp [hm, nearest_of_lt]
  have hlog := log2_mul_pow hm k
  by_cases hlarge : 52 ≤ m.log2
  · have hshift : m.log2 + k - 52 = m.log2 - 52 + k := by omega
    rw [nearest, nearest, hlog, hshift, halve_mul_pow, Nat.pow_add, Nat.mul_assoc]
  · have hdvd : 2 ^ (m.log2 + k - 52) ∣ m * 2 ^ k :=
      dvd_mul_of_dvd_right (Nat.pow_dvd_pow 2 (by omega)) m
    have hlt : m < 2 ^ 53 := lt_of_lt_of_le Nat.lt_log2_self
      (Nat.pow_le_pow_right (by decide) (by omega))
    rw [nearest_of_lt hlt, nearest, hlog, halve_of_dvd hdvd, Nat.div_mul_cancel hdvd]

theorem nearest_of_fits (h : m ≤ 2 ^ 53) (k : Nat) : nearest (m * 2 ^ k) = m * 2 ^ k := by
  have hm : nearest m = m := by
    by_cases hlt : m < 2 ^ 53
    · exact nearest_of_lt hlt
    · obtain rfl : m = 1 * 2 ^ 53 := by omega
      rw [nearest_mul_pow, nearest_of_lt (by norm_num)]
  rw [nearest_mul_pow, hm]

theorem nearest_le_pow (n : Nat) : nearest n ≤ 2 ^ (n.log2 + 1) := by
  by_cases hlarge : 52 ≤ n.log2
  · calc nearest n ≤ 2 ^ 53 * 2 ^ (n.log2 - 52) := Nat.mul_le_mul_right _ (halve_log2_le n)
      _ = 2 ^ (n.log2 + 1) := by rw [← Nat.pow_add]; congr 1; omega
  · have hlt : n < 2 ^ (n.log2 + 1) := Nat.lt_log2_self
    rw [nearest_of_lt (lt_of_lt_of_le hlt (Nat.pow_le_pow_right (by decide) (by omega)))]
    exact hlt.le

theorem pow_le_nearest (hn : n ≠ 0) : 2 ^ n.log2 ≤ nearest n := by
  by_cases hlarge : 52 ≤ n.log2
  · calc 2 ^ n.log2 = 2 ^ 52 * 2 ^ (n.log2 - 52) := by rw [← Nat.pow_add]; congr 1; omega
      _ ≤ nearest n := Nat.mul_le_mul_right _ (le_halve_log2 hlarge)
  · have hlt : n < 2 ^ (n.log2 + 1) := Nat.lt_log2_self
    rw [nearest_of_lt (lt_of_lt_of_le hlt (Nat.pow_le_pow_right (by decide) (by omega)))]
    exact Nat.log2_self_le hn

theorem nearest_mono (h : m ≤ n) : nearest m ≤ nearest n := by
  by_cases hm : m = 0
  · simp [hm, nearest_of_lt]
  have hn : n ≠ 0 := by omega
  have hlog : m.log2 ≤ n.log2 := (Nat.le_log2 hn).2 (le_trans (Nat.log2_self_le hm) h)
  by_cases heq : m.log2 = n.log2
  · unfold nearest
    rw [heq]
    exact Nat.mul_le_mul_right _ (halve_mono h _)
  · -- a power of two lies between the numbers, and between what they are rounded to
    calc nearest m ≤ 2 ^ (m.log2 + 1) := nearest_le_pow m
      _ ≤ 2 ^ n.log2 := Nat.pow_le_pow_right (by decide) (by omega)
      _ ≤ nearest n := pow_le_nearest hn

/-- A number is rounded up to a power of two from half of the last place below it on, where the tie
goes up. -/
theorem nearest_lt_iff (n k : Nat) : nearest n < 2 ^ 54 * 2 ^ k ↔ n < (2 ^ 54 - 1) * 2 ^ k := by
  have hpos : 0 < 2 ^ k := Nat.two_pow_pos k
  constructor
  · intro h
    by_contra hle
    have htie : nearest ((2 ^ 54 - 1) * 2 ^ k) = 2 ^ 54 * 2 ^ k := by
      rw [nearest_mul_pow]
      congr 1
    have hmono := nearest_mono (Nat.not_lt.1 hle)
    omega
  · intro h
    by_cases hsmall : n < 2 ^ 53 * 2 ^ k
    · have hself : nearest (2 ^ 53 * 2 ^ k) = 2 ^ 53 * 2 ^ k := nearest_of_fits (le_refl _) k
      have hmono := nearest_mono hsmall.le
      omega
    · have hlog : n.log2 - 52 = k + 1 := by
        have : n.log2 = 53 + k := by
          rw [Nat.log2_eq_iff (by omega), Nat.add_right_comm, Nat.pow_add, Nat.pow_add]
          omega
        omega
      have hdouble : 2 ^ (k + 1) = 2 * 2 ^ k := Nat.pow_succ'
      have hquotient : n / 2 ^ (k + 1) < 2 ^ 53 := by
        rw [Nat.div_lt_iff_lt_mul (Nat.two_pow_pos _)]
        omega
      have hhalve : halve n (k + 1) ≤ 2 ^ 53 - 1 := by
        by_cases hbelow : n / 2 ^ (k + 1) < 2 ^ 53 - 1
        · have hle := halve_le n (k + 1)
          omega
        · have hall : n / 2 ^ (k + 1) = 2 ^ 53 - 1 := by omega
          have hcut := Nat.div_add_mod n (2 ^ (k + 1))
          rw [hall] at hcut
          rw [halve_of_lt (by omega), hall]
      calc nearest n = halve n (k + 1) * 2 ^ (k + 1) := by rw [nearest, hlog]
        _ ≤ (2 ^ 53 - 1) * 2 ^ (k + 1) := Nat.mul_le_mul_right _ hhalve
        _ < 2 ^ 54 * 2 ^ k := by omega

end Nearest

/-- The nearest integer that 53 significant bits hold besides a sign, ties to even. -/
def nearestInt (n : Int) : Int := if 0 ≤ n then nearest n.natAbs else -nearest n.natAbs

section NearestInt

variable {m n : Int}

theorem natAbs_nearestInt (n : Int) : (nearestInt n).natAbs = nearest n.natAbs := by
  unfold nearestInt
  split <;> omega

theorem nearestInt_natCast (n : Nat) : nearestInt n = nearest n := if_pos (Int.natCast_nonneg n)

theorem nearestInt_neg (n : Int) : nearestInt (-n) = -nearestInt n := by
  have hzero : nearest 0 = 0 := nearest_of_lt (by norm_num)
  unfold nearestInt
  rw [Int.natAbs_neg]
  rcases lt_trichotomy n 0 with hn | rfl | hn
  · rw [if_pos (by omega), if_neg (by omega), Int.neg_neg]
  · simp [hzero]
  · rw [if_neg (by omega), if_pos hn.le]

theorem nearestInt_of_fits (h : n.natAbs ≤ 2 ^ 53) : nearestInt n = n := by
  have hself : nearest n.natAbs = n.natAbs := by simpa using nearest_of_fits h 0
  unfold nearestInt
  rw [hself]
  split <;> omega

theorem nearestInt_mono (h : m ≤ n) : nearestInt m ≤ nearestInt n := by
  unfold nearestInt
  by_cases hm : 0 ≤ m
  · have hmono := nearest_mono (m := m.natAbs) (n := n.natAbs) (by omega)
    rw [if_pos hm, if_pos (by omega)]
    omega
  · by_cases hn : 0 ≤ n
    · rw [if_neg hm, if_pos hn]
      omega
    · have hmono := nearest_mono (m := n.natAbs) (n := m.natAbs) (by omega)
      rw [if_neg hm, if_neg hn]
      omega

theorem nearestInt_mul_pow (n : Int) (k : Nat) : nearestInt (n * 2 ^ k) = nearestInt n * 2 ^ k := by
  have hpos : (0 : Int) < 2 ^ k := by positivity
  have habs : nearest (n * 2 ^ k).natAbs = nearest n.natAbs * 2 ^ k := by
    rw [Int.natAbs_mul, Int.natAbs_pow]
    exact nearest_mul_pow _ k
  unfold nearestInt
  simp only [habs, mul_nonneg_iff_of_pos_right hpos]
  split
  · exact Nat.cast_mul _ _
  · rw [Nat.cast_mul, Int.neg_mul]
    rfl

end NearestInt

section Machine

open Float.Model Float.Model.UnpackedFloat

/-- A significand with what its two bits tell of a remainder `r` of a unit `d`: whether it is at
least half of the unit, and whether it is anything but nothing or half of it. -/
structure Tells (em : ExtendedMantissa) (n d r : Nat) : Prop where
  mantissa : em.mantissa = n
  roundBit : em.roundBit = true ↔ d ≤ 2 * r
  stickyBit : em.stickyBit = true ↔ r ≠ 0 ∧ 2 * r ≠ d
  lt : r < d

theorem Tells.shiftRightOne {em : ExtendedMantissa} {n d r : Nat} (h : Tells em n d r) :
    Tells em.shiftRightOne (n / 2) (2 * d) (r + d * (n % 2)) := by
  have hlt := h.lt
  rcases Nat.mod_two_eq_zero_or_one n with hbit | hbit <;> rw [hbit]
  all_goals constructor
  all_goals simp [ExtendedMantissa.shiftRightOne, h.mantissa, h.roundBit, h.stickyBit, hbit]
  all_goals omega

theorem Tells.roundedMantissa {em : ExtendedMantissa} {n d r : Nat} (h : Tells em n d r) :
    em.roundedMantissa = if d < 2 * r ∨ (d = 2 * r ∧ n % 2 = 1) then n + 1 else n := by
  obtain ⟨rfl, hround, hsticky, hlt⟩ := h
  obtain ⟨n, round, sticky⟩ := em
  simp only [ExtendedMantissa.roundedMantissa]
  cases round <;> cases sticky
  all_goals simp at hround hsticky
  all_goals simp only [ExtendedMantissa.accuracy, Accuracy.roundToNearestEven]
  all_goals split <;> omega

theorem Tells.shiftRight {em : ExtendedMantissa} {n d : Nat} (h : Tells em (n / d) d (n % d))
    (k : Nat) : Tells (em >>> k) (n / (d * 2 ^ k)) (d * 2 ^ k) (n % (d * 2 ^ k)) := by
  induction k with
  | zero => simpa [HShiftRight.hShiftRight, Nat.repeat] using h
  | succ k ih =>
    have hdiv : n / (d * 2 ^ (k + 1)) = n / (d * 2 ^ k) / 2 := by
      rw [Nat.pow_succ, ← Nat.mul_assoc, Nat.div_div_eq_div_mul]
    have hmod : n % (d * 2 ^ (k + 1)) = n % (d * 2 ^ k) + d * 2 ^ k * (n / (d * 2 ^ k) % 2) := by
      rw [Nat.pow_succ, ← Nat.mul_assoc, Nat.mod_mul]
    have hunit : d * 2 ^ (k + 1) = 2 * (d * 2 ^ k) := by ring
    rw [hdiv, hmod, hunit]
    exact ih.shiftRightOne

theorem tells_shiftRight (m k : Nat) :
    Tells ((⟨m, false, false⟩ : ExtendedMantissa) >>> k) (m / 2 ^ k) (2 ^ k) (m % 2 ^ k) := by
  have hexact : Tells ⟨m, false, false⟩ (m / 1) 1 (m % 1) := by
    constructor <;> simp [Nat.mod_one]
  have hshift := hexact.shiftRight k
  rwa [Nat.one_mul] at hshift

theorem roundedMantissa_shiftRight (m k : Nat) :
    ((⟨m, false, false⟩ : ExtendedMantissa) >>> k).roundedMantissa = halve m k := by
  rw [(tells_shiftRight m k).roundedMantissa, halve, twoPow_eq]

/-- The places of a significand that are shifted out, so that 53 remain or the exponent is the
least one. -/
def places (m : Nat) (e : Int) : Nat := (max (m.log2 + 1 + e - 53) (-1074) - e).toNat

theorem shiftToTargetExponent_exact (m : Nat) (e : Int) :
    shiftToTargetExponent .binary64 m e .exact =
      ((⟨m, false, false⟩ : ExtendedMantissa) >>> places m e, e + places m e) := rfl

/-- A significand below `2 ^ 53` with the least exponent that it can have. -/
structure Canonical (m : Nat) (e : Int) : Prop where
  lt : m < 2 ^ 53
  le : -1074 ≤ e
  least : 2 ^ 52 ≤ m ∨ e = -1074

/-- The number `m · 2 ^ e` in units of `2 ^ -1074`. It is not to be unfolded into digits. -/
@[irreducible]
def unitsOf (m : Nat) (e : Int) : Nat := m * 2 ^ (e + 1074).toNat

theorem unitsOf_eq (m : Nat) (e : Int) : unitsOf m e = m * 2 ^ (e + 1074).toNat := by rw [unitsOf]

section Units

variable {m n : Nat} {e f : Int}

theorem unitsOf_pos (hm : 0 < m) (e : Int) : 0 < unitsOf m e := by
  rw [unitsOf_eq]
  exact Nat.mul_pos hm (Nat.two_pow_pos _)

theorem unitsOf_strictMono (e : Int) : StrictMono (unitsOf · e) := by
  intro m n h
  simp only [unitsOf_eq]
  exact Nat.mul_lt_mul_of_pos_right h (Nat.two_pow_pos _)

theorem unitsOf_mono_exponent (m : Nat) (h : e ≤ f) : unitsOf m e ≤ unitsOf m f := by
  rw [unitsOf_eq, unitsOf_eq]
  exact Nat.mul_le_mul_left _ (Nat.pow_le_pow_right (by decide) (by omega))

theorem unitsOf_mul_pow (m k : Nat) (h : -1074 ≤ e) :
    unitsOf (m * 2 ^ k) e = unitsOf m (e + k) := by
  have hexponent : k + (e + 1074).toNat = (e + k + 1074).toNat := by omega
  rw [unitsOf_eq, unitsOf_eq, Nat.mul_assoc, ← Nat.pow_add, hexponent]

theorem unitsOf_eq_mul (m : Nat) (e : Int) : unitsOf m e = m * unitsOf 1 e := by
  rw [unitsOf_eq, unitsOf_eq, Nat.one_mul]

end Units

theorem shift_of_canonical {m : Nat} {e : Int} (h : Canonical m e) :
    shiftToTargetExponent .binary64 m e .exact = (⟨m, false, false⟩, e) := by
  have hlt := h.lt
  have hle := h.le
  have hlog : m.log2 ≤ 52 := by
    by_cases hz : m = 0
    · simp [hz]
    · have := (Nat.log2_lt hz).2 hlt
      omega
  have hnone : places m e = 0 := by
    unfold places
    omega
  rw [shiftToTargetExponent_exact, hnone]
  exact Prod.ext rfl (Int.add_zero e)

theorem shift_carry {t : Int} (ht : -1074 ≤ t) :
    shiftToTargetExponent .binary64 (2 ^ 53) t .exact = (⟨2 ^ 52, false, false⟩, t + 1) := by
  have hone : places (2 ^ 53) t = 1 := by
    rw [places, Nat.log2_two_pow]
    omega
  rw [shiftToTargetExponent_exact, hone]
  rfl

theorem exists_carry {r : Nat} {t : Int} (hr : r ≤ 2 ^ 53) (ht : -1074 ≤ t)
    (hleast : 2 ^ 52 ≤ r ∨ t = -1074) :
    ∃ m e, shiftToTargetExponent .binary64 r t .exact = (⟨m, false, false⟩, e) ∧ Canonical m e ∧
      unitsOf m e = unitsOf r t := by
  by_cases hlt : r < 2 ^ 53
  · have hc : Canonical r t := ⟨hlt, ht, hleast⟩
    exact ⟨r, t, shift_of_canonical hc, hc, rfl⟩
  · obtain rfl : r = 2 ^ 53 := by omega
    exact ⟨2 ^ 52, t + 1, shift_carry ht, ⟨by norm_num, by omega, .inl (le_refl _)⟩,
      (unitsOf_mul_pow (2 ^ 52) 1 ht).symm⟩

/-- A significand with at least 53 bits, or the least exponent, is rounded to the nearest number. -/
theorem exists_roundWithAccuracy {m : Nat} (hm : m ≠ 0) {e : Int} (he : -1074 ≤ e)
    (hfits : 52 ≤ m.log2 ∨ e = -1074) (s : Sign) :
    ∃ m' e' h, roundWithAccuracy .binary64 s m e .exact = .finite s m' e' h ∧ Canonical m' e' ∧
      unitsOf m' e' = nearest (unitsOf m e) := by
  have hlog : (unitsOf m e).log2 = m.log2 + (e + 1074).toNat := by
    rw [unitsOf_eq, log2_mul_pow hm]
  have hplaces : places m e = m.log2 - 52 := by
    unfold places
    omega
  have hunit : (unitsOf m e).log2 - 52 = places m e + (e + 1074).toNat := by omega
  have hexponent : (e + places m e + 1074).toNat = places m e + (e + 1074).toNat := by omega
  have hnearest : unitsOf (halve m (places m e)) (e + places m e) = nearest (unitsOf m e) := by
    rw [nearest, hunit, unitsOf_eq, unitsOf_eq, halve_mul_pow, hexponent]
  have hrounded : halve m (places m e) ≤ 2 ^ 53 := hplaces ▸ halve_log2_le m
  have hleast : 2 ^ 52 ≤ halve m (places m e) ∨ e + places m e = -1074 := by
    by_cases hlarge : 52 ≤ m.log2
    · exact .inl (hplaces ▸ le_halve_log2 hlarge)
    · right
      omega
  obtain ⟨m', e', hcarry, hcanonical, hunits⟩ := exists_carry hrounded (by omega) hleast
  have hpos : m' ≠ 0 := by
    rintro rfl
    have hnone : unitsOf 0 e' = 0 := by rw [unitsOf_eq, Nat.zero_mul]
    have hsome : 0 < unitsOf m e := unitsOf_pos (Nat.pos_of_ne_zero hm) e
    have hpow := Nat.two_pow_pos (unitsOf m e).log2
    have hless := pow_le_nearest hsome.ne'
    omega
  refine ⟨m', e', Nat.pos_of_ne_zero hpos, ?_, hcanonical, hunits.trans hnearest⟩
  unfold roundWithAccuracy
  rw [shiftToTargetExponent_exact]
  dsimp only
  rw [roundedMantissa_shiftRight, hcarry]
  exact dif_neg hpos

/-- A significand with an exponent is rounded to the nearest number, in canonical form. -/
theorem exists_round {m : Nat} (hm : m ≠ 0) {e : Int} (he : -1074 ≤ e) (s : Sign) :
    ∃ m' e' h, UnpackedFloat.round .binary64 s m e = .finite s m' e' h ∧ Canonical m' e' ∧
      unitsOf m' e' = nearest (unitsOf m e) := by
  let d := (e - max (m.log2 + 1 + e - 53) (-1074)).toNat
  have hround : UnpackedFloat.round .binary64 s m e =
    roundWithAccuracy .binary64 s (m <<< d) (e - d) .exact := rfl
  have hd : (d : Int) = max (e - max (m.log2 + 1 + e - 53) (-1074)) 0 := Int.ofNat_toNat _
  have hlog : (m * 2 ^ d).log2 = m.log2 + d := log2_mul_pow hm d
  have hunits : unitsOf (m * 2 ^ d) (e - d) = unitsOf m e := by
    rw [unitsOf_mul_pow m d (by omega), Int.sub_add_cancel]
  rw [hround, Nat.shiftLeft_eq, ← hunits]
  exact exists_roundWithAccuracy (Nat.mul_ne_zero hm (Nat.two_pow_pos d).ne') (by omega)
    (by omega) s

end Machine

end Binary
end LateBound
