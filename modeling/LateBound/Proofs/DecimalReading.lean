import Mathlib
import LateBound.Decimal.Reader
import LateBound.Proofs.DecimalRounding
/-! Digits with a power of ten are read as the float that they round to. Small ones are two floats,
whose product or quotient is rounded once, and all others are a fraction of whole numbers. -/
namespace LateBound
namespace Binary

open Float.Model Float.Model.UnpackedFloat

section Machine

variable {m m₁ m₂ : Nat} {e e₁ e₂ : Int}

/-- A product of finite floats is the float that the exact one rounds to. -/
theorem mul_eq (hm₁ : 0 < m₁) (hm₂ : 0 < m₂) (hlog : 52 ≤ (m₁ * m₂).log2) (hc : Canonical m e)
    (hm : 0 < m) (h : RoundsTo m e (m₁ * 2 ^ e₁ * (m₂ * 2 ^ e₂))) (s₁ s₂ : Sign) :
    UnpackedFloat.mul .binary64 (.finite s₁ m₁ e₁ hm₁) (.finite s₂ m₂ e₂ hm₂) =
      .finite (s₁ * s₂) m e hm := by
  have hexact : (m₁ * 2 ^ e₁ * (m₂ * 2 ^ e₂) : ℚ) =
      (m₁ * m₂ : Nat) / (1 : Nat) * 2 ^ (e₁ + e₂) := by
    rw [zpow_add₀ (by norm_num)]
    push_cast
    ring
  have hround := roundWithAccuracy_eq (n := m₁ * m₂) one_pos (.inl (by rwa [Nat.div_one])) hc hm
    (hexact ▸ h) (s₁ * s₂)
  rwa [Nat.div_one, Nat.mod_one] at hround

/-- A quotient of finite floats is the float that the exact one rounds to. -/
theorem div_eq (hm₁ : 0 < m₁) (hm₂ : 0 < m₂) (hc : Canonical m e) (hm : 0 < m)
    (h : RoundsTo m e (m₁ * 2 ^ e₁ / (m₂ * 2 ^ e₂))) (s₁ s₂ : Sign) :
    UnpackedFloat.div .binary64 (.finite s₁ m₁ e₁ hm₁) (.finite s₂ m₂ e₂ hm₂) =
      .finite (s₁ / s₂) m e hm := by
  let t := min (e₁ - e₂) (max (m₁.log2 + 1 + e₁ - (m₂.log2 + 1 + e₂) - 53) (-1074))
  let k := (e₁ - e₂ - t).toNat
  have hdiv : UnpackedFloat.div .binary64 (.finite s₁ m₁ e₁ hm₁) (.finite s₂ m₂ e₂ hm₂) =
    roundWithAccuracy .binary64 (s₁ / s₂) ((m₁ <<< k) / m₂) t
      (accuracyOfFraction ((m₁ <<< k) % m₂) m₂) := rfl
  have ht : t + k = e₁ - e₂ := by omega
  have hexact : (m₁ * 2 ^ e₁ / (m₂ * 2 ^ e₂) : ℚ) = (m₁ <<< k : Nat) / m₂ * 2 ^ t := by
    have he₁ : e₁ = t + k + e₂ := by omega
    rw [he₁, zpow_add₀ (by norm_num), zpow_add₀ (by norm_num), Nat.shiftLeft_eq, zpow_natCast]
    push_cast
    field_simp
  have hfits : 52 ≤ ((m₁ <<< k) / m₂).log2 ∨ t ≤ -1074 := by
    by_cases hleast : t ≤ -1074
    · exact .inr hleast
    · left
      have hk : m₂.log2 + 53 ≤ m₁.log2 + k := by omega
      have hle : 2 ^ 52 * m₂ ≤ m₁ * 2 ^ k :=
        calc 2 ^ 52 * m₂ ≤ 2 ^ 52 * 2 ^ (m₂.log2 + 1) :=
              Nat.mul_le_mul_left _ Nat.lt_log2_self.le
          _ = 2 ^ (m₂.log2 + 53) := by rw [← Nat.pow_add]; congr 1; omega
          _ ≤ 2 ^ (m₁.log2 + k) := Nat.pow_le_pow_right (by decide) hk
          _ = 2 ^ m₁.log2 * 2 ^ k := Nat.pow_add ..
          _ ≤ m₁ * 2 ^ k := Nat.mul_le_mul_right _ (Nat.log2_self_le hm₁.ne')
      have hquotient : 2 ^ 52 ≤ (m₁ <<< k) / m₂ := by
        rwa [Nat.le_div_iff_mul_le hm₂, Nat.shiftLeft_eq]
      exact (Nat.le_log2 (by omega)).2 hquotient
  rw [hdiv]
  exact roundWithAccuracy_eq hm₂ hfits hc hm (hexact ▸ h) (s₁ / s₂)

theorem cast_unitsOf (m : Nat) (he : -1074 ≤ e) : (unitsOf m e : ℚ) = m * 2 ^ e * 2 ^ 1074 := by
  have hpow : (2 : ℚ) ^ (e + 1074).toNat = 2 ^ e * 2 ^ 1074 := by
    rw [← zpow_natCast, Int.toNat_of_nonneg (by omega), zpow_add₀ (by norm_num)]
    norm_cast
  rw [unitsOf_eq]
  push_cast
  rw [hpow, mul_assoc]

theorem large_of_unitsOf {c : Nat} (hc : Canonical m e) (hpos : 0 < c)
    (h : unitsOf m e = unitsOf c 0) : 2 ^ 52 ≤ m := by
  rcases hc.least with hleast | rfl
  · exact hleast
  · have hself : unitsOf m (-1074) = m := by rw [unitsOf_eq]; norm_num
    have hone : unitsOf 1 0 ≤ unitsOf c 0 := (unitsOf_strictMono 0).monotone hpos
    have hpow : (2 : Nat) ^ 52 ≤ unitsOf 1 0 := by
      rw [unitsOf_eq, Nat.one_mul]
      exact Nat.pow_le_pow_right (by decide) (by norm_num)
    omega

theorem value_of_unitsOf {c : Nat} (he : -1074 ≤ e) (h : unitsOf m e = unitsOf c 0) :
    (m * 2 ^ e : ℚ) = c := by
  have hvalue : (m * 2 ^ e * 2 ^ 1074 : ℚ) = c * 2 ^ (0 : Int) * 2 ^ 1074 := by
    rw [← cast_unitsOf m he, ← cast_unitsOf c (by norm_num), h]
  rw [zpow_zero, mul_one] at hvalue
  exact mul_right_cancel₀ (by positivity) hvalue

/-- A float that stands for a small whole number is that number, with all 53 bits in use. -/
theorem exists_unpack_of_units {x : Float} {c : Nat} (hc : 0 < c) (hlt : c < 2 ^ 100)
    (h : units x = unitsOf c 0) :
    ∃ m e hm, x.toModel.unpack = .finite .positive m e hm ∧ 2 ^ 52 ≤ m ∧ (m * 2 ^ e : ℚ) = c := by
  have hrange := inRange x
  have hpos : 0 < unitsOf c 0 := unitsOf_pos hc 0
  have htop : unitsOf c 0 < top :=
    calc unitsOf c 0 < unitsOf (1 * 2 ^ 100) 0 := unitsOf_strictMono 0 (by omega)
      _ = unitsOf 1 100 := unitsOf_mul_pow 1 100 (by norm_num)
      _ < top := unitsOf_lt_top (by norm_num) (by norm_num)
  unfold units at h
  cases hu : x.toModel.unpack with
  | notANumber | zero _ =>
    rw [hu, multiple] at h
    omega
  | infinity s =>
    rw [hu, multiple] at h
    cases s <;> simp only [Sign.apply] at h <;> omega
  | finite s m e hm =>
    rw [hu] at hrange h
    have hc' : Canonical m e := hrange.1
    cases s with
    | negative =>
      simp only [multiple, Sign.apply] at h
      omega
    | positive =>
      have hunits : unitsOf m e = unitsOf c 0 := Int.ofNat.inj h
      exact ⟨m, e, hm, rfl, large_of_unitsOf hc' hc hunits, value_of_unitsOf hc'.le hunits⟩

end Machine

section Floats

variable {m : Nat} {e : Int} {x y : Float}

theorem unpack_mul {s₁ s₂ : Sign} {m₁ m₂ : Nat} {e₁ e₂ : Int} {hm₁ : 0 < m₁} {hm₂ : 0 < m₂}
    (hx : x.toModel.unpack = .finite s₁ m₁ e₁ hm₁) (hy : y.toModel.unpack = .finite s₂ m₂ e₂ hm₂)
    (hlog : 52 ≤ (m₁ * m₂).log2) (hc : Canonical m e) (he : e ≤ 971) (hm : 0 < m)
    (h : RoundsTo m e (m₁ * 2 ^ e₁ * (m₂ * 2 ^ e₂))) :
    (x * y).toModel.unpack = .finite (s₁ * s₂) m e hm := by
  have hmul : (x * y).toModel.unpack = UnpackedFloat.unpack .binary64 (UnpackedFloat.pack .binary64
    (UnpackedFloat.mul .binary64 x.toModel.unpack y.toModel.unpack)) := rfl
  rw [hmul, hx, hy, mul_eq hm₁ hm₂ hlog hc hm h, unpack_pack_of_canonical hm hc he]

theorem unpack_div {s₁ s₂ : Sign} {m₁ m₂ : Nat} {e₁ e₂ : Int} {hm₁ : 0 < m₁} {hm₂ : 0 < m₂}
    (hx : x.toModel.unpack = .finite s₁ m₁ e₁ hm₁) (hy : y.toModel.unpack = .finite s₂ m₂ e₂ hm₂)
    (hc : Canonical m e) (he : e ≤ 971) (hm : 0 < m)
    (h : RoundsTo m e (m₁ * 2 ^ e₁ / (m₂ * 2 ^ e₂))) :
    (x / y).toModel.unpack = .finite (s₁ / s₂) m e hm := by
  have hdiv : (x / y).toModel.unpack = UnpackedFloat.unpack .binary64 (UnpackedFloat.pack .binary64
    (UnpackedFloat.div .binary64 x.toModel.unpack y.toModel.unpack)) := rfl
  rw [hdiv, hx, hy, div_eq hm₁ hm₂ hc hm h, unpack_pack_of_canonical hm hc he]

theorem units_ofNat {c : Nat} (hc : c < 2 ^ 53) : units c.toUInt64.toFloat = unitsOf c 0 := by
  have hunits : units c.toUInt64.toFloat = rounded (c.toUInt64.toNat * unitsOf 1 0) :=
    multiple_pack_normalize _ (by norm_num) .positive
  have hself : c.toUInt64.toNat = c := UInt64.toNat_ofNat_of_lt' (by norm_num; omega)
  have hlt : unitsOf c 0 < top := unitsOf_lt_top hc (by norm_num)
  have hnearest : nearest (unitsOf c 0) = unitsOf c 0 := by rw [unitsOf_eq, nearest_of_fits hc.le]
  have hround := rounded_apply .positive (unitsOf c 0)
  rw [hnearest, Nat.min_eq_left hlt.le] at hround
  rw [hunits, hself, ← Nat.cast_mul, ← unitsOf_eq_mul]
  exact hround

theorem units_powerOfTen (k : Fin 23) :
    units Float.exactlyRepresentablePowersOfTen[k] = unitsOf (10 ^ k.val) 0 := by
  rw [unitsOf_eq]
  revert k
  decide +kernel

variable {c : Nat} {k : Int}

theorem ten_zpow_of_nonneg (hk : 0 ≤ k) : (10 : ℚ) ^ k = (10 ^ k.toNat : Nat) := by
  obtain ⟨n, rfl⟩ := Int.eq_ofNat_of_zero_le hk
  rw [zpow_natCast, Int.toNat_natCast]
  norm_cast

theorem mul_ten_zpow_of_neg (hk : k < 0) (q : ℚ) : q * 10 ^ k = q / (10 ^ (-k).toNat : Nat) := by
  rw [div_eq_mul_inv, ← ten_zpow_of_nonneg (by omega), ← zpow_neg, Int.neg_neg]

/-- Small digits and a small power of ten are floats, whose product or quotient is rounded once. -/
theorem unpack_small (hc : Canonical m e) (he : e ≤ 971) (hm : 0 < m)
    (h : RoundsTo m e (c * 10 ^ k)) (hpos : 0 < c) (hlt : c < 2 ^ 53) (hk : k.natAbs < 23) :
    (if k < 0 then c.toUInt64.toFloat / Float.exactlyRepresentablePowersOfTen[k.natAbs]
      else c.toUInt64.toFloat * Float.exactlyRepresentablePowersOfTen[k.natAbs]).toModel.unpack =
      .finite .positive m e hm := by
  have hpower : 10 ^ k.natAbs < 2 ^ 100 :=
    lt_of_le_of_lt (Nat.pow_le_pow_right (by norm_num) (Nat.le_of_lt_succ hk)) (by norm_num)
  obtain ⟨m₁, e₁, hm₁, hx, hleast₁, hvalue₁⟩ :=
    exists_unpack_of_units hpos (by omega) (units_ofNat hlt)
  obtain ⟨m₂, e₂, hm₂, hy, hleast₂, hvalue₂⟩ :=
    exists_unpack_of_units (by positivity) hpower (units_powerOfTen ⟨k.natAbs, hk⟩)
  split
  · rename_i hneg
    have habs : (-k).toNat = k.natAbs := by omega
    rw [mul_ten_zpow_of_neg hneg, habs, ← hvalue₁, ← hvalue₂] at h
    exact unpack_div hx hy hc he hm h
  · rename_i hneg
    have habs : k.toNat = k.natAbs := by omega
    rw [ten_zpow_of_nonneg (by omega), habs, ← hvalue₁, ← hvalue₂] at h
    have hlarge : 2 ^ 52 ≤ m₁ * m₂ := hleast₁.trans (Nat.le_mul_of_pos_right m₁ hm₂)
    exact unpack_mul hx hy ((Nat.le_log2 (by omega)).2 hlarge) hc he hm h

theorem ofScientific_eq (hc : Canonical m e) (hm : 0 < m) (h : RoundsTo m e (c * 10 ^ k))
    (hpos : 0 < c) (hk : k ≤ 2048) (hk' : -(2048 + c.log2) ≤ k) :
    UnpackedFloat.ofScientific .binary64 c k = .finite .positive m e hm := by
  have hbits : (2 : Int) ^ Format.binary64.exponentBits = 2048 := rfl
  unfold UnpackedFloat.ofScientific
  rw [dif_neg hpos.ne', hbits, if_neg (by omega), if_neg (by omega)]
  split
  · rename_i hneg
    rw [ten_zpow_of_nonneg hneg] at h
    have hexact : (c * (10 ^ k.toNat : Nat) : ℚ) =
        (c <<< Format.binary64.mantissaBits : Nat) * 2 ^ (-Format.binary64.mantissaBits : Int) *
          ((10 ^ k.toNat : Nat) * 2 ^ (0 : Int)) := by
      rw [Nat.shiftLeft_eq, zpow_neg, zpow_natCast]
      push_cast
      field_simp
    have hlarge : 2 ^ 52 ≤ c <<< Format.binary64.mantissaBits * 10 ^ k.toNat :=
      calc 2 ^ 52 ≤ 2 ^ Format.binary64.mantissaBits := Nat.pow_le_pow_right (by decide) (by decide)
        _ ≤ c * 2 ^ Format.binary64.mantissaBits := Nat.le_mul_of_pos_left _ hpos
        _ = c <<< Format.binary64.mantissaBits := (Nat.shiftLeft_eq ..).symm
        _ ≤ c <<< Format.binary64.mantissaBits * 10 ^ k.toNat :=
          Nat.le_mul_of_pos_right _ (by positivity)
    exact mul_eq _ _ ((Nat.le_log2 (by omega)).2 hlarge) hc hm (hexact ▸ h) .positive .positive
  · rename_i hneg
    rw [mul_ten_zpow_of_neg (by omega)] at h
    refine div_eq _ _ hc hm ?_ .positive .positive
    simpa using h

theorem unpack_ofScientific (hc : Canonical m e) (he : e ≤ 971) (hm : 0 < m)
    (h : RoundsTo m e (c * 10 ^ k)) (hpos : 0 < c) (hk : k ≤ 2048) (hk' : -(2048 + c.log2) ≤ k) :
    (Float.ofScientific c (decide (k < 0)) k.natAbs).toModel.unpack = .finite .positive m e hm := by
  unfold Float.ofScientific
  by_cases hsmall : c < 2 ^ 53 ∧ k.natAbs ≤ 22
  · rw [dif_pos hsmall]
    simp only [decide_eq_true_iff]
    exact unpack_small hc he hm h hpos hsmall.1 (Nat.lt_succ_of_le hsmall.2)
  · have hsigned : (if decide (k < 0) = true then Int.negOfNat k.natAbs else Int.ofNat k.natAbs) =
        k := by
      cases k with
      | ofNat n => rfl
      | negSucc n => exact if_pos (decide_eq_true (Int.negSucc_lt_zero n))
    have hmodel : (Float.Model.ofScientific c k).unpack = UnpackedFloat.unpack .binary64
      (UnpackedFloat.pack .binary64 (UnpackedFloat.ofScientific .binary64 c k)) := rfl
    rw [dif_neg hsmall]
    dsimp only
    rw [hsigned, hmodel, ofScientific_eq hc hm h hpos hk hk', unpack_pack_of_canonical hm hc he]

theorem eight_zpow_le_ten_zpow (hk : 0 ≤ k) : (2 : ℚ) ^ (3 * k) ≤ 10 ^ k := by
  rw [zpow_mul]
  exact zpow_le_zpow_left₀ hk (by norm_num) (by norm_num)

theorem ten_zpow_le_eight_zpow (hk : k ≤ 0) : (10 : ℚ) ^ k ≤ 2 ^ (3 * k) := by
  have hinv := inv_anti₀ (by positivity) (eight_zpow_le_ten_zpow (k := -k) (by omega))
  rwa [← zpow_neg, ← zpow_neg, Int.neg_neg, Int.mul_neg, Int.neg_neg] at hinv

theorem length_toDigits_le_log2 (hpos : 0 < c) : (Nat.toDigits 10 c).length ≤ c.log2 + 1 := by
  have hlt : 2 ^ ((Nat.toDigits 10 c).length - 1) < 2 ^ (c.log2 + 1) :=
    calc 2 ^ ((Nat.toDigits 10 c).length - 1) ≤ 10 ^ ((Nat.toDigits 10 c).length - 1) :=
          Nat.pow_le_pow_left (by norm_num) _
      _ ≤ c := (digits_bounds hpos).1
      _ < 2 ^ (c.log2 + 1) := Nat.lt_log2_self
  have := (Nat.pow_lt_pow_iff_right (by norm_num)).1 hlt
  omega

theorem RoundsTo.digits_pos (h : RoundsTo m e (c * 10 ^ k)) (hm : 0 < m) : 0 < c := by
  have hfloor := h.quarter_le hm
  by_contra hzero
  obtain rfl : c = 0 := by omega
  rw [Nat.cast_zero, zero_mul] at hfloor
  exact hfloor.not_gt (by positivity)

theorem RoundsTo.digits_between (h : RoundsTo m e (c * 10 ^ k)) (hc : Canonical m e) (he : e ≤ 971)
    (hm : 0 < m) :
    -400 ≤ k + (Nat.toDigits 10 c).length ∧ k + (Nat.toDigits 10 c).length ≤ 400 := by
  have htwo : (1 : ℚ) < 2 := by norm_num
  have hfloor := h.quarter_le hm
  have hceil := h.lt_top hc.lt
  have hle := hc.le
  have hlength : 0 < (Nat.toDigits 10 c).length := Nat.length_toDigits_pos
  obtain ⟨hdigits, hdigits'⟩ := digits_bounds (h.digits_pos hm)
  generalize (Nat.toDigits 10 c).length = l at *
  have htop : (c * 10 ^ k : ℚ) < 10 ^ (k + l) := by
    rw [add_comm, zpow_add₀ (by norm_num), zpow_natCast]
    exact mul_lt_mul_of_pos_right (by exact_mod_cast hdigits') (by positivity)
  have hbottom : (10 : ℚ) ^ (k + l - 1) ≤ c * 10 ^ k := by
    have hl : k + l - 1 = (l - 1 : Nat) + k := by omega
    rw [hl, zpow_add₀ (by norm_num), zpow_natCast]
    exact mul_le_mul_of_nonneg_right (by exact_mod_cast hdigits) (by positivity)
  constructor
  · by_contra hlt
    have hpow := (hfloor.trans_lt htop).trans_le (ten_zpow_le_eight_zpow (by omega))
    rw [zpow_lt_zpow_iff_right₀ htwo] at hpow
    omega
  · by_contra hlt
    have hpow := ((eight_zpow_le_ten_zpow (by omega)).trans hbottom).trans_lt hceil
    rw [zpow_lt_zpow_iff_right₀ htwo] at hpow
    omega

/-- Digits with a power of ten are read as the float that they round to. -/
theorem unpack_nearest (hc : Canonical m e) (he : e ≤ 971) (hm : 0 < m)
    (h : RoundsTo m e (c * 10 ^ k)) :
    (Decimal.nearest c k).toModel.unpack = .finite .positive m e hm := by
  have hpos := h.digits_pos hm
  have hlog := length_toDigits_le_log2 hpos
  obtain ⟨hleast, hlimit⟩ := h.digits_between hc he hm
  unfold Decimal.nearest
  dsimp only
  rw [if_neg (by omega), if_neg (by omega)]
  exact unpack_ofScientific hc he hm h hpos (by omega) (by omega)

end Floats

end Binary
end LateBound
