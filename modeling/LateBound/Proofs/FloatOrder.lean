import LateBound.Proofs.Binary
import LateBound.Proofs.Rounding
/-! Floats by their exact values. A finite float is a whole multiple of `2 ^ -1074`, and floats are
ordered as these multiples are. A difference is the exact one rounded, and an integer is widened by
rounding it. -/
namespace LateBound
namespace Binary

open Float.Model Float.Model.UnpackedFloat

/-- The multiple of `2 ^ -1074` that comes after all finite floats. -/
def top : Nat := unitsOf (2 ^ 53) 971

/-- The multiple of `2 ^ -1074` that a float stands for, infinity for the one after all others. -/
def multiple : UnpackedFloat → Int
  | .notANumber | .zero _ => 0
  | .infinity s => s.apply top
  | .finite s m e _ => s.apply (unitsOf m e)

theorem multiple_zero (s : Sign) : multiple (.zero s) = 0 := rfl

theorem multiple_neg (u : UnpackedFloat) : multiple u.neg = -multiple u := by
  cases u with
  | infinity s | finite s m e hm =>
    cases s with
    | negative => exact (Int.neg_neg _).symm
    | positive => rfl
  | _ => rfl

theorem multiple_abs (u : UnpackedFloat) : multiple u.abs = (multiple u).natAbs := by
  cases u with
  | infinity s | finite s m e hm => cases s <;> simp [multiple, UnpackedFloat.abs, Sign.apply]
  | _ => rfl

/-- Finite floats are in canonical form and below infinity. -/
def InRange : UnpackedFloat → Prop
  | .finite _ m e _ => Canonical m e ∧ e ≤ 971
  | _ => True

theorem InRange.neg {u : UnpackedFloat} (hu : InRange u) : InRange u.neg := by
  cases u with
  | finite _ _ _ _ => exact hu
  | _ => trivial

theorem InRange.abs {u : UnpackedFloat} (hu : InRange u) : InRange u.abs := by
  cases u with
  | finite _ _ _ _ => exact hu
  | _ => trivial

section Units

variable {m n : Nat} {e f : Int}

theorem top_pos : 0 < top := unitsOf_pos (by norm_num) 971

theorem unitsOf_lt_top (hm : m < 2 ^ 53) (he : e ≤ 971) : unitsOf m e < top :=
  lt_of_lt_of_le (unitsOf_strictMono e hm) (unitsOf_mono_exponent (2 ^ 53) he)

theorem unitsOf_lt_of_exponent (hm : Canonical m e) (hn : Canonical n f) (h : e < f) :
    unitsOf m e < unitsOf n f := by
  have hle := hm.le
  have hleast : 2 ^ 52 ≤ n := hn.least.resolve_right (by omega)
  calc unitsOf m e < unitsOf (2 ^ 52 * 2 ^ 1) e := unitsOf_strictMono e hm.lt
    _ = unitsOf (2 ^ 52) (e + 1) := unitsOf_mul_pow (2 ^ 52) 1 hle
    _ ≤ unitsOf (2 ^ 52) f := unitsOf_mono_exponent (2 ^ 52) (by omega)
    _ ≤ unitsOf n f := (unitsOf_strictMono f).monotone hleast

theorem compare_unitsOf (hm : Canonical m e) (hn : Canonical n f) :
    (compare e f).then (compare m n) = compare (unitsOf m e) (unitsOf n f) := by
  rcases lt_trichotomy e f with h | rfl | h
  · rw [compare_lt_iff_lt.2 h, compare_lt_iff_lt.2 (unitsOf_lt_of_exponent hm hn h)]
    rfl
  · rw [compare_eq_iff_eq.2 rfl, ← cmp_eq_compare, ← cmp_eq_compare]
    exact ((unitsOf_strictMono e).cmp_map_eq m n).symm
  · rw [compare_gt_iff_gt.2 h, compare_gt_iff_gt.2 (unitsOf_lt_of_exponent hn hm h)]
    rfl

end Units

section Compare

variable {u v : UnpackedFloat}

theorem multiple_of_infinite (hu : u.isNaN = false) (h : u.isFinite = false) : (multiple u).natAbs =
    top := by
  cases u with
  | notANumber | zero _ | finite _ _ _ _ => contradiction
  | infinity s => cases s <;> simp [multiple, Sign.apply]

theorem multiple_of_finite (hu : InRange u) (h : u.isFinite = true) :
    (multiple u).natAbs + unitsOf 1 971 ≤ top := by
  have htop : unitsOf (2 ^ 53 - 1) 971 + unitsOf 1 971 = top := by
    rw [top, unitsOf_eq, unitsOf_eq, unitsOf_eq, ← Nat.add_mul, Nat.sub_add_cancel (by norm_num)]
  cases u with
  | notANumber | infinity _ => contradiction
  | zero s =>
    rw [multiple_zero]
    omega
  | finite s m e hm =>
    have hlt := hu.1.lt
    have hle : unitsOf m e ≤ unitsOf (2 ^ 53 - 1) 971 :=
      le_trans ((unitsOf_strictMono e).monotone (by omega)) (unitsOf_mono_exponent _ hu.2)
    cases s <;> simp [multiple, Sign.apply] <;> omega

theorem compare_natCast (m n : Nat) : compare (m : Int) (n : Int) = compare m n := by
  rw [← cmp_eq_compare, ← cmp_eq_compare]
  exact Nat.strictMono_cast.cmp_map_eq m n

theorem compare_neg_natCast (m n : Nat) :
    compare (-(m : Int)) (-(n : Int)) = (compare m n).swap := by
  have hanti : StrictAnti fun k : Nat => -(k : Int) := fun a b h => by simpa using h
  rw [← cmp_eq_compare, ← cmp_eq_compare, cmp_swap]
  exact hanti.cmp_map_eq m n

/-- Floats are compared as the multiples that they stand for. -/
theorem compare_eq (hu : InRange u) (hv : InRange v) (hn : u.isNaN = false) (hm : v.isNaN = false) :
    u.compare v = some (compare (multiple u) (multiple v)) := by
  have htop := top_pos
  have lt {a b : Int} (h : a < b) : some Ordering.lt = some (compare a b) := by
    rw [compare_lt_iff_lt.2 h]
  have gt {a b : Int} (h : b < a) : some Ordering.gt = some (compare a b) := by
    rw [compare_gt_iff_gt.2 h]
  have eq (a : Int) : some Ordering.eq = some (compare a a) := by rw [compare_eq_iff_eq.2 rfl]
  cases u with
  | notANumber => contradiction
  | infinity s =>
    cases v with
    | notANumber => contradiction
    | infinity t =>
      cases s <;> cases t <;> simp only [multiple, Sign.apply]
      all_goals first | exact eq _ | exact lt (by omega) | exact gt (by omega)
    | zero t =>
      cases s <;> simp only [multiple, Sign.apply]
      all_goals first | exact lt (by omega) | exact gt (by omega)
    | finite t n f hn =>
      have hless := unitsOf_lt_top hv.1.lt hv.2
      cases s <;> cases t <;> simp only [multiple, Sign.apply]
      all_goals first | exact lt (by omega) | exact gt (by omega)
  | zero s =>
    cases v with
    | notANumber => contradiction
    | infinity t =>
      cases t <;> simp only [multiple, Sign.apply]
      all_goals first | exact lt (by omega) | exact gt (by omega)
    | zero t => exact eq _
    | finite t n f hn =>
      have hpos := unitsOf_pos hn f
      cases t <;> simp only [multiple, Sign.apply]
      all_goals first | exact lt (by omega) | exact gt (by omega)
  | finite s m e hm =>
    have hpos := unitsOf_pos hm e
    have hless := unitsOf_lt_top hu.1.lt hu.2
    cases v with
    | notANumber => contradiction
    | infinity t =>
      cases s <;> cases t <;> simp only [multiple, Sign.apply]
      all_goals first | exact lt (by omega) | exact gt (by omega)
    | zero t =>
      cases s <;> simp only [multiple, Sign.apply]
      all_goals first | exact lt (by omega) | exact gt (by omega)
    | finite t n f hn =>
      have hpos' := unitsOf_pos hn f
      have hcompare := compare_unitsOf hu.1 hv.1
      cases s <;> cases t <;> simp only [multiple, Sign.apply]
      · rw [compare_neg_natCast, ← hcompare]
        rfl
      · exact lt (by omega)
      · exact gt (by omega)
      · rw [compare_natCast, ← hcompare]
        rfl

end Compare

section Pack

theorem ofBitVec_unpackSign {spec : Format} (s : Sign) (e : BitVec spec.exponentBits)
    (m : BitVec spec.mantissaBitsWithoutImplicit) :
    Sign.ofBitVec (unpackSign (packComponents spec s e m)) = s := by
  have hsign : unpackSign (packComponents spec s e m) = s.toBitVec := by
    ext i hi
    obtain rfl : i = 0 := by omega
    simp [unpackSign, packComponents, BitVec.getLsbD_append, BitVec.getElem_append]
  rw [hsign]
  cases s <;> rfl

theorem toNat_implicit (m : BitVec 52) : (1#1 ++ m).toNat = 2 ^ 52 + m.toNat := by
  rw [BitVec.toNat_append, ← Nat.shiftLeft_add_eq_or_of_lt m.isLt]
  rfl

theorem exponent_eq_neg_one_iff (e : BitVec 11) : e = -1#11 ↔ e.toNat = 2047 := by
  rw [BitVec.neg_one_eq_allOnes, ← BitVec.toNat_inj, BitVec.toNat_allOnes]

theorem inRange_unpack (b : BitVec 64) : InRange (UnpackedFloat.unpack .binary64 b) := by
  let m : BitVec 52 := @unpackMantissa .binary64 b
  let e : BitVec 11 := @unpackExponent .binary64 b
  have hm : m.toNat < 2 ^ 52 := m.isLt
  have he : e.toNat < 2 ^ 11 := e.isLt
  have hbias : Format.binary64.exponentBias = 1023 := rfl
  unfold UnpackedFloat.unpack
  dsimp only
  rw [hbias]
  split
  · split <;> trivial
  · rename_i hinf
    have hinf : e.toNat ≠ 2047 := mt (exponent_eq_neg_one_iff e).2 hinf
    split
    · rename_i hzero
      have hzero : e.toNat = 0 := congrArg BitVec.toNat hzero
      split
      · trivial
      · change Canonical m.toNat ((e.toNat : Int) - (1023 + 52) + 1) ∧
          (e.toNat : Int) - (1023 + 52) + 1 ≤ 971
        exact ⟨⟨by omega, by omega, .inr (by omega)⟩, by omega⟩
    · rename_i hnormal
      have hnormal : e.toNat ≠ 0 := fun h => hnormal (BitVec.eq_of_toNat_eq h)
      change Canonical (1#1 ++ m).toNat ((e.toNat : Int) - (1023 + 52)) ∧
        (e.toNat : Int) - (1023 + 52) ≤ 971
      rw [toNat_implicit]
      exact ⟨⟨by omega, by omega, .inl (by omega)⟩, by omega⟩

section Finite

variable {m : Nat} {e : Int} {s : Sign}

theorem unpack_packedInfinity (s : Sign) :
    UnpackedFloat.unpack .binary64 (packedInfinity .binary64 s) = .infinity s := by
  cases s <;> rfl

theorem unpack_packedZero (s : Sign) :
    UnpackedFloat.unpack .binary64 (packedZero .binary64 s) = .zero s := by
  cases s <;> rfl

theorem pack_finite (s : Sign) (m : Nat) (e : Int) (hm : 0 < m) :
    UnpackedFloat.pack .binary64 (.finite s m e hm) =
      if 2048 ≤ (e + 1075).toNat + 1 then packedInfinity .binary64 s
      else if m.log2 + 1 = 53 then packComponents .binary64 s
        (BitVec.ofNat 11 (e + 1075).toNat) (BitVec.ofNat 52 m)
      else packComponents .binary64 s 0#11 (BitVec.ofNat 52 m) := by
  have hbias : e + (1023 : Nat) + (52 : Nat) = e + 1075 := by omega
  rw [← hbias]
  rfl

theorem unpack_normal (s : Sign) {e : BitVec 11} (m : BitVec 52)
    (he : e.toNat ≠ 2047) (hpos : e.toNat ≠ 0)
    (h : 0 < 2 ^ 52 + m.toNat) :
    UnpackedFloat.unpack .binary64 (packComponents .binary64 s e m) =
      .finite s (2 ^ 52 + m.toNat) ((e.toNat : Int) - (1023 + 52)) h := by
  unfold UnpackedFloat.unpack
  simp only [unpackMantissa_packComponents, unpackExponent_packComponents, ofBitVec_unpackSign]
  rw [if_neg (mt (exponent_eq_neg_one_iff e).1 he), if_neg fun hzero =>
    hpos (congrArg BitVec.toNat hzero)]
  congr 1
  exact toNat_implicit m

theorem unpack_subnormal (s : Sign) {m : BitVec 52} (h : 0 < m.toNat) :
    UnpackedFloat.unpack .binary64 (packComponents .binary64 s 0#11 m) =
      .finite s m.toNat (-1074) h := by
  have hm : m ≠ 0#52 := fun hzero => h.ne' (congrArg BitVec.toNat hzero)
  unfold UnpackedFloat.unpack
  simp only [unpackMantissa_packComponents, unpackExponent_packComponents, ofBitVec_unpackSign]
  rw [if_neg (by decide), if_pos trivial, dif_neg hm]
  rfl

theorem unpack_pack_of_large (hm : 0 < m) (he : 972 ≤ e) :
    UnpackedFloat.unpack .binary64 (UnpackedFloat.pack .binary64 (.finite s m e hm)) =
      .infinity s := by
  rw [pack_finite, if_pos (by omega), unpack_packedInfinity]

theorem unpack_pack_of_canonical (hm : 0 < m) (hc : Canonical m e) (he : e ≤ 971) :
    UnpackedFloat.unpack .binary64 (UnpackedFloat.pack .binary64 (.finite s m e hm)) =
      .finite s m e hm := by
  have hle := hc.le
  have hlt := hc.lt
  rw [pack_finite, if_neg (by omega)]
  by_cases hnormal : 2 ^ 52 ≤ m
  · have hlog : m.log2 + 1 = 53 := by rw [(Nat.log2_eq_iff hm.ne').2 ⟨hnormal, hlt⟩]
    have hexponent : (BitVec.ofNat 11 (e + 1075).toNat).toNat = (e + 1075).toNat := by
      rw [BitVec.toNat_ofNat, Nat.mod_eq_of_lt (by omega)]
    have hmantissa : 2 ^ 52 + (BitVec.ofNat 52 m).toNat = m := by
      rw [BitVec.toNat_ofNat]
      omega
    rw [if_pos hlog, unpack_normal s _ (by omega) (by omega) (by omega)]
    congr 1
    omega
  · obtain rfl : e = -1074 := hc.least.resolve_left hnormal
    have hlog : m.log2 + 1 ≠ 53 := by
      have := (Nat.log2_lt hm.ne').2 (Nat.not_le.1 hnormal)
      omega
    have hmantissa : (BitVec.ofNat 52 m).toNat = m := by
      rw [BitVec.toNat_ofNat, Nat.mod_eq_of_lt (Nat.not_le.1 hnormal)]
    rw [if_neg hlog, unpack_subnormal s (by omega)]
    congr 1

end Finite

theorem top_eq : top = unitsOf (2 ^ 52) 972 := by
  have hmove := unitsOf_mul_pow (2 ^ 52) 1 (by norm_num : (-1074 : Int) ≤ 971)
  norm_num at hmove
  exact hmove

theorem multiple_unpack_pack (s : Sign) {m : Nat} {e : Int} (hm : 0 < m) (hc : Canonical m e) :
    multiple (UnpackedFloat.unpack .binary64 (UnpackedFloat.pack .binary64 (.finite s m e hm))) =
      s.apply (min (unitsOf m e) top : Nat) := by
  by_cases he : e ≤ 971
  · rw [unpack_pack_of_canonical hm hc he, multiple, Nat.min_eq_left (unitsOf_lt_top hc.lt he).le]
  · have hleast : 2 ^ 52 ≤ m := hc.least.resolve_right (by omega)
    have hle : top ≤ unitsOf m e := by
      calc top = unitsOf (2 ^ 52) 972 := top_eq
        _ ≤ unitsOf (2 ^ 52) e := unitsOf_mono_exponent _ (by omega)
        _ ≤ unitsOf m e := (unitsOf_strictMono e).monotone hleast
    rw [unpack_pack_of_large hm (by omega), multiple, Nat.min_eq_right hle]

end Pack

def rounded (n : Int) : Int := max (-top) (min (nearestInt n) top)

section Rounded

theorem rounded_apply (s : Sign) (k : Nat) :
    rounded (s.apply k) = s.apply (min (nearest k) top : Nat) := by
  unfold rounded
  cases s with
  | positive =>
    simp only [Sign.apply, nearestInt_natCast]
    omega
  | negative =>
    simp only [Sign.apply, nearestInt_neg, nearestInt_natCast]
    omega

theorem rounded_zero : rounded 0 = 0 := by
  have hself : nearestInt 0 = 0 := nearestInt_of_fits (by norm_num)
  unfold rounded
  omega

theorem natAbs_rounded (n : Int) : (rounded n).natAbs = min (nearest n.natAbs) top := by
  have habs := natAbs_nearestInt n
  unfold rounded
  omega

theorem rounded_multiple {u : UnpackedFloat} (hu : InRange u) :
    rounded (multiple u) = multiple u := by
  cases u with
  | notANumber | zero _ => exact rounded_zero
  | infinity s =>
    have htop : nearest top = top := by rw [top, unitsOf_eq, nearest_of_fits (le_refl _)]
    rw [multiple, rounded_apply, htop, Nat.min_self]
  | finite s m e hm =>
    have hself : nearest (unitsOf m e) = unitsOf m e := by
      rw [unitsOf_eq, nearest_of_fits hu.1.lt.le]
    rw [multiple, rounded_apply, hself, Nat.min_eq_left (unitsOf_lt_top hu.1.lt hu.2).le]

theorem unpack_pack {u : UnpackedFloat} (hu : InRange u) :
    UnpackedFloat.unpack .binary64 (UnpackedFloat.pack .binary64 u) = u := by
  cases u with
  | notANumber => rfl
  | infinity s => exact unpack_packedInfinity s
  | zero s => exact unpack_packedZero s
  | finite s m e hm => exact unpack_pack_of_canonical hm hu.1 hu.2

theorem multiple_repack {u : UnpackedFloat} (hu : InRange u) :
    multiple (UnpackedFloat.unpack .binary64 (UnpackedFloat.pack .binary64 u)) = multiple u :=
  congrArg multiple (unpack_pack hu)

theorem multiple_pack_round (s : Sign) {m : Nat} (hm : m ≠ 0) {e : Int} (he : -1074 ≤ e) :
    multiple (UnpackedFloat.unpack .binary64
      (UnpackedFloat.pack .binary64 (UnpackedFloat.round .binary64 s m e))) =
      rounded (s.apply (unitsOf m e)) := by
  obtain ⟨m', e', hpos, hround, hc, hunits⟩ := exists_round hm he s
  rw [hround, multiple_unpack_pack s hpos hc, hunits, rounded_apply]

/-- A number is made a float by rounding. -/
theorem multiple_pack_normalize (m : Int) {e : Int} (he : -1074 ≤ e) (z : Sign) :
    multiple (UnpackedFloat.unpack .binary64 (UnpackedFloat.pack .binary64
      (UnpackedFloat.normalize .binary64 m e z))) = rounded (m * unitsOf 1 e) := by
  unfold UnpackedFloat.normalize
  rcases lt_trichotomy m 0 with hm | rfl | hm
  · have hsigned : Sign.negative.apply (unitsOf (-m).toNat e) = m * unitsOf 1 e := by
      rw [unitsOf_eq_mul, Sign.apply, Nat.cast_mul, Int.toNat_of_nonneg (by omega)]
      ring
    rw [Int.compare_eq_lt.2 hm, ← hsigned]
    exact multiple_pack_round .negative (by omega) he
  · rw [Int.compare_eq_eq.2 rfl, Int.zero_mul, rounded_zero]
    exact congrArg multiple (unpack_packedZero z)
  · have hsigned : Sign.positive.apply (unitsOf m.toNat e) = m * unitsOf 1 e := by
      rw [unitsOf_eq_mul, Sign.apply, Nat.cast_mul, Int.toNat_of_nonneg hm.le]
    rw [Int.compare_eq_gt.2 hm, ← hsigned]
    exact multiple_pack_round .positive (by omega) he

end Rounded

section Sub

theorem apply_shiftLeft_mul {e E : Int} (hE : -1074 ≤ E) (h : E ≤ e) (s : Sign) (m : Nat) :
    s.apply (m <<< (e - E).toNat : Nat) * unitsOf 1 E = s.apply (unitsOf m e) := by
  have hexponent : E + ((e - E).toNat : Int) = e := by omega
  have hunits : (m <<< (e - E).toNat) * unitsOf 1 E = unitsOf m e := by
    rw [← unitsOf_eq_mul, Nat.shiftLeft_eq, unitsOf_mul_pow m _ hE, hexponent]
  rw [← hunits]
  cases s <;> simp [Sign.apply]

/-- The difference of two finite floats is the exact one rounded. -/
theorem multiple_sub {u v : UnpackedFloat} (hu : InRange u) (hv : InRange v)
    (hfu : u.isFinite = true)
    (hfv : v.isFinite = true) :
    multiple (UnpackedFloat.unpack .binary64
      (UnpackedFloat.pack .binary64 (UnpackedFloat.sub .binary64 u v))) =
      rounded (multiple u - multiple v) := by
  cases u with
  | notANumber | infinity _ => contradiction
  | zero s =>
    cases v with
    | notANumber | infinity _ => contradiction
    | zero t => cases s <;> cases t <;> exact rounded_zero.symm
    | finite t n f hn =>
      rw [multiple_zero, Int.zero_sub, ← multiple_neg, rounded_multiple hv.neg]
      exact multiple_repack hv.neg
  | finite s m e hm =>
    cases v with
    | notANumber | infinity _ => contradiction
    | zero t =>
      rw [multiple_zero, Int.sub_zero, rounded_multiple hu]
      exact multiple_repack hu
    | finite t n f hn =>
      have hle := hu.1.le
      have hle' := hv.1.le
      have hexponent : -1074 ≤ min e f := by omega
      rw [multiple, multiple, ← apply_shiftLeft_mul hexponent (Int.min_le_left e f) s m,
        ← apply_shiftLeft_mul hexponent (Int.min_le_right e f) t n, ← Int.sub_mul]
      exact multiple_pack_normalize _ hexponent .positive

end Sub

def units (x : Float) : Int := multiple x.toModel.unpack

section Floats

variable {x y z : Float}

theorem inRange (x : Float) : InRange x.toModel.unpack := inRange_unpack _

theorem units_of_infinite (hx : x.isNaN = false) (h : x.isFinite = false) : (units x).natAbs =
    top :=
  multiple_of_infinite hx h

theorem compare_units (hx : x.isNaN = false) (hy : y.isNaN = false) :
    x.toModel.unpack.compare y.toModel.unpack = some (compare (units x) (units y)) :=
  compare_eq (inRange x) (inRange y) hx hy

theorem lt_iff_units (hx : x.isNaN = false) (hy : y.isNaN = false) : x < y ↔ units x < units y := by
  have hlt : x < y ↔ (decide (x.toModel < y.toModel)) = true := Iff.rfl
  have hmodel : x.toModel < y.toModel ↔
    (x.toModel.unpack.compare y.toModel.unpack == some .lt) = true := Iff.rfl
  rw [hlt, decide_eq_true_iff, hmodel, compare_units hx hy, ← compare_lt_iff_lt]
  simp

theorem le_iff_units (hx : x.isNaN = false) (hy : y.isNaN = false) : x ≤ y ↔ units x ≤ units y := by
  have hle : x ≤ y ↔ (decide (x.toModel ≤ y.toModel)) = true := Iff.rfl
  have hmodel : x.toModel ≤ y.toModel ↔
    (x.toModel.unpack.compare y.toModel.unpack).any (·.isLE) = true := Iff.rfl
  rw [hle, decide_eq_true_iff, hmodel, compare_units hx hy, Option.any_some, ← compare_le_iff_le,
    Ordering.isLE_iff_ne_gt]

theorem beq_iff_units (hx : x.isNaN = false) (hy : y.isNaN = false) : (x == y) = true ↔
    units x = units y := by
  have hbeq : (x == y) = (x.toModel.unpack.compare y.toModel.unpack == some .eq) := rfl
  rw [hbeq, compare_units hx hy, ← compare_eq_iff_eq]
  simp

theorem beq_iff : (x == y) = true ↔ x.isNaN = false ∧ y.isNaN = false ∧ units x = units y := by
  by_cases hx : x = Float.nan
  · simp [hx, Float.isNaN_eq_decide_eq_nan, Float.nan_beq_eq_false]
  · by_cases hy : y = Float.nan
    · simp [hy, Float.isNaN_eq_decide_eq_nan, Float.beq_nan_eq_false]
    · have hnumber : x.isNaN = false := by simp [Float.isNaN_eq_decide_eq_nan, hx]
      have hnumber' : y.isNaN = false := by simp [Float.isNaN_eq_decide_eq_nan, hy]
      rw [beq_iff_units hnumber hnumber', hnumber, hnumber']
      exact ⟨fun h => ⟨rfl, rfl, h⟩, fun h => h.2.2⟩

theorem float_beq_comm (x y : Float) : (x == y) = (y == x) := by
  rw [Bool.eq_iff_iff, beq_iff, beq_iff]
  exact ⟨fun h => ⟨h.2.1, h.1, h.2.2.symm⟩, fun h => ⟨h.2.1, h.1, h.2.2.symm⟩⟩

theorem float_beq_trans (h : (x == y) = true) (h' : (y == z) = true) : (x == z) = true := by
  rw [beq_iff] at h h' ⊢
  exact ⟨h.1, h'.2.1, h.2.2.trans h'.2.2⟩

theorem units_ofInt64 (n : Int64) : units (ofInt64 n) = rounded (n.toInt * unitsOf 1 0) :=
  multiple_pack_normalize n.toInt (by norm_num) .positive

theorem units_sub (hx : x.isFinite = true) (hy : y.isFinite = true) :
    units (x - y) = rounded (units x - units y) :=
  multiple_sub (inRange x) (inRange y) hx hy

theorem isNaN_abs (hx : x.isNaN = false) : x.abs.isNaN = false := by
  apply isNaN_unpack_pack
  change x.toModel.unpack.isNaN = false at hx
  cases hu : x.toModel.unpack with
  | notANumber => simp [hu, UnpackedFloat.isNaN] at hx
  | _ => rfl

theorem units_abs (x : Float) : units x.abs = (units x).natAbs :=
  (multiple_repack (inRange x).abs).trans (multiple_abs _)

end Floats

end Binary
end LateBound
