import Mathlib
import LateBound.Decimal.Shortest
import LateBound.Proofs.DecimalRounding
/-! The shortest decimal of a float rounds to it, no decimal with fewer digits does, and none with
the same power of ten is closer. The grids before the one that it is found on have no point that
rounds to the float, since one of the two neighbours of the float would. -/
namespace LateBound
namespace Decimal

open Binary

theorem digitCount_pos (n : Nat) : 0 < digitCount n := Nat.length_toDigits_pos

theorem digitCount_le_iff {n k : Nat} (hk : 0 < k) : digitCount n ≤ k ↔ n < 10 ^ k :=
  Nat.length_toDigits_le_iff (by norm_num) hk

theorem magnitude_bounds {n d : Nat} (hn : 0 < n) (hd : 0 < d) :
    10 ^ magnitude n d ≤ (n / d : ℚ) ∧ (n / d : ℚ) < 10 ^ (magnitude n d + 1) := by
  have hn' : (0 : ℚ) < n := by exact_mod_cast hn
  have hd' : (0 : ℚ) < d := by exact_mod_cast hd
  unfold magnitude
  split
  · rename_i hle
    obtain ⟨hlower, hupper⟩ := digits_bounds (Nat.div_pos hle hd)
    have hcount : ((digitCount (n / d) : Int) - 1) = (digitCount (n / d) - 1 : Nat) := by
      have := digitCount_pos (n / d)
      omega
    rw [Int.sub_add_cancel, hcount, zpow_natCast, zpow_natCast, le_div_iff₀ hd', div_lt_iff₀ hd']
    rw [Nat.le_div_iff_mul_le hd] at hlower
    rw [Nat.div_lt_iff_lt_mul hd] at hupper
    exact ⟨by exact_mod_cast hlower, by exact_mod_cast hupper⟩
  · rename_i hlt
    have hquotient : 0 < (d - 1) / n := Nat.div_pos (by omega) hn
    obtain ⟨hlower, hupper⟩ := digits_bounds hquotient
    have hcount : (-(digitCount ((d - 1) / n) : Int) + 1) =
        -(digitCount ((d - 1) / n) - 1 : Nat) := by
      have := digitCount_pos ((d - 1) / n)
      omega
    rw [Nat.le_div_iff_mul_le hn] at hlower
    rw [Nat.div_lt_iff_lt_mul hn] at hupper
    have hleast : d ≤ 10 ^ digitCount ((d - 1) / n) * n := by
      unfold digitCount
      omega
    have hmost : 10 ^ (digitCount ((d - 1) / n) - 1) * n < d := by
      unfold digitCount
      omega
    rw [hcount, zpow_neg, zpow_neg, zpow_natCast, zpow_natCast]
    constructor
    · rw [inv_le_comm₀ (by positivity) (by positivity), inv_div, div_le_iff₀ hn']
      exact_mod_cast hleast
    · rw [lt_inv_comm₀ (by positivity) (by positivity), inv_div, lt_div_iff₀ hn']
      exact_mod_cast hmost

section Grid

variable {m b n d c : Nat}

/-- The grid point, in units of `n / d`, lies in the interval of the numbers that round to `m`. -/
structure Between (m b n d c : Nat) : Prop where
  lower : (4 * m - b) * n ≤ c * d
  upper : c * d ≤ (4 * m + 2) * n
  edge : c * d = (4 * m - b) * n ∨ c * d = (4 * m + 2) * n → m % 2 = 0

/-- No grid point lies between the two neighbours of a number. -/
theorem grid_side (x p d : Nat) : p * d ≤ x / d * d ∨ (x / d + 1) * d ≤ p * d := by
  rcases Nat.lt_or_ge (x / d) p with hp | hp
  · exact .inr (Nat.mul_le_mul_right d hp)
  · exact .inl (Nat.mul_le_mul_right d hp)

/-- One of the two neighbours on the grid is chosen, if its side of the interval reaches it, the
nearer one of two. -/
theorem gridPoint?_cases (m b n d : Nat) :
    ∃ slack, (slack = 1 ∧ m % 2 = 0 ∨ slack = 0 ∧ m % 2 = 1) ∧
      (gridPoint? m b n d = some (4 * m * n / d + 1) ∧
          (4 * m * n / d + 1) * d < (4 * m + 2) * n + slack ∧
          (4 * m * n / d * d + slack ≤ (4 * m - b) * n ∨
            (4 * m * n / d + 1) * d - 4 * m * n ≤ 4 * m * n - 4 * m * n / d * d) ∨
        gridPoint? m b n d = some (4 * m * n / d) ∧
          (4 * m - b) * n < 4 * m * n / d * d + slack ∧
          ((4 * m + 2) * n + slack ≤ (4 * m * n / d + 1) * d ∨
            4 * m * n - 4 * m * n / d * d < (4 * m * n / d + 1) * d - 4 * m * n) ∨
        gridPoint? m b n d = none ∧ (4 * m + 2) * n + slack ≤ (4 * m * n / d + 1) * d ∧
          4 * m * n / d * d + slack ≤ (4 * m - b) * n) := by
  refine ⟨if m % 2 = 0 then 1 else 0, by split <;> omega, ?_⟩
  unfold gridPoint?
  dsimp only
  generalize (if m % 2 = 0 then 1 else 0) = slack
  by_cases hup : (4 * m * n / d + 1) * d < (4 * m + 2) * n + slack
  · by_cases hdown : (4 * m - b) * n < 4 * m * n / d * d + slack
    · by_cases hnear : (4 * m * n / d + 1) * d - 4 * m * n ≤ 4 * m * n - 4 * m * n / d * d
      · simp [hup, hdown, hnear]
      · simp [hup, hdown, hnear, Nat.not_le.1 hnear]
    · simp [hup, hdown, Nat.not_lt.1 hdown]
  · by_cases hdown : (4 * m - b) * n < 4 * m * n / d * d + slack
    · simp [hup, hdown, Nat.not_lt.1 hup]
    · simp [hup, hdown, Nat.not_lt.1 hup, Nat.not_lt.1 hdown]

theorem gridPoint?_eq_some (hn : 0 < n) (hd : 0 < d) (hb : 0 < b) (hbm : b ≤ 4 * m)
    (h : gridPoint? m b n d = some c) : Between m b n d c ∧ c * d ≤ 4 * m * n + d := by
  have hbelow : (4 * m - b) * n + b * n = 4 * m * n := by
    rw [← Nat.add_mul, Nat.sub_add_cancel hbm]
  have habove : (4 * m + 2) * n = 4 * m * n + 2 * n := Nat.add_mul ..
  have hreach : 0 < b * n := Nat.mul_pos hb hn
  have hfloor : 4 * m * n / d * d ≤ 4 * m * n := Nat.div_mul_le_self ..
  have hnext : 4 * m * n < 4 * m * n / d * d + d := Nat.lt_div_mul_add hd
  have hstep : (4 * m * n / d + 1) * d = 4 * m * n / d * d + d := by rw [Nat.add_mul, Nat.one_mul]
  obtain ⟨slack, hslack, ⟨hpoint, hup, -⟩ | ⟨hpoint, hdown, -⟩ | ⟨hpoint, -⟩⟩ :=
    gridPoint?_cases m b n d
  · obtain rfl := Option.some.inj (h.symm.trans hpoint)
    exact ⟨⟨by omega, by omega, by omega⟩, by omega⟩
  · obtain rfl := Option.some.inj (h.symm.trans hpoint)
    exact ⟨⟨by omega, by omega, by omega⟩, by omega⟩
  · exact absurd (h.symm.trans hpoint) nofun

theorem gridPoint?_eq_none (h : gridPoint? m b n d = none) (c : Nat) :
    ¬Between m b n d c := by
  rintro ⟨hlower, hupper, hedge⟩
  obtain ⟨slack, hslack, ⟨hpoint, -⟩ | ⟨hpoint, -⟩ | ⟨-, hup, hdown⟩⟩ := gridPoint?_cases m b n d
  · exact absurd (h.symm.trans hpoint) nofun
  · exact absurd (h.symm.trans hpoint) nofun
  · have hside := grid_side (4 * m * n) c d
    omega

theorem gridPoint?_closest {p : Nat} (hd : 0 < d) (h : gridPoint? m b n d = some c)
    (hp : Between m b n d p) :
    |((c * d : Nat) : Int) - (4 * m * n : Nat)| ≤ |((p * d : Nat) : Int) - (4 * m * n : Nat)| := by
  obtain ⟨hlower, hupper, hedge⟩ := hp
  have hfloor : 4 * m * n / d * d ≤ 4 * m * n := Nat.div_mul_le_self ..
  have hnext : 4 * m * n < 4 * m * n / d * d + d := Nat.lt_div_mul_add hd
  have hside := grid_side (4 * m * n) p d
  have hstep : (4 * m * n / d + 1) * d = 4 * m * n / d * d + d := by rw [Nat.add_mul, Nat.one_mul]
  rw [Int.abs_eq_natAbs, Int.abs_eq_natAbs]
  obtain ⟨slack, hslack, ⟨hpoint, -, hnear⟩ | ⟨hpoint, -, hnear⟩ | ⟨hpoint, -⟩⟩ :=
    gridPoint?_cases m b n d
  · obtain rfl := Option.some.inj (h.symm.trans hpoint)
    omega
  · obtain rfl := Option.some.inj (h.symm.trans hpoint)
    omega
  · exact absurd (h.symm.trans hpoint) nofun

end Grid

section Search

variable {m c : Nat} {e k : Int} {s : Scientific}

def Scientific.value (s : Scientific) : ℚ := s.digits * 10 ^ s.exponent

theorem zpow_eq_div {a : ℚ} (ha : a ≠ 0) (k : Int) : a ^ k = a ^ k.toNat / a ^ (-k).toNat := by
  have hparts : k = k.toNat - (-k).toNat := by omega
  conv_lhs => rw [hparts, zpow_sub₀ ha, zpow_natCast, zpow_natCast]

theorem quarterUnit_pos (e k : Int) : 0 < (quarterUnit e k).1 ∧ 0 < (quarterUnit e k).2 := by
  unfold quarterUnit
  simp only [twoPow_eq, Nat.pow_eq]
  exact ⟨by positivity, by positivity⟩

theorem quarterUnit_eq (e k : Int) :
    (10 ^ k / 2 ^ (e - 2) : ℚ) = (quarterUnit e k).2 / (quarterUnit e k).1 := by
  have hneg : -(e - 2) = 2 - e := by ring
  unfold quarterUnit
  rw [zpow_eq_div (by norm_num) k, zpow_eq_div (by norm_num) (e - 2), hneg]
  simp only [twoPow_eq, Nat.pow_eq]
  push_cast
  rw [div_div_div_eq]
  ring

theorem roundsTo_iff_between (hm : 0 < m) : RoundsTo m e (c * 10 ^ k) ↔
    Between m (reachBelow m e) (quarterUnit e k).1 (quarterUnit e k).2 c := by
  obtain ⟨hn, -⟩ := quarterUnit_pos e k
  have hunit : (c * 10 ^ k / 2 ^ (e - 2) : ℚ) = c * (quarterUnit e k).2 / (quarterUnit e k).1 := by
    rw [mul_div_assoc, quarterUnit_eq, mul_div_assoc]
  generalize quarterUnit e k = unit at *
  have hn' : (0 : ℚ) < unit.1 := by exact_mod_cast hn
  have hbelow : (4 * m - reachBelow m e : ℚ) = (4 * m - reachBelow m e : Nat) := by
    rw [Nat.cast_sub (reachBelow_bounds hm e).2]
    push_cast
    ring
  have hlower : (4 * m - reachBelow m e : ℚ) ≤ c * 10 ^ k / 2 ^ (e - 2) ↔
      (4 * m - reachBelow m e) * unit.1 ≤ c * unit.2 := by
    rw [hunit, hbelow, le_div_iff₀ hn']
    norm_cast
  have hupper : (c * 10 ^ k / 2 ^ (e - 2) : ℚ) ≤ 4 * m + 2 ↔
      c * unit.2 ≤ (4 * m + 2) * unit.1 := by
    rw [hunit, div_le_iff₀ hn']
    norm_cast
  have hleft : (c * 10 ^ k / 2 ^ (e - 2) : ℚ) = 4 * m - reachBelow m e ↔
      c * unit.2 = (4 * m - reachBelow m e) * unit.1 := by
    rw [hunit, hbelow, div_eq_iff hn'.ne']
    norm_cast
  have hright : (c * 10 ^ k / 2 ^ (e - 2) : ℚ) = 4 * m + 2 ↔
      c * unit.2 = (4 * m + 2) * unit.1 := by
    rw [hunit, div_eq_iff hn'.ne']
    norm_cast
  constructor
  · intro h
    exact ⟨hlower.1 h.lower, hupper.1 h.upper, fun hedge => h.edge (hedge.imp hleft.2 hright.2)⟩
  · intro h
    exact ⟨hlower.2 h.lower, hupper.2 h.upper, fun hedge => h.edge (hedge.imp hleft.1 hright.1)⟩

/-- Ten of a place are one of the next. -/
def carried (c : Nat) (k : Int) : Scientific := if c = 10 then ⟨1, k + 1⟩ else ⟨c, k⟩

theorem value_carried (c : Nat) (k : Int) : (carried c k).value = c * 10 ^ k := by
  unfold carried
  split
  · rename_i hten
    rw [hten, Scientific.value, zpow_add₀ (by norm_num)]
    norm_num [mul_comm]
  · rfl

theorem digitCount_carried_le (c : Nat) (k : Int) :
    digitCount (carried c k).digits ≤ digitCount c := by
  unfold carried
  split
  · exact ((digitCount_le_iff one_pos).2 (by norm_num)).trans (digitCount_pos c)
  · exact le_rfl

theorem digitCount_carried_of_le (hc : c ≤ 10) (k : Int) :
    digitCount (carried c k).digits ≤ 1 := by
  rw [digitCount_le_iff one_pos]
  unfold carried
  split
  · norm_num
  · dsimp only
    omega

theorem onGrid?_eq (m : Nat) (e k : Int) : onGrid? m e k =
    (gridPoint? m (reachBelow m e) (quarterUnit e k).1 (quarterUnit e k).2).map (carried · k) := by
  unfold onGrid? reachBelow
  rw [twoPow_eq]
  rfl

theorem onGrid?_eq_none (hm : 0 < m) (h : onGrid? m e k = none) (c : Nat) :
    ¬RoundsTo m e (c * 10 ^ k) := by
  rw [onGrid?_eq, Option.map_eq_none_iff] at h
  rw [roundsTo_iff_between hm]
  exact gridPoint?_eq_none h c

theorem grid_step (e k : Int) :
    (10 ^ k : ℚ) = (quarterUnit e k).2 * (2 ^ (e - 2) / (quarterUnit e k).1) := by
  rw [mul_div_left_comm, ← quarterUnit_eq, mul_div_cancel₀ _ (by positivity)]

theorem grid_sub (m c : Nat) (e k : Int) : (c * 10 ^ k - m * 2 ^ e : ℚ) =
    (((c * (quarterUnit e k).2 : Nat) : Int) - (4 * m * (quarterUnit e k).1 : Nat) : Int) *
      (2 ^ (e - 2) / (quarterUnit e k).1) := by
  have hn : ((quarterUnit e k).1 : ℚ) ≠ 0 := by exact_mod_cast (quarterUnit_pos e k).1.ne'
  rw [grid_step, ← four_mul_quarter e]
  push_cast
  field_simp

/-- A decimal found on a grid rounds to the float, at most a step above it and as close as any. -/
theorem onGrid?_eq_some (hm : 0 < m) (h : onGrid? m e k = some s) :
    ∃ c : Nat, s = carried c k ∧ RoundsTo m e (c * 10 ^ k) ∧
      (c * 10 ^ k : ℚ) ≤ m * 2 ^ e + 10 ^ k ∧
      ∀ p : Nat, RoundsTo m e (p * 10 ^ k) →
        |(c * 10 ^ k - m * 2 ^ e : ℚ)| ≤ |(p * 10 ^ k - m * 2 ^ e : ℚ)| := by
  rw [onGrid?_eq, Option.map_eq_some_iff] at h
  obtain ⟨c, hc, rfl⟩ := h
  obtain ⟨hn, hd⟩ := quarterUnit_pos e k
  obtain ⟨hbetween, hnext⟩ :=
    gridPoint?_eq_some hn hd (reachBelow_bounds hm e).1 (reachBelow_bounds hm e).2 hc
  have hpos : (0 : ℚ) ≤ 2 ^ (e - 2) / (quarterUnit e k).1 := by positivity
  refine ⟨c, rfl, (roundsTo_iff_between hm).2 hbetween, ?_, ?_⟩
  · have hstep : ((c * (quarterUnit e k).2 : Nat) : Int) - (4 * m * (quarterUnit e k).1 : Nat) ≤
        (quarterUnit e k).2 := by omega
    rw [← sub_le_iff_le_add', grid_sub]
    conv_rhs => rw [grid_step e k]
    exact mul_le_mul_of_nonneg_right (by exact_mod_cast hstep) hpos
  · intro p hp
    rw [grid_sub, grid_sub, abs_mul, abs_mul, ← Int.cast_abs, ← Int.cast_abs]
    refine mul_le_mul_of_nonneg_right ?_ (abs_nonneg _)
    exact_mod_cast gridPoint?_closest hd hc ((roundsTo_iff_between hm).1 hp)

end Search

section Shortest

variable {m : Nat} {e k : Int}

/-- A grid that is finer than the interval has a point in it. -/
theorem exists_roundsTo (hm : 0 < m) (hk : (10 ^ k / 2 ^ (e - 2) : ℚ) < 2 + reachBelow m e) :
    ∃ c : Nat, RoundsTo m e (c * 10 ^ k) := by
  have hstep : (0 : ℚ) < 10 ^ k / 2 ^ (e - 2) := by positivity
  have hpos : (0 : ℚ) < reachBelow m e := by exact_mod_cast (reachBelow_bounds hm e).1
  have hmul (c : Nat) : (c * 10 ^ k / 2 ^ (e - 2) : ℚ) = c * (10 ^ k / 2 ^ (e - 2)) :=
    mul_div_assoc ..
  generalize (10 ^ k / 2 ^ (e - 2) : ℚ) = g at *
  have hfloor : ⌊4 * m / g⌋₊ * g ≤ 4 * m := by
    rw [← le_div_iff₀ hstep]
    exact Nat.floor_le (by positivity)
  have hnext : 4 * m < (⌊4 * m / g⌋₊ + 1) * g := by
    rw [← div_lt_iff₀ hstep]
    exact Nat.lt_floor_add_one _
  by_cases hdown : 4 * m - reachBelow m e < ⌊4 * m / g⌋₊ * g
  · refine ⟨⌊4 * m / g⌋₊, ?_, ?_, ?_⟩
    all_goals rw [hmul]
    · exact hdown.le
    · linarith
    · rintro (htie | htie) <;> linarith
  · refine ⟨⌊4 * m / g⌋₊ + 1, ?_, ?_, ?_⟩
    all_goals
      rw [hmul]
      push_cast
    · linarith
    · linarith
    · rintro (htie | htie) <;> linarith

/-- A grid with 17 digits is that fine. -/
theorem exists_roundsTo_of_le (hc : Canonical m e) (hm : 0 < m) (hk : 10 ^ k ≤ (m * 2 ^ e : ℚ)) :
    ∃ c : Nat, RoundsTo m e (c * 10 ^ (k - 16)) := by
  apply exists_roundsTo hm
  have hquarters : (10 ^ k / 2 ^ (e - 2) : ℚ) ≤ 4 * m := by
    rw [div_le_iff₀ (by positivity)]
    calc (10 ^ k : ℚ) ≤ m * (4 * 2 ^ (e - 2)) := by rwa [four_mul_quarter]
      _ = 4 * m * 2 ^ (e - 2) := by ring
  have hgrid : (10 ^ (k - 16) / 2 ^ (e - 2) : ℚ) = 10 ^ k / 2 ^ (e - 2) / 10 ^ 16 := by
    rw [zpow_sub₀ (by norm_num)]
    norm_cast
    ring
  have hwide : 4 * m < 10 ^ 16 * (2 + reachBelow m e) := by
    have hlt := hc.lt
    unfold reachBelow
    split <;> omega
  have hwide' : (4 * m : ℚ) < 10 ^ 16 * (2 + reachBelow m e) := by exact_mod_cast hwide
  rw [hgrid, div_lt_iff₀ (by norm_num)]
  linarith

def leading (m : Nat) (e : Int) : Int := magnitude (m * twoPow e.toNat) (twoPow (-e).toNat)

theorem leading_bounds (hm : 0 < m) (e : Int) :
    10 ^ leading m e ≤ (m * 2 ^ e : ℚ) ∧ (m * 2 ^ e : ℚ) < 10 ^ (leading m e + 1) := by
  have hvalue : (m * 2 ^ e : ℚ) = (m * twoPow e.toNat : Nat) / (twoPow (-e).toNat : Nat) := by
    rw [twoPow_eq, twoPow_eq, zpow_eq_div (by norm_num)]
    push_cast
    ring
  rw [hvalue]
  refine magnitude_bounds (Nat.mul_pos hm ?_) ?_
  · rw [twoPow_eq]
    positivity
  · rw [twoPow_eq]
    positivity

theorem findSome?_range_eq_some {α : Type} {f : Nat → Option α} {n : Nat} {a : α}
    (h : (List.range n).findSome? f = some a) : ∃ i, f i = some a ∧ ∀ j < i, f j = none := by
  induction n with
  | zero => contradiction
  | succ n ih =>
    rw [List.range_succ, List.findSome?_append] at h
    cases hprev : (List.range n).findSome? f with
    | some b =>
      rw [hprev, Option.some_or] at h
      exact ih (hprev.trans h)
    | none =>
      rw [hprev, Option.none_or, List.findSome?_singleton] at h
      exact ⟨n, h, fun j hj => List.findSome?_eq_none_iff.1 hprev j (List.mem_range.2 hj)⟩

/-- The first grid with a point in the interval gives the digits. -/
theorem exists_grid (hc : Canonical m e) (hm : 0 < m) :
    ∃ i : Nat, onGrid? m e (leading m e - i) = some (shortest m e) ∧
      ∀ j < i, onGrid? m e (leading m e - (j : Nat)) = none := by
  have hshortest : shortest m e =
    ((List.range 17).findSome? fun i : Nat => onGrid? m e (leading m e - i)).getD ⟨m, e⟩ := rfl
  cases hfound : (List.range 17).findSome? fun i : Nat => onGrid? m e (leading m e - i) with
  | some s =>
    rw [hshortest, hfound, Option.getD_some]
    exact findSome?_range_eq_some hfound
  | none =>
    obtain ⟨c, h⟩ := exists_roundsTo_of_le hc hm (leading_bounds hm e).1
    have hnone := List.findSome?_eq_none_iff.1 hfound 16 (List.mem_range.2 (by norm_num))
    exact absurd h (onGrid?_eq_none hm hnone c)

/-- The shortest decimal of a float rounds to it. -/
theorem roundsTo_shortest (hc : Canonical m e) (hm : 0 < m) :
    RoundsTo m e (shortest m e).value := by
  obtain ⟨i, hfound, -⟩ := exists_grid hc hm
  obtain ⟨c, hdigits, h, -⟩ := onGrid?_eq_some hm hfound
  rw [hdigits, value_carried]
  exact h

theorem mul_zpow_lt_iff {c n : Nat} : (c * 10 ^ k : ℚ) < 10 ^ (n + k) ↔ c < 10 ^ n := by
  rw [zpow_add₀ (by norm_num), mul_lt_mul_iff_left₀ (by positivity), zpow_natCast]
  norm_cast

section Coarser

variable {g t : Int} {q : ℚ}

theorem not_roundsTo_of_none (hm : 0 < m) (hnone : onGrid? m e g = none) (hg : g ≤ t) (c : Nat) :
    ¬RoundsTo m e (c * 10 ^ t) := by
  have hpoint := onGrid?_eq_none hm hnone (c * 10 ^ (t - g).toNat)
  have hsplit : t = (t - g).toNat + g := by omega
  rw [hsplit, zpow_add₀ (by norm_num), zpow_natCast, ← mul_assoc]
  exact_mod_cast hpoint

theorem lt_of_none (hm : 0 < m) (hnone : onGrid? m e g = none) (hg : g ≤ t)
    (hself : (m * 2 ^ e : ℚ) < 10 ^ t) (h : RoundsTo m e q) : q < 10 ^ t := by
  have hpower := not_roundsTo_of_none hm hnone hg 1
  rw [Nat.cast_one, one_mul] at hpower
  by_contra hle
  exact hpower ((roundsTo_self hm e).between h hself.le (not_lt.1 hle))

theorem le_of_none (hm : 0 < m) (hnone : onGrid? m e g = none) (hg : g ≤ t)
    (hself : 10 ^ t ≤ (m * 2 ^ e : ℚ)) (h : RoundsTo m e q) : 10 ^ t ≤ q := by
  have hpower := not_roundsTo_of_none hm hnone hg 1
  rw [Nat.cast_one, one_mul] at hpower
  by_contra hlt
  exact hpower (h.between (roundsTo_self hm e) (not_le.1 hlt).le hself)

theorem lt_pow_of_none {c n : Nat} (hm : 0 < m) (hnone : onGrid? m e g = none) (hg : g ≤ n + k)
    (hself : (m * 2 ^ e : ℚ) < 10 ^ (n + k)) (h : RoundsTo m e (c * 10 ^ k)) : c < 10 ^ n :=
  mul_zpow_lt_iff.1 (lt_of_none hm hnone hg hself h)

/-- A grid without a point leaves only decimals of finer grids, which take more digits. -/
theorem pow_le_of_none {c n : Nat} (hm : 0 < m) (hnone : onGrid? m e g = none) (hn : 0 < n)
    (hself : 10 ^ (n + (g - 1)) ≤ (m * 2 ^ e : ℚ)) (h : RoundsTo m e (c * 10 ^ k)) :
    10 ^ n ≤ c := by
  have hle := le_of_none hm hnone (by omega) hself h
  have hk : k ≤ g - 1 := by
    by_contra hk
    exact not_roundsTo_of_none hm hnone (by omega) c h
  by_contra hsmall
  have hlt : (c * 10 ^ (g - 1) : ℚ) < 10 ^ (n + (g - 1)) :=
    mul_zpow_lt_iff.2 (Nat.not_le.1 hsmall)
  have hmono : (c * 10 ^ k : ℚ) ≤ c * 10 ^ (g - 1) :=
    mul_le_mul_of_nonneg_left (zpow_le_zpow_right₀ (by norm_num) hk) (by positivity)
  linarith

end Coarser

/-- No decimal with fewer digits rounds to the float. -/
theorem digitCount_shortest_le (hc : Canonical m e) (hm : 0 < m) {c : Nat}
    (h : RoundsTo m e (c * 10 ^ k)) : digitCount (shortest m e).digits ≤ digitCount c := by
  obtain ⟨hlower, hupper⟩ := leading_bounds hm e
  obtain ⟨i, hfound, hfirst⟩ := exists_grid hc hm
  obtain ⟨p, hdigits, hp, hnext, -⟩ := onGrid?_eq_some hm hfound
  generalize leading m e = l at *
  rw [hdigits]
  cases i with
  | zero =>
    -- the number lies below `10 ^ (l + 1)`, and so its neighbour is at most that
    have hten : p ≤ 10 := by
      rw [Nat.cast_zero, sub_zero] at hnext
      rw [zpow_add₀ (by norm_num), zpow_one] at hupper
      have hlt : (p * 10 ^ l : ℚ) < 11 * 10 ^ l := by linarith
      have hp' : (p : ℚ) < 11 := lt_of_mul_lt_mul_right hlt (by positivity)
      have : p < 11 := by exact_mod_cast hp'
      omega
    exact (digitCount_carried_of_le hten _).trans (digitCount_pos c)
  | succ i =>
    have hnone := hfirst i (Nat.lt_succ_self i)
    have htop : l + 1 = (i + 2 : Nat) + (l - (i + 1 : Nat)) := by omega
    have hleading : l = (i + 1 : Nat) + (l - i - 1) := by omega
    have hmost : p < 10 ^ (i + 2) := lt_pow_of_none hm hnone (by omega) (htop ▸ hupper) hp
    have hleast : 10 ^ (i + 1) ≤ c := by
      refine pow_le_of_none hm hnone (Nat.succ_pos i) ?_ h
      rwa [← hleading]
    calc digitCount _ ≤ digitCount p := digitCount_carried_le p _
      _ ≤ i + 2 := (digitCount_le_iff (by omega)).2 hmost
      _ ≤ digitCount c := by
        by_contra hless
        have := (digitCount_le_iff (Nat.succ_pos i)).1 (by omega : digitCount c ≤ i + 1)
        omega

example : shortest 7205759403792794 (-56) = ⟨1, -1⟩ := by decide

/-- No other decimal with the same power of ten that rounds to the float is closer to it. -/
theorem abs_shortest_sub_le (hc : Canonical m e) (hm : 0 < m) {c : Nat}
    (h : RoundsTo m e (c * 10 ^ (shortest m e).exponent)) :
    |(shortest m e).value - m * 2 ^ e| ≤
      |(c * 10 ^ (shortest m e).exponent - m * 2 ^ e : ℚ)| := by
  obtain ⟨i, hfound, -⟩ := exists_grid hc hm
  obtain ⟨p, hdigits, -, -, hclosest⟩ := onGrid?_eq_some hm hfound
  obtain ⟨j, hj⟩ : ∃ j : Nat, (shortest m e).exponent = j + (leading m e - i) := by
    rw [hdigits, carried]
    split
    · exact ⟨1, by push_cast; ring⟩
    · exact ⟨0, by push_cast; ring⟩
  have hgrid : (c * 10 ^ (shortest m e).exponent : ℚ) =
      (c * 10 ^ j : Nat) * 10 ^ (leading m e - i) := by
    rw [hj, zpow_add₀ (by norm_num), zpow_natCast, ← mul_assoc]
    push_cast
    rfl
  rw [hgrid] at h ⊢
  rw [hdigits, value_carried]
  exact hclosest _ h

end Shortest

end Decimal
end LateBound
