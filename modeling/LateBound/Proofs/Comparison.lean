import LateBound.Operator
import LateBound.Proofs.Widening
/-! Comparisons of numbers. The orderings are those of the float readings, while equality goes by
the difference: it takes numbers less than `2 ^ -52 - 2 ^ -106` apart for equal, too. Integers that
are widened to different floats are never that close. -/
namespace LateBound
namespace Operator

open Binary

/-- A difference of fewer units, less than `2 ^ -52 - 2 ^ -106`, is rounded to less than the
tolerance. -/
def reach : Nat := unitsOf (2 ^ 54 - 1) (-106)

def SameInfinity (x y : Float) : Prop := x.isFinite = false ∧ (x == y) = true

theorem units_tolerance : units tolerance = unitsOf (2 ^ 54) (-106) := by
  have hmove : unitsOf (2 ^ 52 * 2 ^ 2) (-106) = unitsOf (2 ^ 52) (-104) :=
    unitsOf_mul_pow (2 ^ 52) 2 (by norm_num)
  have hunpack : tolerance.toModel.unpack = .finite .positive (2 ^ 52) (-104) (by norm_num) := rfl
  have hfour : (2 ^ 54 : Nat) = 2 ^ 52 * 2 ^ 2 := by norm_num
  rw [units, hunpack, hfour, hmove]
  rfl

theorem reach_le_unit : reach ≤ unitsOf 1 0 := by
  have hmove : unitsOf (1 * 2 ^ 106) (-106) = unitsOf 1 0 := unitsOf_mul_pow 1 106 (by norm_num)
  rw [← hmove]
  exact (unitsOf_strictMono (-106)).monotone (by norm_num)

theorem tolerance_le_top : unitsOf (2 ^ 54) (-106) ≤ top := by
  have hmove : unitsOf (2 ^ 53 * 2 ^ 1) (-106) = unitsOf (2 ^ 53) (-105) :=
    unitsOf_mul_pow (2 ^ 53) 1 (by norm_num)
  have htwice : (2 ^ 54 : Nat) = 2 ^ 53 * 2 ^ 1 := by norm_num
  rw [htwice, hmove]
  exact unitsOf_mono_exponent (2 ^ 53) (by norm_num)

theorem reach_pos : 0 < reach := unitsOf_pos (by norm_num) (-106)

theorem nearest_lt_tolerance_iff (n : Nat) : nearest n < unitsOf (2 ^ 54) (-106) ↔ n < reach := by
  rw [reach, unitsOf_eq, unitsOf_eq]
  exact nearest_lt_iff n _

section Difference

open Float.Model Float.Model.UnpackedFloat

variable {u v : UnpackedFloat} {x y : Float}

theorem isNaN_sub (hu : u.isFinite = true) (hv : v.isFinite = true) :
    (UnpackedFloat.sub .binary64 u v).isNaN = false := by
  cases u with
  | notANumber | infinity _ => contradiction
  | zero s =>
    cases v with
    | notANumber | infinity _ => contradiction
    | zero t => cases s <;> cases t <;> rfl
    | finite t n f hn => rfl
  | finite s m e hm =>
    cases v with
    | notANumber | infinity _ => contradiction
    | zero t => rfl
    | finite t n f hn => exact isNaN_normalize _ _ _

theorem exists_sub_eq_infinity (hu : u.isNaN = false) (hv : v.isNaN = false)
    (hinfinite : u.isFinite = false ∨ v.isFinite = false) (hne : multiple u ≠ multiple v) :
    ∃ s, UnpackedFloat.sub .binary64 u v = .infinity s := by
  cases u with
  | notANumber => contradiction
  | infinity s =>
    cases v with
    | notANumber => contradiction
    | infinity t =>
      cases s <;> cases t
      · exact absurd rfl hne
      · exact ⟨_, rfl⟩
      · exact ⟨_, rfl⟩
      · exact absurd rfl hne
    | zero t => exact ⟨s, rfl⟩
    | finite t n f hn => exact ⟨s, rfl⟩
  | zero s | finite s m e hm =>
    cases v with
    | notANumber => contradiction
    | infinity t => exact ⟨-t, rfl⟩
    | zero t | finite t n f hn => exact absurd hinfinite (by simp [UnpackedFloat.isFinite])

theorem units_of_finite (h : x.isFinite = true) : (units x).natAbs + reach ≤ top := by
  have hreach : reach ≤ unitsOf 1 971 :=
    le_trans reach_le_unit (unitsOf_mono_exponent 1 (by norm_num))
  have hbelow : (units x).natAbs + unitsOf 1 971 ≤ top := multiple_of_finite (inRange_unpack _) h
  omega

theorem not_sameInfinity_iff (hx : x.isNaN = false) (hy : y.isNaN = false) :
    ¬ SameInfinity x y ↔ x.isFinite = true ∨ units x ≠ units y := by
  rw [SameInfinity, beq_iff_units hx hy]
  cases x.isFinite <;> simp

theorem reach_le_of_infinite (hx : x.isNaN = false) (hy : y.isNaN = false)
    (hinfinite : x.isFinite = false ∨ y.isFinite = false) (h : ¬ SameInfinity x y) :
    reach ≤ (units x - units y).natAbs := by
  rw [not_sameInfinity_iff hx hy] at h
  have hreach : reach ≤ top := le_trans reach_le_unit
    (unitsOf_lt_top (by norm_num) (by norm_num)).le
  by_cases hfinite : x.isFinite = true
  · have hless := units_of_finite hfinite
    have hsize := units_of_infinite hy (hinfinite.resolve_left (by simp [hfinite]))
    omega
  · have hsize := units_of_infinite hx (Bool.eq_false_of_not_eq_true hfinite)
    by_cases hfinite' : y.isFinite = true
    · have hless := units_of_finite hfinite'
      omega
    · have hsize' := units_of_infinite hy (Bool.eq_false_of_not_eq_true hfinite')
      have hne := h.resolve_left hfinite
      omega

/-- Equality within the tolerance is said by the exact difference, infinity being the number after
all finite ones. -/
theorem abs_sub_lt_tolerance_iff (hx : x.isNaN = false) (hy : y.isNaN = false)
    (h : ¬ SameInfinity x y) :
    (x - y).abs < tolerance ↔ (units x - units y).natAbs < reach := by
  have htolerance : tolerance.isNaN = false := rfl
  have htop := tolerance_le_top
  by_cases hinfinite : x.isFinite = false ∨ y.isFinite = false
  · have hfar := reach_le_of_infinite hx hy hinfinite h
    have hpos := reach_pos
    obtain ⟨s, hsub⟩ := exists_sub_eq_infinity hx hy hinfinite (by change units x ≠ units y; omega)
    have hunpack : (x - y).toModel.unpack = .infinity s := by
      change UnpackedFloat.unpack .binary64
        (UnpackedFloat.pack .binary64 (UnpackedFloat.sub .binary64 _ _)) = _
      rw [hsub]
      exact unpack_packedInfinity s
    have hnumber : (x - y).isNaN = false := by
      change (x - y).toModel.unpack.isNaN = false
      rw [hunpack]
      rfl
    have hsize : (units (x - y)).natAbs = top := by
      rw [units, hunpack]
      exact multiple_of_infinite rfl rfl
    rw [lt_iff_units (isNaN_abs hnumber) htolerance, units_tolerance, units_abs, hsize]
    omega
  · have hfinite : x.isFinite = true ∧ y.isFinite = true := by simpa using hinfinite
    have hnumber : (x - y).isNaN = false := isNaN_unpack_pack (isNaN_sub hfinite.1 hfinite.2)
    rw [lt_iff_units (isNaN_abs hnumber) htolerance, units_tolerance, units_abs,
      units_sub hfinite.1 hfinite.2,
      natAbs_rounded, ← nearest_lt_tolerance_iff]
    omega

end Difference

section Readings

variable {op : Operator} {a b : Number}

/-- A comparison is one of the float readings, integers on both sides included. -/
theorem evaluate_comparison (h : op.isComparison = true) (a b : Number) :
    op.evaluate (.number a) (.number b) = .bool (op.compare a.toFloat b.toFloat) := by
  cases a <;> cases b
  all_goals
    cases op with
    | add | sub | mul | div | mod => contradiction
    | _ => rfl

def Holds (op : Operator) (a b : Number) : Prop := op.evaluate (.number a) (.number b) = .bool true

theorem holds_iff (h : op.isComparison = true) :
    op.Holds a b ↔ op.compare a.toFloat b.toFloat = true := by
  rw [Holds, evaluate_comparison h]
  simp

theorem holds_ne_iff : ne.Holds a b ↔ ¬ eq.Holds a b := by
  rw [holds_iff rfl, holds_iff rfl]
  simp [compare]

variable (ha : a.toFloat.isNaN = false) (hb : b.toFloat.isNaN = false)
include ha hb

theorem holds_lt_iff : lt.Holds a b ↔ units a.toFloat < units b.toFloat := by
  rw [holds_iff rfl, ← lt_iff_units ha hb]
  exact decide_eq_true_iff

theorem holds_gt_iff : gt.Holds a b ↔ units b.toFloat < units a.toFloat := by
  rw [holds_iff rfl, ← lt_iff_units hb ha]
  exact decide_eq_true_iff

theorem holds_le_iff : le.Holds a b ↔ units a.toFloat ≤ units b.toFloat := by
  rw [holds_iff rfl, ← le_iff_units ha hb]
  exact decide_eq_true_iff

theorem holds_ge_iff : ge.Holds a b ↔ units b.toFloat ≤ units a.toFloat := by
  rw [holds_iff rfl, ← le_iff_units hb ha]
  exact decide_eq_true_iff

theorem holds_eq_iff (h : ¬ SameInfinity a.toFloat b.toFloat) :
    eq.Holds a b ↔ (units a.toFloat - units b.toFloat).natAbs < reach := by
  rw [holds_iff rfl, ← abs_sub_lt_tolerance_iff ha hb h]
  exact decide_eq_true_iff

end Readings

/-- Different numbers, too close for the tolerance to tell apart. -/
def Close (x y : Float) : Prop := units x ≠ units y ∧ (units x - units y).natAbs < reach

theorem close_iff {x y : Float} (hx : x.isNaN = false) (hy : y.isNaN = false)
    (h : ¬ SameInfinity x y) :
    Close x y ↔ ¬ (x == y) = true ∧ (x - y).abs < tolerance := by
  rw [Close, beq_iff_units hx hy, abs_sub_lt_tolerance_iff hx hy h]

/-- The comparisons of two numbers other than NaN agree with each other. Exactly one of `<`, `==`
and `>` is true, unless the numbers are different but close: then they count as equal as well as
ordered. What `==` makes of an infinity and itself, whose difference is NaN, is left open. -/
theorem comparisons_agree (a b : Number) (ha : a.toFloat.isNaN = false)
    (hb : b.toFloat.isNaN = false) :
    (∀ op : Operator, op.isComparison = true → ∃ t, op.evaluate (.number a) (.number b) = .bool t) ∧
    (ne.Holds a b ↔ ¬ eq.Holds a b) ∧ (le.Holds a b ↔ ¬ gt.Holds a b) ∧
    (ge.Holds a b ↔ ¬ lt.Holds a b) ∧
    ¬ (lt.Holds a b ∧ gt.Holds a b) ∧
    (¬ SameInfinity a.toFloat b.toFloat → ¬ Close a.toFloat b.toFloat →
      (lt.Holds a b ∧ ¬ eq.Holds a b ∧ ¬ gt.Holds a b ∨ ¬ lt.Holds a b ∧ eq.Holds a b ∧
        ¬ gt.Holds a b ∨
        ¬ lt.Holds a b ∧ ¬ eq.Holds a b ∧ gt.Holds a b) ∧
      (le.Holds a b ↔ lt.Holds a b ∨ eq.Holds a b) ∧ (ge.Holds a b ↔ gt.Holds a b ∨ eq.Holds a b)) ∧
    (¬ SameInfinity a.toFloat b.toFloat → Close a.toFloat b.toFloat →
      eq.Holds a b ∧ (lt.Holds a b ∨ gt.Holds a b) ∧
      (le.Holds a b ↔ lt.Holds a b) ∧ (ge.Holds a b ↔ gt.Holds a b)) := by
  have hlt := holds_lt_iff ha hb
  have hgt := holds_gt_iff ha hb
  have hle := holds_le_iff ha hb
  have hge := holds_ge_iff ha hb
  have hpos := reach_pos
  refine ⟨fun op h => ⟨_, evaluate_comparison h a b⟩, holds_ne_iff, ?_, ?_, ?_, ?_, ?_⟩
  · rw [hle, hgt, Int.not_lt]
  · rw [hge, hlt, Int.not_lt]
  · rw [hlt, hgt]
    omega
  · intro hsame hfar
    rw [Close] at hfar
    rw [holds_eq_iff ha hb hsame, hlt, hgt, hle, hge]
    omega
  · intro hsame hclose
    rw [Close] at hclose
    rw [holds_eq_iff ha hb hsame, hlt, hgt, hle, hge]
    omega

/-- Zero and `2 ^ -53` are close, one and one and a half are not. -/
theorem comparisons_agree_around_tolerance :
    let tiny : Number := .float (Float.ofBits 0x3ca0000000000000)
    (Close (Number.int 0).toFloat tiny.toFloat ∧ eq.Holds (.int 0) tiny ∧
      (le.Holds (.int 0) tiny ↔ lt.Holds (.int 0) tiny)) ∧
    (¬ Close (Number.int 1).toFloat (Number.float 1.5).toFloat ∧
      (le.Holds (.int 1) (.float 1.5) ↔ lt.Holds (.int 1) (.float 1.5) ∨
        eq.Holds (.int 1) (.float 1.5))) := by
  intro tiny
  have hzero : (Number.int 0).toFloat.isNaN = false := isNaN_ofInt64 0
  have hone : (Number.int 1).toFloat.isNaN = false := isNaN_ofInt64 1
  have htiny : tiny.toFloat.isNaN = false := by decide +kernel
  have hmore : (Number.float 1.5).toFloat.isNaN = false := by decide +kernel
  have hfinite : ¬ SameInfinity (Number.int 0).toFloat tiny.toFloat :=
    (not_sameInfinity_iff hzero htiny).2 (.inl (isFinite_ofInt64 0))
  have hfinite' : ¬ SameInfinity (Number.int 1).toFloat (Number.float 1.5).toFloat :=
    (not_sameInfinity_iff hone hmore).2 (.inl (isFinite_ofInt64 1))
  have hclose : Close (Number.int 0).toFloat tiny.toFloat :=
    (close_iff hzero htiny hfinite).2 (by decide +kernel)
  have hfar : ¬ Close (Number.int 1).toFloat (Number.float 1.5).toFloat :=
    mt (close_iff hone hmore hfinite').1 (by decide +kernel)
  obtain ⟨-, -, -, -, -, -, hagree⟩ := comparisons_agree (.int 0) tiny hzero htiny
  obtain ⟨-, -, -, -, -, hagree', -⟩ := comparisons_agree (.int 1) (.float 1.5) hone hmore
  exact ⟨⟨hclose, (hagree hfinite hclose).1, (hagree hfinite hclose).2.2.1⟩, hfar,
    (hagree' hfinite' hfar).2.1⟩

/-- Zero is both less than `2 ^ -53` and equal to it, and `2 ^ -53` is equal to zero without being
at most zero. -/
theorem lt_and_eq_of_tiny :
    let zero : Value := .float (Float.ofBits 0)
    let tiny : Value := .float (Float.ofBits 0x3ca0000000000000)
    (Float.ofBits 0).isNaN = false ∧ (Float.ofBits 0x3ca0000000000000).isNaN = false ∧
      lt.evaluate zero tiny = .bool true ∧ eq.evaluate zero tiny = .bool true ∧
      eq.evaluate tiny zero = .bool true ∧ le.evaluate tiny zero = .bool false := by
  decide +kernel

/-- The comparison that integers have for an operator. -/
def exactly (op : Operator) (m n : Int) : Bool :=
  match op with
  | .lt => m < n
  | .gt => n < m
  | .le => m ≤ n
  | .ge => n ≤ m
  | .eq => m = n
  | .ne => m ≠ n
  | _ => false

section Integers

variable {op : Operator} {a b : Int64}

theorem natAbs_sub_lt_reach_iff (m n : Int) : (m * unitsOf 1 0 - n * unitsOf 1 0).natAbs < reach ↔
    m = n := by
  have hreach := reach_le_unit
  have hpos := reach_pos
  rw [← Int.sub_mul, Int.natAbs_mul, Int.natAbs_natCast]
  constructor
  · intro h
    by_contra hne
    have hle : 1 * unitsOf 1 0 ≤ (m - n).natAbs * unitsOf 1 0 := Nat.mul_le_mul_right _ (by omega)
    omega
  · rintro rfl
    simpa using hpos

theorem evaluate_ints (h : op.isComparison = true) (a b : Int64) :
    op.evaluate (.int a) (.int b) =
      .bool (op.exactly (nearestInt a.toInt) (nearestInt b.toInt)) := by
  have ha : (Number.int a).toFloat.isNaN = false := isNaN_ofInt64 a
  have hb : (Number.int b).toFloat.isNaN = false := isNaN_ofInt64 b
  have hfinite : (Number.int a).toFloat.isFinite = true := isFinite_ofInt64 a
  have hequal : eq.Holds (.int a) (.int b) ↔ nearestInt a.toInt = nearestInt b.toInt := by
    rw [holds_eq_iff ha hb ((not_sameInfinity_iff ha hb).2 (.inl hfinite)), Number.toFloat,
      Number.toFloat,
      units_widened, units_widened, natAbs_sub_lt_reach_iff]
  have hcompare : op.compare (Number.int a).toFloat (Number.int b).toFloat =
      op.exactly (nearestInt a.toInt) (nearestInt b.toInt) := by
    rw [Bool.eq_iff_iff, ← holds_iff h]
    cases op with
    | add | sub | mul | div | mod => contradiction
    | lt => simpa [exactly] using (holds_lt_iff ha hb).trans units_ofInt64_lt_iff
    | gt => simpa [exactly] using (holds_gt_iff ha hb).trans units_ofInt64_lt_iff
    | le => simpa [exactly] using (holds_le_iff ha hb).trans units_ofInt64_le_iff
    | ge => simpa [exactly] using (holds_ge_iff ha hb).trans units_ofInt64_le_iff
    | eq => simpa [exactly] using hequal
    | ne => simpa [exactly, holds_ne_iff] using not_congr hequal
  rw [← hcompare]
  exact evaluate_comparison h (.int a) (.int b)

theorem exactly_congr {m n m' n' : Int} (hlt : m < n ↔ m' < n') (hgt : n < m ↔ n' < m') :
    op.exactly m n = op.exactly m' n' := by
  cases op
  all_goals simp only [exactly, decide_eq_decide]
  all_goals omega

/-- Rounding keeps the order of two integers that it does not make one. -/
theorem exactly_nearestInt (h : ¬ Merged a b) :
    op.exactly (nearestInt a.toInt) (nearestInt b.toInt) = op.exactly a.toInt b.toInt := by
  have hapart (hequal : nearestInt a.toInt = nearestInt b.toInt) : a.toInt = b.toInt := by
    by_contra hne
    exact h ⟨fun hab => hne (congrArg _ hab), beq_ofInt64_iff.2 hequal⟩
  have hmono (hle : a.toInt ≤ b.toInt) := nearestInt_mono hle
  have hmono' (hle : b.toInt ≤ a.toInt) := nearestInt_mono hle
  apply exactly_congr <;> omega

/-- Integers are compared in their own order unless they are merged, which takes two of at least `2
^ 53`. Then one counts as the other. -/
theorem integer_comparisons (h : op.isComparison = true) (a b : Int64) :
    (¬ Merged a b → op.evaluate (.int a) (.int b) = .bool (op.exactly a.toInt b.toInt)) ∧
    (Merged a b → op.evaluate (.int a) (.int b) = .bool (op.exactly a.toInt a.toInt) ∧
      2 ^ 53 ≤ a.toInt.natAbs ∧ 2 ^ 53 ≤ b.toInt.natAbs) := by
  constructor
  · intro hmerged
    rw [evaluate_ints h, exactly_nearestInt hmerged]
  · intro hmerged
    have hself : ¬ Merged a a := fun hm => hm.1 rfl
    rw [evaluate_ints h, ← beq_ofInt64_iff.1 hmerged.2, exactly_nearestInt hself]
    exact ⟨rfl, hmerged.le_natAbs, hmerged.symm.le_natAbs⟩

/-- Three is less than five, and `2 ^ 53` is not less than its successor, since the two are
merged. -/
theorem integer_comparisons_at_bound :
    lt.isComparison = true ∧ lt.evaluate (.int 3) (.int 5) = .bool true ∧
      Merged 9007199254740992 9007199254740993 ∧
      lt.evaluate (.int 9007199254740992) (.int 9007199254740993) = .bool false := by
  have hmerged : Merged 9007199254740992 9007199254740993 := ⟨by decide, by decide +kernel⟩
  have hapart : ¬ Merged 3 5 := fun h => absurd h.le_natAbs (by decide)
  exact ⟨rfl, (integer_comparisons rfl 3 5).1 hapart, hmerged,
    ((integer_comparisons rfl 9007199254740992 9007199254740993).2 hmerged).1⟩

/-- Above `2 ^ 53` an integer can be equal to its successor, and not be less. -/
theorem eq_successor_of_large :
    let a : Int64 := 9007199254740992
    a.toInt < (a + 1).toInt ∧ lt.evaluate (.int a) (.int (a + 1)) = .bool false ∧
      eq.evaluate (.int a) (.int (a + 1)) = .bool true := by
  decide +kernel

end Integers

end Operator
end LateBound
