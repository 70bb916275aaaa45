import LateBound.Operator
/-! Arithmetic on two integers. Sums, differences, products and quotients are the exact ones reduced
to 64 bits, and only a zero divisor is refused. Quotient and remainder make up the dividend again,
in 64 bits too, where the exact quotient may be out of range. -/
namespace LateBound

namespace Integer64

theorem quotient_mul_add_remainder (a b : Int64) : a / b * b + a % b = a := by
  rw [← Int64.toInt_inj]
  calc (a / b * b + a % b).toInt
    _ = (((a.toInt.tdiv b.toInt).bmod Int64.size * b.toInt).bmod Int64.size +
      a.toInt.tmod b.toInt).bmod
        Int64.size := by
      rw [Int64.toInt_add, Int64.toInt_mul, Int64.toInt_div, Int64.toInt_mod]
    _ = (a.toInt.tdiv b.toInt * b.toInt + a.toInt.tmod b.toInt).bmod Int64.size := by
      rw [Int.bmod_mul_bmod, Int.bmod_add_bmod]
    _ = a.toInt := by rw [Int.tdiv_mul_add_tmod, Int64.toInt_bmod_size]

theorem natAbs_remainder_lt (a : Int64) {b : Int64} (hb : b ≠ 0) :
    (a % b).toInt.natAbs < b.toInt.natAbs := by
  have hne : b.toInt ≠ 0 := fun h => hb (Int64.toInt_inj.1 h)
  rw [Int64.toInt_mod, Int.natAbs_tmod]
  exact Nat.mod_lt _ (Int.natAbs_pos.2 hne)

theorem sign_remainder (a b : Int64) : a % b = 0 ∨ (a % b).toInt.sign = a.toInt.sign := by
  rw [← Int64.toInt_inj, Int64.toInt_zero, ← Int.sign_eq_zero_iff_zero, Int64.toInt_mod,
    Int.sign_tmod]
  split
  · exact .inl rfl
  · exact .inr rfl

end Integer64

namespace Operator

variable {a b : Int64}

theorem evaluate_div (hb : b ≠ 0) : div.evaluate (.int a) (.int b) = .int (a / b) := if_neg hb

theorem evaluate_mod (hb : b ≠ 0) : mod.evaluate (.int a) (.int b) = .int (a % b) := if_neg hb

theorem guarded_eq_error_iff {n : Int64} :
    (if b = 0 then .error .divideByZero else .int n) = Value.error .divideByZero ↔ b = 0 := by
  rw [ite_eq_left_iff]
  have hvalue : Value.int n ≠ .error .divideByZero := nofun
  exact ⟨fun h => Decidable.byContradiction fun hb => hvalue (h hb), fun h hb => absurd h hb⟩

/-- Arithmetic on integers gives the exact result reduced to 64 bits, without error unless the
divisor is zero. A remainder is smaller than the divisor and has the sign of the dividend, and
dividend is quotient times divisor plus remainder. -/
theorem integer_arithmetic (a b : Int64) :
    (∃ n : Int64, add.evaluate (.int a) (.int b) = .int n ∧
      n.toInt = (a.toInt + b.toInt).bmod Int64.size) ∧
    (∃ n : Int64, sub.evaluate (.int a) (.int b) = .int n ∧
      n.toInt = (a.toInt - b.toInt).bmod Int64.size) ∧
    (∃ n : Int64, mul.evaluate (.int a) (.int b) = .int n ∧
      n.toInt = (a.toInt * b.toInt).bmod Int64.size) ∧
    (div.evaluate (.int a) (.int b) = .error .divideByZero ↔ b = 0) ∧
    (mod.evaluate (.int a) (.int b) = .error .divideByZero ↔ b = 0) ∧
    (b ≠ 0 → ∃ q r : Int64, div.evaluate (.int a) (.int b) = .int q ∧
      mod.evaluate (.int a) (.int b) = .int r ∧
      q.toInt = (a.toInt.tdiv b.toInt).bmod Int64.size ∧
      r.toInt.natAbs < b.toInt.natAbs ∧ (r = 0 ∨ r.toInt.sign = a.toInt.sign) ∧
      add.evaluate (mul.evaluate (.int q) (.int b)) (.int r) = .int a) := by
  refine ⟨⟨a + b, rfl, Int64.toInt_add a b⟩, ⟨a - b, rfl, Int64.toInt_sub a b⟩,
    ⟨a * b, rfl, Int64.toInt_mul a b⟩,
    guarded_eq_error_iff, guarded_eq_error_iff, fun hb => ?_⟩
  have hless := Integer64.natAbs_remainder_lt a hb
  have hsign := Integer64.sign_remainder a b
  have hlaw : add.evaluate (mul.evaluate (.int (a / b)) (.int b)) (.int (a % b)) = .int a :=
    congrArg Value.int (Integer64.quotient_mul_add_remainder a b)
  exact ⟨a / b, a % b, evaluate_div hb, evaluate_mod hb, Int64.toInt_div a b, hless, hsign, hlaw⟩

/-- The least integer divided by `-1`: the exact quotient is out of range, and wraps back. -/
theorem integer_arithmetic_least :
    let a := Int64.minValue
    (-1 : Int64) ≠ 0 ∧ div.evaluate (.int a) (.int (-1)) = .int a ∧
      mod.evaluate (.int a) (.int (-1)) = .int 0 ∧
      add.evaluate (mul.evaluate (.int a) (.int (-1))) (.int 0) = .int a := by
  intro a
  have hb : (-1 : Int64) ≠ 0 := by decide
  obtain ⟨-, -, -, -, -, hdivided⟩ := integer_arithmetic a (-1)
  obtain ⟨q, r, hq, hr, hexact, hless, -, hlaw⟩ := hdivided hb
  have hquotient : q = a := Int64.toInt_inj.1 (hexact.trans (by decide))
  have hremainder : r = 0 := by
    have hone : (-1 : Int64).toInt.natAbs = 1 := by decide
    rw [hone, Nat.lt_one_iff, Int.natAbs_eq_zero] at hless
    exact Int64.toInt_inj.1 hless
  subst hquotient hremainder
  exact ⟨hb, hq, hr, hlaw⟩

end Operator

end LateBound
