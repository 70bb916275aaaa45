import LateBound.Proofs.Widening
import LateBound.Value.Identity
/-! The equality of collection items. Sameness of values is symmetric and transitive, and so is
equality of items, but for integers that are different and both equal to the float that they are
widened to. -/
namespace LateBound

namespace Number

variable {m n k : Number}

theorem same_comm (m n : Number) : m.same n = n.same m := by
  cases m with
  | int a =>
    cases n with
    | int b => exact Bool.beq_comm
    | float _ => rfl
  | float x =>
    cases n with
    | float y => exact Binary.float_beq_comm x y
    | int _ => rfl

theorem same_trans (h : m.same n = true) (h' : n.same k = true) : m.same k = true := by
  cases m with
  | int a =>
    cases n with
    | int b =>
      cases k with
      | int c => exact BEq.trans h h'
      | float _ => contradiction
    | float _ => contradiction
  | float x =>
    cases n with
    | float y =>
      cases k with
      | float z => exact Binary.float_beq_trans h h'
      | int _ => contradiction
    | int _ => contradiction

end Number

theorem Callable.same_comm (f g : Callable) : f.same g = g.same f := Bool.beq_comm

mutual

theorem Value.same_comm (a b : Value) : a.same b = b.same a := by
  cases a with
  | method g =>
    cases b with
    | method g' => exact MethodGroup.same_comm g g'
    | _ => rfl
  | number m =>
    cases b with
    | number n => exact Number.same_comm m n
    | _ => rfl
  | error e => cases b <;> rfl
  | _ =>
    cases b
    all_goals first | rfl | exact Bool.beq_comm

theorem MethodGroup.same_comm (g g' : MethodGroup) : g.same g' = g'.same g := by
  cases g with
  | unbound t m _ =>
    cases g' with
    | unbound t' m' _ => simp only [MethodGroup.same, Bool.beq_comm]
    | bound => rfl
  | bound v t m _ =>
    cases g' with
    | unbound => rfl
    | bound v' t' m' _ =>
      have htarget := Value.same_comm v v'
      simp only [MethodGroup.same, htarget, Bool.beq_comm]

end

mutual

theorem Value.same_trans {a b c : Value} (h : a.same b = true) (h' : b.same c = true) :
    a.same c = true := by
  cases a with
  | method g =>
    cases b with
    | method g' =>
      cases c with
      | method g'' => exact MethodGroup.same_trans (g := g) h h'
      | _ => contradiction
    | _ => contradiction
  | number m =>
    cases b with
    | number n =>
      cases c with
      | number k => exact Number.same_trans (m := m) h h'
      | _ => contradiction
    | _ => contradiction
  | error e => cases b <;> contradiction
  | _ =>
    cases b
    all_goals first | contradiction | skip
    all_goals cases c
    all_goals first | contradiction | rfl | exact BEq.trans h h'

theorem MethodGroup.same_trans {g g' g'' : MethodGroup} (h : g.same g' = true)
    (h' : g'.same g'' = true) :
    g.same g'' = true := by
  cases g with
  | unbound t m _ =>
    cases g' with
    | unbound t' m' _ =>
      cases g'' with
      | unbound t'' m'' _ =>
        obtain ⟨hkey, hname⟩ := Bool.and_eq_true_iff.1 h
        obtain ⟨hkey', hname'⟩ := Bool.and_eq_true_iff.1 h'
        exact Bool.and_eq_true_iff.2 ⟨BEq.trans hkey hkey', BEq.trans hname hname'⟩
      | bound => contradiction
    | bound => contradiction
  | bound v t m _ =>
    cases g' with
    | unbound => contradiction
    | bound v' t' m' _ =>
      cases g'' with
      | unbound => contradiction
      | bound v'' t'' m'' _ =>
        obtain ⟨howner, hname⟩ := Bool.and_eq_true_iff.1 h
        obtain ⟨howner', hname'⟩ := Bool.and_eq_true_iff.1 h'
        obtain ⟨htarget, hkey⟩ := Bool.and_eq_true_iff.1 howner
        obtain ⟨htarget', hkey'⟩ := Bool.and_eq_true_iff.1 howner'
        have howners := Bool.and_eq_true_iff.2
          ⟨Value.same_trans htarget htarget', BEq.trans hkey hkey'⟩
        exact Bool.and_eq_true_iff.2 ⟨howners, BEq.trans hname hname'⟩

end

namespace Payload

open Binary

variable {p q r : Payload}

theorem hostEqual_comm (p q : Payload) : p.hostEqual q = q.hostEqual p := by
  cases p with
  | boxed v =>
    cases q with
    | boxed v' => exact Value.same_comm v v'
    | _ => rfl
  | float x =>
    cases q with
    | int n | float y => exact float_beq_comm _ _
    | _ => rfl
  | int m =>
    cases q with
    | int n => exact Bool.beq_comm
    | float y => exact float_beq_comm _ _
    | _ => rfl
  | _ =>
    cases q
    all_goals first | rfl | exact Bool.beq_comm

def Bridged (p q r : Payload) : Prop := ∃ m x n, p = .int m ∧ q = .float x ∧ r = .int n ∧ Merged m n

/-- Equality goes by one reading of numbers, that of floats, except between two integers. -/
theorem hostEqual_trans (h : p.hostEqual q = true) (h' : q.hostEqual r = true)
    (hb : ¬ Bridged p q r) :
    p.hostEqual r = true := by
  cases p with
  | boxed v =>
    cases q with
    | boxed v' =>
      cases r with
      | boxed v'' => exact Value.same_trans (a := v) h h'
      | _ => contradiction
    | _ => contradiction
  | float x =>
    cases q with
    | float y =>
      cases r with
      | int k | float z => exact float_beq_trans h h'
      | _ => contradiction
    | int n =>
      cases r with
      | float z => exact float_beq_trans h h'
      | int k =>
        obtain rfl : n = k := eq_of_beq h'
        exact h
      | _ => contradiction
    | _ => contradiction
  | int m =>
    cases q with
    | int n =>
      obtain rfl : m = n := eq_of_beq h
      exact h'
    | float y =>
      cases r with
      | float z => exact float_beq_trans h h'
      | int k =>
        have hwidened : (ofInt64 m == ofInt64 k) = true := float_beq_trans h h'
        by_contra hne
        exact hb ⟨m, y, k, rfl, rfl, rfl, fun heq => hne (beq_iff_eq.2 heq), hwidened⟩
      | _ => contradiction
    | _ => contradiction
  | _ =>
    cases q
    all_goals first | contradiction | skip
    all_goals cases r
    all_goals first | contradiction | rfl | exact BEq.trans h h'

theorem Bridged.hostEqual_eq_false (h : Bridged p q r) : p.hostEqual r = false := by
  obtain ⟨m, x, n, rfl, rfl, rfl, hne, -⟩ := h
  exact beq_false_of_ne hne

/-- Equality of items is symmetric. It is transitive but for two integers of at least `2 ^ 53` that
are widened to one float: both are equal to that float, and not to each other. -/
theorem hostEqual_coherent (p q r : Payload) :
    (p.hostEqual q = true → q.hostEqual p = true) ∧
    (p.hostEqual q = true → q.hostEqual r = true → (p.hostEqual r = true ↔ ¬ Bridged p q r)) ∧
    (Bridged p q r → ∃ m n, p = .int m ∧ r = .int n ∧ 2 ^ 53 ≤ m.toInt.natAbs ∧
      2 ^ 53 ≤ n.toInt.natAbs) := by
  refine ⟨fun h => hostEqual_comm p q ▸ h, fun h h' => ⟨fun h'' hb => ?_, hostEqual_trans h h'⟩, ?_⟩
  · rw [hb.hostEqual_eq_false] at h''
    contradiction
  · rintro ⟨m, x, n, rfl, rfl, rfl, hmerged⟩
    exact ⟨m, n, rfl, rfl, hmerged.le_natAbs, hmerged.symm.le_natAbs⟩

/-- Three is equal to the float three, in either order and through the integer. -/
theorem hostEqual_coherent_three :
    (Payload.float 3.0).hostEqual (.int 3) = true ∧
      (Payload.int 3).hostEqual (.float 3.0) = true ∧
      (Payload.int 3).hostEqual (.int 3) = true := by
  have hequal : (Payload.int 3).hostEqual (.float 3.0) = true := by decide +kernel
  have hequal' : (Payload.float 3.0).hostEqual (.int 3) = true :=
    (hostEqual_coherent (.int 3) (.float 3.0) (.int 3)).1 hequal
  have hplain : ¬ Bridged (.int 3) (.float 3.0) (.int 3) := by
    rintro ⟨m, x, n, hm, -, hn, hne, -⟩
    exact hne (Payload.int.inj (hm.symm.trans hn))
  exact ⟨hequal', hequal, ((hostEqual_coherent (.int 3) (.float 3.0) (.int 3)).2.1 hequal hequal').2
    hplain⟩

/-- Above `2 ^ 53` an integer and its successor can both be equal to one float. -/
theorem hostEqual_not_transitive :
    let middle : Payload := .float (Float.ofBits 0x4340000000000000)
    (Payload.int 9007199254740992).hostEqual middle = true ∧
      middle.hostEqual (.int 9007199254740993) = true ∧
      (Payload.int 9007199254740992).hostEqual (.int 9007199254740993) = false := by
  decide +kernel

end Payload

end LateBound
