import Mathlib.Data.List.DropRight
import Mathlib.Data.UInt
import Mathlib.Order.Bounds.Defs
import LateBound.Proofs.Resolution
/-! How arguments are bound, for signatures with defaults in any place and with any number of
further arguments. The number of arguments is checked first, then each argument in order, and what
is left over is filled with defaults. A parameter without a default is never left over. -/
namespace LateBound

namespace Parameter

/-- `n` is the position after the last parameter without a default, zero if all have one. -/
def RequiredUpTo (ps : List Parameter) (n : Nat) : Prop :=
  ∃ required optional, ps = required ++ optional ∧ required.length = n ∧
    (∀ p ∈ required.getLast?, p.default = none) ∧ ∀ p ∈ optional, p.default.isSome = true

/-- The argument at a position does not convert to the type it is bound at. -/
def Refuses (ps : List Parameter) (args : List Payload) (i : Nat) : Prop :=
  ∃ a, args[i]? = some a ∧ ∀ next, a.convert next (typeAt ps i) = none

/-- Conversions of the arguments in order, each to the type it is bound at, with the numbers that
are left by those before it. -/
structure Conversions (next : Nat) (ps : List Parameter) (args : List Payload)
    (cs : List Conversion) :
    Prop where
  length_eq : cs.length = args.length
  converted : ∀ (i : Nat) (a : Payload) (c : Conversion), args[i]? = some a → cs[i]? = some c →
    ∃ n, (next :: cs.map (·.next))[i]? = some n ∧ a.convert n (typeAt ps i) = some c

variable {next index : Nat} {ps : List Parameter} {a : Payload}
  {args : List Payload} {c : Conversion}
  {cs : List Conversion} {b : Binding}

theorem RequiredUpTo.isSome_default {n k : Nat} (h : RequiredUpTo ps n) (hk : n ≤ k) :
    ∀ p ∈ ps.drop k, p.default.isSome = true := by
  obtain ⟨required, optional, rfl, rfl, -, hoptional⟩ := h
  intro p hp
  rw [List.drop_append, List.drop_eq_nil_of_le hk, List.nil_append] at hp
  exact hoptional p (List.mem_of_mem_drop hp)

theorem RequiredUpTo.le {n m : Nat} (h : RequiredUpTo ps n) (h' : RequiredUpTo ps m) : m ≤ n := by
  obtain ⟨required, optional, rfl, rfl, hlast, -⟩ := h'
  by_contra hlt
  rcases required.eq_nil_or_concat with rfl | ⟨init, p, rfl⟩
  · simp at hlt
  · rw [List.length_concat, Nat.not_le] at hlt
    have hsome := h.isSome_default (Nat.le_of_lt_succ hlt) p (by simp)
    have hnone := hlast p (by simp)
    simp [hnone] at hsome

theorem refuses_cons_zero (next : Nat) :
    Refuses ps (a :: args) 0 ↔ a.convert next (typeAt ps 0) = none := by
  simp only [Refuses, List.getElem?_cons_zero, Option.some.injEq, exists_eq_left',
    ← Option.not_isSome_iff_eq_none, Payload.isSome_convert, forall_const]

theorem refuses_cons_succ {i : Nat} : Refuses ps (a :: args) (i + 1) ↔ Refuses ps.tail args i := by
  simp only [Refuses, List.getElem?_cons_succ, typeAt_succ]

theorem conversions_nil (next : Nat) (ps : List Parameter) : Conversions next ps [] [] :=
  ⟨rfl, by simp⟩

theorem Conversions.cons (hc : a.convert next (typeAt ps 0) = some c)
    (h : Conversions c.next ps.tail args cs) : Conversions next ps (a :: args) (c :: cs) where
  length_eq := by simp [h.length_eq]
  converted := by
    rintro (_ | i) x y hx hy
    · obtain rfl : a = x := by simpa using hx
      obtain rfl : c = y := by simpa using hy
      exact ⟨next, rfl, hc⟩
    · obtain ⟨n, hn, hconv⟩ := h.converted i x y (by simpa using hx) (by simpa using hy)
      exact ⟨n, by simpa using hn, by rwa [typeAt_succ]⟩

end Parameter

open Parameter

variable {next index : Nat} {ps : List Parameter} {args : List Payload} {b : Binding}

theorem bindArguments_cons_none {a : Payload} (hc : a.convert next (typeAt ps 0) = none) :
    bindArguments next index ps (a :: args) = .error (.argumentType index) := by
  rw [typeAt_zero] at hc
  simp only [bindArguments, hc]

theorem bindArguments_cons_some {a : Payload} {c : Conversion}
    (hc : a.convert next (typeAt ps 0) = some c) :
    bindArguments next index ps (a :: args) = (bindArguments c.next (index + 1) ps.tail args).map
      fun b => ⟨c.payload :: b.arguments, c.cost + b.cost, b.next⟩ := by
  rw [typeAt_zero] at hc
  simp only [bindArguments, hc]
  cases bindArguments c.next (index + 1) ps.tail args <;> rfl

/-- Binding stops at the first argument that is refused, and at no other. -/
theorem bindArguments_error_iff {r : Rejection} : bindArguments next index ps args = .error r ↔
    ∃ i, r = .argumentType (index + i) ∧ IsLeast {i | Refuses ps args i} i := by
  induction args generalizing next index ps with
  | nil => simp [bindArguments, IsLeast, Refuses]
  | cons a as ih =>
    cases hc : a.convert next (typeAt ps 0) with
    | none =>
      have hfirst : IsLeast {i | Refuses ps (a :: as) i} 0 :=
        ⟨(refuses_cons_zero next).2 hc, fun _ _ => Nat.zero_le _⟩
      rw [bindArguments_cons_none hc, Except.error.injEq]
      constructor
      · rintro rfl
        exact ⟨0, rfl, hfirst⟩
      · rintro ⟨i, rfl, hi⟩
        rw [Nat.le_zero.1 (hi.2 hfirst.1), Nat.add_zero]
    | some c =>
      have hpass : ¬ Refuses ps (a :: as) 0 := by simp [refuses_cons_zero next, hc]
      have hrest : bindArguments next index ps (a :: as) = .error r ↔
          bindArguments c.next (index + 1) ps.tail as = .error r := by
        rw [bindArguments_cons_some hc]
        cases bindArguments c.next (index + 1) ps.tail as <;> simp [Except.map]
      rw [hrest, ih]
      constructor
      · rintro ⟨i, rfl, hi, hleast⟩
        refine ⟨i + 1, by rw [Nat.add_right_comm, Nat.add_assoc], refuses_cons_succ.2 hi, ?_⟩
        rintro (_ | j) hj
        · exact absurd hj hpass
        · exact Nat.succ_le_succ (hleast (refuses_cons_succ.1 hj))
      · rintro ⟨i, rfl, hi, hleast⟩
        cases i with
        | zero => exact absurd hi hpass
        | succ i =>
          refine ⟨i, by rw [Nat.add_right_comm,
            Nat.add_assoc], refuses_cons_succ.1 hi, fun j hj => ?_⟩
          exact Nat.le_of_succ_le_succ (hleast (refuses_cons_succ.2 hj))

/-- What is bound: the conversions in order, then the parameters that are left. -/
theorem exists_conversions (h : bindArguments next index ps args = .ok b) :
    ∃ cs, Conversions next ps args cs ∧
      b.arguments = cs.map (·.payload) ++ (ps.drop args.length).map (·.default.getD .null) ∧
      b.cost = (cs.map (·.cost)).sum ∧ totalCost ps args = (cs.map (·.cost.toNat)).sum ∧
      (next :: cs.map (·.next)).getLast? = some b.next := by
  induction args generalizing next index ps b with
  | nil =>
    obtain rfl := Except.ok.inj h
    exact ⟨[], conversions_nil next ps, rfl, rfl, rfl, rfl⟩
  | cons a as ih =>
    cases hc : a.convert next (typeAt ps 0) with
    | none => simp [bindArguments_cons_none hc] at h
    | some c =>
      rw [bindArguments_cons_some hc] at h
      cases hb : bindArguments c.next (index + 1) ps.tail as with
      | error r => simp [hb, Except.map] at h
      | ok b' =>
        obtain ⟨cs, hcs, harguments, hcost, htotal, hnext⟩ := ih hb
        rw [hb] at h
        obtain rfl := Except.ok.inj h
        refine ⟨c :: cs, hcs.cons hc, ?_, ?_, ?_, ?_⟩
        · simp [harguments]
        · simp [hcost]
        · simp [totalCost_cons, Payload.cost?_eq_some hc, htotal]
        · rw [List.map_cons, List.getLast?_cons_cons]
          exact hnext

namespace Signature

theorem requiredUpTo_minArity (s : Signature) : RequiredUpTo s.parameters s.minArity := by
  refine ⟨s.parameters.rdropWhile (·.default.isSome), s.parameters.rtakeWhile (·.default.isSome),
    List.rdropWhile_append_rtakeWhile.symm, List.length_reverse, fun p hp => ?_, fun p hp => ?_⟩
  · obtain ⟨hne, rfl⟩ := List.mem_getLast?_eq_getLast hp
    simpa using List.rdropWhile_last_not _ _ hne
  · exact List.mem_rtakeWhile_imp (p := fun p : Parameter => p.default.isSome) hp

theorem acceptsArity_eq_false_iff {s : Signature} {count : Nat} : s.acceptsArity count = false ↔
    count < s.minArity ∨ s.isVariadic = false ∧ s.parameters.length < count := by
  rw [acceptsArity, Bool.and_eq_false_iff, Bool.or_eq_false_iff, decide_eq_false_iff_not,
    decide_eq_false_iff_not, Nat.not_le, Nat.not_le]

/-- Binding fails on the number of arguments exactly when it is below the position after the last
parameter without a default, or above the number of parameters of a signature that takes no more.
Otherwise it fails at the first argument that does not convert. Otherwise it gives the conversions
in order and then the defaults of the parameters that are left, all of which have one, at the sum of
the costs, which like them is a word of 32 bits. -/
theorem binding_exact (next : Nat) (s : Signature) (args : List Payload) :
    ∃ n, RequiredUpTo s.parameters n ∧
      let miscounted := args.length < n ∨ s.isVariadic = false ∧ s.parameters.length < args.length
      (s.bind next args = .error .arity ↔ miscounted) ∧
      (∀ i, s.bind next args = .error (.argumentType i) ↔
        ¬ miscounted ∧ IsLeast {i | Refuses s.parameters args i} i) ∧
      (¬ miscounted → (∀ i, ¬ Refuses s.parameters args i) →
        ∃ b cs defaults, s.bind next args = .ok b ∧ Conversions next s.parameters args cs ∧
          (s.parameters.drop args.length).map (·.default) = defaults.map some ∧
          b.arguments = cs.map (·.payload) ++ defaults ∧
          b.arguments.length = max s.parameters.length args.length ∧
          b.cost = (cs.map (·.cost)).sum ∧
          (3 * args.length < UInt32.size → b.cost.toNat = (cs.map (·.cost.toNat)).sum) ∧
          (next :: cs.map (·.next)).getLast? = some b.next) := by
  refine ⟨s.minArity, s.requiredUpTo_minArity, ?_⟩
  dsimp only
  rw [← acceptsArity_eq_false_iff, Bool.not_eq_false]
  refine ⟨s.bind_eq_arity_iff next args, fun i => ?_, fun haccepts hconverts => ?_⟩
  · unfold bind
    split
    · rename_i haccepts
      simp [bindArguments_error_iff, haccepts]
    · simp_all
  · have hbind : s.bind next args = bindArguments next 0 s.parameters args := if_pos haccepts
    cases hb : bindArguments next 0 s.parameters args with
    | error r =>
      obtain ⟨i, -, hi⟩ := bindArguments_error_iff.1 hb
      exact absurd hi.1 (hconverts i)
    | ok b =>
      obtain ⟨cs, hcs, harguments, hcost, htotal, hnext⟩ := exists_conversions hb
      have henough : s.minArity ≤ args.length := by
        by_contra hless
        simp [acceptsArity_eq_false_iff.2 (.inl (Nat.not_le.1 hless))] at haccepts
      have hdefaults := s.requiredUpTo_minArity.isSome_default henough
      have hsum (hlength : 3 * args.length < UInt32.size) :
        b.cost.toNat = (cs.map (·.cost.toNat)).sum :=
        (bind_toNat_cost (hbind.trans hb) hlength).trans htotal
      refine ⟨b, cs, _, hbind.trans hb, hcs, ?_, harguments, ?_, hcost, hsum, hnext⟩
      · rw [List.map_map]
        refine List.map_congr_left fun p hp => ?_
        obtain ⟨d, hd⟩ := Option.isSome_iff_exists.1 (hdefaults p hp)
        simp [hd]
      · rw [harguments, List.length_append, List.length_map, List.length_map, List.length_drop,
          hcs.length_eq]
        omega

/-- A default that stands before a parameter without one cannot be left to be filled in, unlike the
last. What is null is no integer, whatever is left over. -/
theorem binding_exact_gap :
    let one : Parameter := { name := "a", type := .int, default := some (.int 1) }
    let mid : Parameter := { name := "b", type := .string }
    let two : Parameter := { name := "c", type := .int, default := some (.text ⟨0, "2"⟩) }
    let s : Signature := ⟨"f", [one, mid, two], .any, true, false, .free default⟩
    s.bind 5 [.int 3] = .error .arity ∧
      s.bind 5 [.text ⟨1, "7"⟩, .null, .null] = .error (.argumentType 2) ∧
      ∃ (b : Binding) (defaults : List Payload), s.bind 5 [.text ⟨1, "7"⟩, .null] = .ok b ∧
        b.arguments.length = 3 ∧ [two.default] = defaults.map some := by
  intro one mid two s
  have hread : ((Payload.text ⟨1, "7"⟩).convert 5 .int).isSome = true := rfl
  have hseven (args : List Payload) : ¬ Refuses s.parameters (.text ⟨1, "7"⟩ :: args) 0 := by
    rw [refuses_cons_zero 5]
    exact Option.ne_none_iff_isSome.2 hread
  have hnull (args : List Payload) :
    ¬ Refuses s.parameters (.text ⟨1, "7"⟩ :: .null :: args) 1 := by
    rw [refuses_cons_succ, refuses_cons_zero 5]
    nofun
  have htwo : RequiredUpTo s.parameters 2 := ⟨[one, mid], [two], rfl, rfl, by
    simp [mid], by simp [two]⟩
  obtain ⟨n, hn, harity, -, -⟩ := binding_exact 5 s [.int 3]
  obtain ⟨m, hm, -, htype, -⟩ := binding_exact 5 s [.text ⟨1, "7"⟩, .null, .null]
  obtain ⟨k, hk, -, -, hok⟩ := binding_exact 5 s [.text ⟨1, "7"⟩, .null]
  obtain rfl : n = 2 := Nat.le_antisymm (htwo.le hn) (hn.le htwo)
  obtain rfl : m = 2 := Nat.le_antisymm (htwo.le hm) (hm.le htwo)
  obtain rfl : k = 2 := Nat.le_antisymm (htwo.le hk) (hk.le htwo)
  have hthird : IsLeast {i | Refuses s.parameters [.text ⟨1, "7"⟩, .null, .null] i} 2 := by
    refine ⟨⟨.null, rfl, fun _ => rfl⟩, ?_⟩
    rintro (_ | _ | j) hj
    · exact absurd hj (hseven _)
    · exact absurd hj (hnull _)
    · exact Nat.le_add_left 2 j
  have hnone : ∀ i, ¬ Refuses s.parameters [.text ⟨1, "7"⟩, .null] i := by
    rintro (_ | _ | j) hj
    · exact hseven _ hj
    · exact hnull _ hj
    · obtain ⟨a, ha, -⟩ := hj
      simp at ha
  obtain ⟨b, cs, defaults, hb, -, hdefaults, -, hlength, -⟩ := hok (by simp [s]) hnone
  exact ⟨harity.2 (.inl (by simp)), (htype 2).2 ⟨by simp [s], hthird⟩, b, defaults, hb, hlength,
    hdefaults⟩

end Signature

end LateBound
