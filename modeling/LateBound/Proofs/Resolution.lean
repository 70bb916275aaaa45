import Mathlib.Algebra.GroupWithZero.Nat
import Mathlib.Data.Prod.Lex
import LateBound.Proofs.Conversion
/-! Overload resolution finds the least candidate. Candidates are ranked by cost, then by the number
of defaults they fill in, then by their place in the list; a failure tells whether any candidate
takes the number of arguments. -/
namespace LateBound

theorem forall_getElem?_cons {α : Type} (x : α) (xs : List α) (P : Nat → α → Prop) :
    (∀ i a, (x :: xs)[i]? = some a → P i a) ↔ P 0 x ∧ ∀ i a, xs[i]? = some a → P (i + 1) a := by
  constructor
  · intro h
    exact ⟨h 0 x rfl, fun i a ha => h (i + 1) a (by simpa using ha)⟩
  · rintro ⟨hx, h⟩ (_ | i) a ha
    · obtain rfl : x = a := by simpa using ha
      exact hx
    · exact h i a (by simpa using ha)

namespace Parameter

/-- The type an argument is bound at. Arguments past the declared parameters are bound as `any`. -/
def typeAt (ps : List Parameter) (i : Nat) : DeclaredType := (ps[i]?.map (·.type)).getD .any

theorem typeAt_zero (ps : List Parameter) : typeAt ps 0 = (ps.head?.map (·.type)).getD .any := by
  rw [typeAt, List.head?_eq_getElem?]

theorem typeAt_succ (ps : List Parameter) (i : Nat) : typeAt ps (i + 1) = typeAt ps.tail i := by
  cases ps <;> simp [typeAt]

def totalCost (ps : List Parameter) (args : List Payload) : Nat :=
  (args.mapIdx fun i a => ((a.cost? (typeAt ps i)).getD 0).toNat).sum

def Admit (ps : List Parameter) (args : List Payload) : Prop :=
  ∀ (i : Nat) (a : Payload), args[i]? = some a → (a.cost? (typeAt ps i)).isSome

def Match (ps : List Parameter) (args : List Payload) : Prop :=
  ∀ (i : Nat) (a : Payload), args[i]? = some a → a.cost? (typeAt ps i) = some Conversion.exactCost

theorem admit_cons (ps : List Parameter) (a : Payload) (as : List Payload) :
    Admit ps (a :: as) ↔
      (a.cost? ((ps.head?.map (·.type)).getD .any)).isSome ∧ Admit ps.tail as := by
  rw [Admit, forall_getElem?_cons, typeAt_zero]
  simp only [typeAt_succ, Admit]

theorem totalCost_cons (ps : List Parameter) (a : Payload) (as : List Payload) :
    totalCost ps (a :: as) = ((a.cost? (typeAt ps 0)).getD 0).toNat + totalCost ps.tail as := by
  simp only [totalCost, List.mapIdx_cons, List.sum_cons, typeAt_succ]

theorem match_cons (ps : List Parameter) (a : Payload) (as : List Payload) :
    Match ps (a :: as) ↔
      a.cost? ((ps.head?.map (·.type)).getD .any) = some Conversion.exactCost ∧
      Match ps.tail as := by
  rw [Match, forall_getElem?_cons, typeAt_zero]
  simp only [typeAt_succ, Match]

end Parameter

theorem Payload.cost?_eq_some {next : Nat} {p : Payload} {t : DeclaredType} {c : Conversion}
    (h : p.convert next t = some c) : p.cost? t = some c.cost := by
  rw [← p.map_cost_convert next, h, Option.map_some]

theorem Payload.toNat_cost_le (p : Payload) (t : DeclaredType) : ((p.cost? t).getD 0).toNat ≤
    3 := by
  cases h : p.cost? t with
  | none => exact Nat.zero_le 3
  | some k =>
    obtain ⟨c, hc, rfl⟩ := Option.map_eq_some_iff.1 h
    exact UInt32.le_iff_toNat_le.1 (Payload.convert_cost_le hc)

theorem Parameter.totalCost_le (ps : List Parameter) (args : List Payload) :
    totalCost ps args ≤ 3 * args.length := by
  induction args generalizing ps with
  | nil => exact Nat.le_refl 0
  | cons a as ih =>
    have ha := a.toNat_cost_le (typeAt ps 0)
    have has := ih ps.tail
    rw [totalCost_cons, List.length_cons]
    omega

theorem Payload.isSome_convert (next : Nat) (p : Payload) (t : DeclaredType) :
    (p.convert next t).isSome = (p.cost? t).isSome := by
  rw [← p.map_cost_convert next t, Option.isSome_map]

/-- Binding succeeds exactly when every argument converts. -/
theorem bindArguments_ok_iff (next index : Nat) (ps : List Parameter) (args : List Payload) :
    (∃ b, bindArguments next index ps args = .ok b) ↔ Parameter.Admit ps args := by
  induction args generalizing next index ps with
  | nil => simp [bindArguments, Parameter.Admit]
  | cons a as ih =>
    rw [Parameter.admit_cons, ← a.isSome_convert next]
    unfold bindArguments
    cases hc : a.convert next ((ps.head?.map (·.type)).getD .any) with
    | none => simp
    | some c =>
      rw [← ih c.next (index + 1) ps.tail]
      cases hb : bindArguments c.next (index + 1) ps.tail as <;> simp [hb]

theorem bindArguments_next_le {next index : Nat} {ps : List Parameter} {args : List Payload}
    {b : Binding} (h : bindArguments next index ps args = .ok b) : next ≤ b.next := by
  induction args generalizing next index ps b with
  | nil =>
    obtain rfl := Except.ok.inj h
    exact Nat.le_refl _
  | cons a as ih =>
    unfold bindArguments at h
    split at h
    · contradiction
    · rename_i c hc
      split at h
      · contradiction
      · rename_i b' hb
        have hrest := ih hb
        obtain rfl := Except.ok.inj h
        exact Nat.le_trans (Payload.convert_next_le hc) hrest

theorem bindArguments_cost_of_match {next index : Nat} {ps : List Parameter} {args : List Payload}
    {b : Binding} (hb : bindArguments next index ps args = .ok b) (hm : Parameter.Match ps args) :
    b.cost = 0 := by
  induction args generalizing next index ps b with
  | nil =>
    cases hb
    rfl
  | cons a as ih =>
    obtain ⟨ha, has⟩ := (Parameter.match_cons ps a as).1 hm
    rw [← a.map_cost_convert next] at ha
    obtain ⟨c, hc, hcost⟩ := Option.map_eq_some_iff.1 ha
    unfold bindArguments at hb
    rw [hc] at hb
    cases hr : bindArguments c.next (index + 1) ps.tail as with
    | error r => simp [hr] at hb
    | ok b' =>
      have h0 := ih hr has
      simp only [hr, Except.ok.injEq] at hb
      subst hb
      simp [h0, hcost, Conversion.exactCost]

theorem bindArguments_cost {next index : Nat} {ps : List Parameter}
    {args : List Payload} {b : Binding}
    (h : bindArguments next index ps args = .ok b) :
    b.cost = .ofNat (Parameter.totalCost ps args) := by
  induction args generalizing next index ps b with
  | nil =>
    obtain rfl := Except.ok.inj h
    rfl
  | cons a as ih =>
    unfold bindArguments at h
    split at h
    · contradiction
    · rename_i c hc
      split at h
      · contradiction
      · rename_i b' hb
        obtain rfl := Except.ok.inj h
        rw [← Parameter.typeAt_zero] at hc
        rw [Parameter.totalCost_cons, Payload.cost?_eq_some hc, Option.getD_some, UInt32.ofNat_add,
          UInt32.ofNat_toNat, ih hb]

namespace Signature

def Takes (s : Signature) (args : List Payload) : Prop :=
  s.acceptsArity args.length = true ∧ Parameter.Admit s.parameters args

def TakesExactly (s : Signature) (args : List Payload) : Prop :=
  s.acceptsArity args.length = true ∧ Parameter.Match s.parameters args

theorem TakesExactly.takes {s : Signature} {args : List Payload} (h : s.TakesExactly args) :
    s.Takes args := ⟨h.1, fun i a ha => by simp [h.2 i a ha]⟩

theorem bind_ok_iff (next : Nat) (s : Signature) (args : List Payload) :
    (∃ b, s.bind next args = .ok b) ↔ s.Takes args := by
  unfold bind Takes
  by_cases ha : s.acceptsArity args.length = true
  · simp [ha, bindArguments_ok_iff]
  · simp [ha]

theorem bind_next_le {next : Nat} {s : Signature} {args : List Payload} {b : Binding}
    (h : s.bind next args = .ok b) : next ≤ b.next := by
  unfold bind at h
  split at h
  · exact bindArguments_next_le h
  · contradiction

theorem bind_cost {next : Nat} {s : Signature} {args : List Payload} {b : Binding}
    (h : s.bind next args = .ok b) : b.cost = .ofNat (Parameter.totalCost s.parameters args) := by
  unfold bind at h
  split at h
  · exact bindArguments_cost h
  · contradiction

/-- The total is the true one unless there are more arguments than 32 bits can pay for. -/
theorem bind_toNat_cost {next : Nat} {s : Signature} {args : List Payload} {b : Binding}
    (h : s.bind next args = .ok b) (hlength : 3 * args.length < UInt32.size) :
    b.cost.toNat = Parameter.totalCost s.parameters args := by
  rw [bind_cost h, UInt32.toNat_ofNat_of_lt']
  exact Nat.lt_of_le_of_lt (Parameter.totalCost_le s.parameters args) hlength

theorem bind_cost_of_takesExactly {next : Nat} {s : Signature} {args : List Payload} {b : Binding}
    (hb : s.bind next args = .ok b) (he : s.TakesExactly args) : b.cost = 0 := by
  rw [bind, if_pos he.1] at hb
  exact bindArguments_cost_of_match hb he.2

end Signature

namespace Resolution

/-- Cost first, then defaults filled in, then the place among the candidates. -/
def rank (r : Resolution) : Nat ×ₗ Nat ×ₗ Nat :=
  toLex (r.binding.cost.toNat, toLex (r.defaulted, r.index))

/-- A resolution in favour of a candidate whose arguments bind. -/
structure Offered (next : Nat) (candidates : List Signature) (args : List Payload)
    (r : Resolution) : Prop where
  declared : candidates[r.index]? = some r.signature
  bound : r.signature.bind next args = .ok r.binding
  filled : r.defaulted = r.signature.parameters.length - args.length

theorem better_iff {r b : Resolution} (h : b.index < r.index) :
    r.better b = true ↔ r.rank < b.rank := by
  simp only [better, rank, Bool.or_eq_true, Bool.and_eq_true, decide_eq_true_eq, beq_iff_eq,
    Prod.Lex.toLex_lt_toLex, UInt32.lt_iff_toNat_lt, ← UInt32.toNat_inj]
  omega

end Resolution

namespace Overload

variable {next : Nat} {candidates : List Signature} {args : List Payload}

def offer? (next : Nat) (args : List Payload) (s : Signature × Nat) : Option Resolution :=
  match s.1.bind next args with
  | .ok b => some ⟨s.2, s.1, b, s.1.parameters.length - args.length⟩
  | .error _ => none

def offers (next : Nat) (args : List Payload) (candidates : List Signature) (i : Nat) :
    List Resolution := (candidates.zipIdx i).filterMap (offer? next args)

theorem offer?_eq_some_iff {s : Signature × Nat} {r : Resolution} :
    offer? next args s = some r ↔ s = (r.signature, r.index) ∧
      r.signature.bind next args = .ok r.binding ∧
      r.defaulted = r.signature.parameters.length - args.length := by
  obtain ⟨s, i⟩ := s
  obtain ⟨j, s', b, d⟩ := r
  unfold offer?
  cases hb : s.bind next args <;> simp only [Prod.mk.injEq, reduceCtorEq, Option.some.injEq,
    Resolution.mk.injEq, false_iff, not_and]
  · rintro ⟨rfl, rfl⟩ h
    simp [hb] at h
  · constructor
    · rintro ⟨rfl, rfl, rfl, rfl⟩
      exact ⟨⟨rfl, rfl⟩, hb, rfl⟩
    · rintro ⟨⟨rfl, rfl⟩, h, rfl⟩
      simp_all

theorem mem_offers_iff {r : Resolution} :
    r ∈ offers next args candidates 0 ↔ r.Offered next candidates args := by
  simp only [offers, List.mem_filterMap, offer?_eq_some_iff]
  constructor
  · rintro ⟨_, hm, rfl, hb, hd⟩
    exact ⟨List.mk_mem_zipIdx_iff_getElem?.1 hm, hb, hd⟩
  · rintro ⟨hm, hb, hd⟩
    exact ⟨_, List.mk_mem_zipIdx_iff_getElem?.2 hm, rfl, hb, hd⟩

theorem offers_ascending (next : Nat) (args : List Payload)
    (candidates : List Signature) (i : Nat) :
    (offers next args candidates i).Pairwise (·.index < ·.index) := by
  rw [offers, List.pairwise_filterMap]
  have hs : ((candidates.zipIdx i).map Prod.snd).Pairwise (· < ·) := by
    rw [List.zipIdx_map_snd]
    exact List.pairwise_lt_range'
  rw [List.pairwise_map] at hs
  refine hs.imp fun {s s'} hlt r hr r' hr' => ?_
  obtain ⟨rfl, _⟩ := offer?_eq_some_iff.1 hr
  obtain ⟨rfl, _⟩ := offer?_eq_some_iff.1 hr'
  exact hlt

theorem choose_eq_foldl (i : Nat) (best : Option Resolution) :
    choose next args i best candidates = (offers next args candidates i).foldl keep best := by
  induction candidates generalizing i best with
  | nil => rfl
  | cons s rest ih =>
    unfold choose offers
    rw [List.zipIdx_cons, List.filterMap_cons, offer?]
    cases s.bind next args with
    | error r => exact ih (i + 1) best
    | ok b => exact ih (i + 1) _

/-- The running best is the least so far, since it stands before every later offer. -/
theorem foldl_keep_least (b : Resolution) (rs : List Resolution)
    (h : (b :: rs).Pairwise (·.index < ·.index)) :
    ∃ w, rs.foldl keep (some b) = some w ∧ w ∈ b :: rs ∧ ∀ r ∈ b :: rs, w.rank ≤ r.rank := by
  induction rs generalizing b with
  | nil => exact ⟨b, rfl, by simp, by simp⟩
  | cons r rs ih =>
    obtain ⟨hb, hr, hrs⟩ := by simpa only [List.pairwise_cons] using h
    rw [List.foldl_cons, keep]
    by_cases hlt : r.rank < b.rank
    · obtain ⟨w, he, hw, hl⟩ := ih r (List.pairwise_cons.2 ⟨hr, hrs⟩)
      refine ⟨w, ?_, List.mem_cons_of_mem b hw, ?_⟩
      · rwa [if_pos ((Resolution.better_iff (hb r (by simp))).2 hlt)]
      · rw [List.forall_mem_cons]
        exact ⟨(hl r (by simp)).trans hlt.le, hl⟩
    · obtain ⟨w, he, hw, hl⟩ :=
        ih b (List.pairwise_cons.2 ⟨fun x hx => hb x (List.mem_cons_of_mem r hx), hrs⟩)
      obtain ⟨hwb, hwrs⟩ := List.forall_mem_cons.1 hl
      refine ⟨w, ?_, ?_, ?_⟩
      · rwa [if_neg (mt (Resolution.better_iff (hb r (by simp))).1 hlt)]
      · rcases List.mem_cons.1 hw with rfl | hw
        · simp
        · simp [hw]
      · rw [List.forall_mem_cons, List.forall_mem_cons]
        exact ⟨hwb, hwb.trans (not_lt.1 hlt), hwrs⟩

theorem choose_least {w : Resolution} (h : choose next args 0 none candidates = some w) :
    w.Offered next candidates args ∧
      ∀ r : Resolution, r.Offered next candidates args → w.rank ≤ r.rank := by
  rw [choose_eq_foldl] at h
  simp only [← mem_offers_iff]
  have hs := offers_ascending next args candidates 0
  cases ho : offers next args candidates 0 with
  | nil => simp [ho] at h
  | cons b rs =>
    rw [ho] at h hs
    obtain ⟨w', he, hw, hl⟩ := foldl_keep_least b rs hs
    obtain rfl : w = w' := Option.some.inj (h.symm.trans he)
    exact ⟨hw, hl⟩

theorem choose_isSome_iff :
    (choose next args 0 none candidates).isSome ↔
      ∃ r : Resolution, r.Offered next candidates args := by
  rw [choose_eq_foldl]
  simp only [← mem_offers_iff]
  have hs := offers_ascending next args candidates 0
  cases ho : offers next args candidates 0 with
  | nil => simp
  | cons b rs =>
    rw [ho] at hs
    obtain ⟨w, he, _⟩ := foldl_keep_least b rs hs
    rw [List.foldl_cons]
    exact iff_of_true (by rw [show keep none b = some b from rfl, he]; rfl) ⟨b, by simp⟩

theorem eq_of_rank_eq {r r' : Resolution} (hr : r.Offered next candidates args)
    (hr' : r'.Offered next candidates args) (h : r.rank = r'.rank) : r = r' := by
  obtain ⟨i, s, b, d⟩ := r
  obtain ⟨i', s', b', d'⟩ := r'
  simp only [Resolution.rank, toLex_inj, Prod.mk.injEq] at h
  obtain ⟨_, rfl, rfl⟩ := h
  obtain rfl : s = s' := Option.some.inj (hr.declared.symm.trans hr'.declared)
  obtain rfl : b = b' := Except.ok.inj (hr.bound.symm.trans hr'.bound)
  rfl

theorem exists_offered_iff (next : Nat) (candidates : List Signature) (args : List Payload) :
    (∃ r : Resolution, r.Offered next candidates args) ↔ ∃ s ∈ candidates, s.Takes args := by
  constructor
  · rintro ⟨r, hd, hb, _⟩
    exact ⟨r.signature, List.mem_of_getElem? hd, (r.signature.bind_ok_iff next args).1 ⟨_, hb⟩⟩
  · rintro ⟨s, hs, ht⟩
    obtain ⟨i, hi⟩ := List.getElem?_of_mem hs
    obtain ⟨b, hb⟩ := (s.bind_ok_iff next args).2 ht
    exact ⟨⟨i, s, b, s.parameters.length - args.length⟩, hi, hb, rfl⟩

theorem resolve_ok_iff_choose {callee : String} {w : Resolution} :
    resolve next candidates args callee = .ok w ↔ choose next args 0 none candidates = some w := by
  unfold resolve
  cases choose next args 0 none candidates with
  | some r => simp
  | none =>
    simp only [reduceCtorEq, iff_false]
    split <;> simp

theorem exists_resolve_ok_iff (next : Nat) (candidates : List Signature) (args : List Payload)
    (callee : String) :
    (∃ w, resolve next candidates args callee = .ok w) ↔ ∃ s ∈ candidates, s.Takes args := by
  simp only [resolve_ok_iff_choose, ← Option.isSome_iff_exists, choose_isSome_iff,
    exists_offered_iff]

theorem resolve_ok_iff_least {callee : String} {w : Resolution} :
    resolve next candidates args callee = .ok w ↔ w.Offered next candidates args ∧
      ∀ r : Resolution, r.Offered next candidates args → w.rank ≤ r.rank := by
  rw [resolve_ok_iff_choose]
  constructor
  · exact choose_least
  · rintro ⟨hw, hl⟩
    obtain ⟨w', he⟩ := Option.isSome_iff_exists.1 (choose_isSome_iff.2 ⟨w, hw⟩)
    obtain ⟨hw', hl'⟩ := choose_least he
    rw [he, eq_of_rank_eq hw' hw (le_antisymm (hl' w hw) (hl w' hw'))]

theorem resolve_cost_of_takesExactly {callee : String} {w : Resolution}
    (hw : resolve next candidates args callee = .ok w)
    (he : ∃ s ∈ candidates, s.TakesExactly args) :
    w.binding.cost = 0 := by
  obtain ⟨s, hs, hx⟩ := he
  obtain ⟨i, hi⟩ := List.getElem?_of_mem hs
  obtain ⟨b, hb⟩ := (s.bind_ok_iff next args).2 hx.takes
  have hl := (resolve_ok_iff_least.1 hw).2 ⟨i, s, b, s.parameters.length - args.length⟩
    ⟨hi, hb, rfl⟩
  have h0 : b.cost = 0 := s.bind_cost_of_takesExactly hb hx
  simp only [Resolution.rank, Prod.Lex.toLex_le_toLex, h0, UInt32.toNat_zero] at hl
  exact UInt32.toNat_inj.1 (by rw [UInt32.toNat_zero]; omega)

theorem resolve_of_not_takes {callee : String} (h : ¬ ∃ s ∈ candidates, s.Takes args) :
    resolve next candidates args callee = .error
      (if ∃ s ∈ candidates, s.acceptsArity args.length = true then
        .invalidArgumentType callee (kindList args)
      else .invalidArgumentCount callee args.length) := by
  rw [← exists_offered_iff next, ← choose_isSome_iff, Option.not_isSome_iff_eq_none] at h
  simp only [resolve, h, List.any_eq_true]
  split <;> rfl

theorem argumentType_ne_argumentCount (callee detail : String) (count : Nat) :
    Failure.invalidArgumentType callee detail ≠ Failure.invalidArgumentCount callee count := by
  simp [Failure.invalidArgumentType, Failure.invalidArgumentCount]

theorem resolve_error_iff {callee : String} {e : Failure} :
    resolve next candidates args callee = .error e ↔ (¬ ∃ s ∈ candidates, s.Takes args) ∧
      e = if ∃ s ∈ candidates, s.acceptsArity args.length = true then
        .invalidArgumentType callee (kindList args)
      else .invalidArgumentCount callee args.length := by
  constructor
  · intro h
    have hn : ¬ ∃ s ∈ candidates, s.Takes args := by
      rw [← exists_resolve_ok_iff next candidates args callee]
      rintro ⟨w, hw⟩
      simp [h] at hw
    rw [resolve_of_not_takes hn] at h
    exact ⟨hn, (Except.error.inj h).symm⟩
  · rintro ⟨hn, rfl⟩
    exact resolve_of_not_takes hn

/-- Resolution succeeds when some candidate takes the arguments, and finds the one of least rank; it
fails on the argument count when no candidate takes that many, else on the argument types. The cost
that candidates are ranked by is a total in 32 bits, which is that of all conversions unless there
are more arguments than 32 bits can pay for. -/
theorem resolve_least (next : Nat) (candidates : List Signature) (args : List Payload)
    (callee : String) :
    ((∃ w, resolve next candidates args callee = .ok w) ↔ ∃ s ∈ candidates, s.Takes args) ∧
    (∀ w, resolve next candidates args callee = .ok w ↔
      w.Offered next candidates args ∧
        ∀ r : Resolution, r.Offered next candidates args → w.rank ≤ r.rank) ∧
    (∀ w, resolve next candidates args callee = .ok w →
      (∃ s ∈ candidates, s.TakesExactly args) → w.binding.cost = 0) ∧
    (resolve next candidates args callee = .error (.invalidArgumentCount callee args.length) ↔
      ∀ s ∈ candidates, s.acceptsArity args.length = false) ∧
    (resolve next candidates args callee = .error (.invalidArgumentType callee (kindList args)) ↔
      (∃ s ∈ candidates, s.acceptsArity args.length = true) ∧ ∀ s ∈ candidates, ¬ s.Takes args) ∧
    ∀ r : Resolution, r.Offered next candidates args →
      r.binding.cost = .ofNat (Parameter.totalCost r.signature.parameters args) ∧
        (3 * args.length < UInt32.size →
          r.binding.cost.toNat = Parameter.totalCost r.signature.parameters args) := by
  refine ⟨exists_resolve_ok_iff next candidates args callee, fun w => resolve_ok_iff_least,
    fun w => resolve_cost_of_takesExactly, ?_, ?_, fun r hr =>
      ⟨Signature.bind_cost hr.bound, Signature.bind_toNat_cost hr.bound⟩⟩
  · rw [resolve_error_iff]
    constructor
    · rintro ⟨_, he⟩ s hs
      by_contra ha
      rw [if_pos ⟨s, hs, by simpa using ha⟩] at he
      exact argumentType_ne_argumentCount _ _ _ he.symm
    · intro h
      have hn : ¬ ∃ s ∈ candidates, s.acceptsArity args.length = true := by
        rintro ⟨s, hs, ha⟩
        simp [h s hs] at ha
      exact ⟨fun ⟨s, hs, ht⟩ => hn ⟨s, hs, ht.1⟩, by rw [if_neg hn]⟩
  · rw [resolve_error_iff]
    constructor
    · rintro ⟨hn, he⟩
      refine ⟨?_, by simpa using hn⟩
      by_contra ha
      rw [if_neg ha] at he
      exact argumentType_ne_argumentCount _ _ _ he
    · rintro ⟨ha, hn⟩
      exact ⟨by simpa using hn, by rw [if_pos ha]⟩

/-- Of two methods that take an integer the exact one wins, though it is declared last. -/
theorem resolve_least_exact :
    let text : Signature := ⟨"f", [{ name := "s", type := .string }], .any, true, false,
      .free default⟩
    let number : Signature := ⟨"f", [{ name := "n", type := .int }], .any, true, false,
      .free default⟩
    (∃ s ∈ [text, number], s.TakesExactly [.int 3]) ∧
      ∃ w, resolve 0 [text, number] [.int 3] "f" = .ok w ∧ w.index = 1 ∧ w.binding.cost = 0 := by
  intro text number
  have hx : ∃ s ∈ [text, number], s.TakesExactly [.int 3] :=
    ⟨number, by simp, rfl, by
      rintro (_ | i) a ha
      · cases ha
        rfl
      · simp at ha⟩
  have hw : resolve 0 [text, number] [.int 3] "f" =
      .ok ⟨1, number, ⟨[.int 3], 0, 0⟩, 0⟩ := rfl
  exact ⟨hx, _, hw, rfl, (resolve_least 0 [text, number] [.int 3] "f").2.2.1 _ hw hx⟩

end Overload

end LateBound
