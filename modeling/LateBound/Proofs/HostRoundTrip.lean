import LateBound.Proofs.HostRepresentation
/-! Host data that crosses to the evaluator and back. What is handed out reads back as the data it
was, in that world and in any that grows from it, and is of the declared type as it stands. The
exception is an optional item that is not there: it is handed out as null, also where the type of
the item takes none. -/
namespace LateBound

namespace HostKind

/-- Some data of the kind is handed out as null. -/
def mayBeNull : HostKind → Bool
  | .payload | .optional _ => true
  | _ => false

/-- Nothing of the data is rounded, and an optional item that is there is not taken for one that
is not. -/
def isFaithful : HostKind → Bool
  | .single => false
  | .sequence item => item.isFaithful
  | .optional item => item.isFaithful && !item.mayBeNull
  | _ => true

/-- No payload among the data, at any depth, is a boxed value. -/
def Unboxed : (k : HostKind) → k.Carrier → Prop
  | .payload, p => ∀ v, p ≠ .boxed v
  | .sequence item, xs => ∀ x ∈ xs, item.Unboxed x
  | .optional item, x => ∀ y ∈ x, item.Unboxed y
  | _, _ => True

def isMissing : (k : HostKind) → k.Carrier → Bool
  | .optional _, none => true
  | _, _ => false

variable {k : HostKind} {x : k.Carrier} {w : World} {p : Payload}

theorem isNull_of_represents (hk : k.mayBeNull = false) (h : k.Represents w x p) :
    p.isNull = false := by
  cases k with
  | payload | optional => contradiction
  | integer i =>
    obtain rfl : p = ofInt x.1 := h
    unfold ofInt
    split <;> rfl
  | string =>
    obtain ⟨t, rfl, -⟩ := h
    rfl
  | sequence item =>
    obtain ⟨l, rfl, -⟩ := h
    rfl
  | _ =>
    obtain rfl := h
    rfl

theorem keeps_of_within (hk : k.isFaithful = true) (hx : k.Within x) : k.Keeps x := by
  induction k with
  | integer i => exact hx
  | single => contradiction
  | sequence item ih => exact fun y hy => ih hk (hx y hy)
  | optional item ih =>
    obtain ⟨hitem, hnull⟩ := Bool.and_eq_true_iff.1 hk
    exact fun y hy => ⟨ih hitem (hx y hy), fun w p hp =>
      isNull_of_represents (by simpa using hnull) hp⟩
  | _ => trivial

/-- What is handed out converts to the declared type as it is, unless it is null where the type
takes none. -/
theorem standsAs_of_represents (hx : k.Within x) (hu : k.Unboxed x) (h : k.Represents w x p)
    (hnull : p.isNull = false ∨ k.declaredType.isNullable = true) : p.StandsAs k.declaredType := by
  refine Payload.standsAs_of_settled ?_
  induction k generalizing p with
  | payload =>
    obtain rfl : p = x := h
    exact ⟨hu, Payload.inhabits_any p, fun _ => rfl⟩
  | integer i =>
    obtain rfl : p = ofInt x.1 := h
    obtain ⟨n, hn⟩ := exists_int_of_fits hx
    rw [← hn, ofInt_toInt]
    exact Payload.settled_of_naturalType rfl (by simp [declaredType])
  | string =>
    obtain ⟨t, rfl, -⟩ := h
    exact Payload.settled_of_naturalType rfl (by simp [declaredType])
  | list =>
    obtain rfl : p = .list x := h
    exact Payload.settled_list (.inr rfl)
  | dict =>
    obtain rfl : p = .dict x := h
    exact Payload.settled_dict (.inr rfl) (.inr rfl)
  | sequence item =>
    obtain ⟨l, rfl, -, helement, -⟩ := h
    exact Payload.settled_list (.inl helement)
  | optional item ih =>
    cases x with
    | none =>
      obtain rfl : p = .null := h
      have hnullable : item.declaredType.isNullable = true := by
        simpa [Payload.isNull, declaredType] using hnull
      exact Payload.settled_null hnullable
    | some y => exact ih (hx y rfl) (hu y rfl) h hnull
  | _ =>
    obtain rfl := h
    exact Payload.settled_of_naturalType rfl (by simp [declaredType])

/-- Null is handed out where the declared type takes none only for an optional item that is
not there. -/
theorem isMissing_iff_null (hk : k.isFaithful = true) (h : k.Represents w x p)
    (ht : k.declaredType.isNullable = false) : k.isMissing x = true ↔ p = .null := by
  cases k with
  | payload => contradiction
  | optional item =>
    cases x with
    | none => exact iff_of_true rfl h
    | some y =>
      obtain ⟨-, hnull⟩ := Bool.and_eq_true_iff.1 hk
      have hitem : item.Represents w y p := h
      have hp : p.isNull = false := isNull_of_represents (by simpa using hnull) hitem
      refine iff_of_false (by simp [isMissing]) ?_
      rintro rfl
      contradiction
  | _ =>
    have hp : p.isNull = false := isNull_of_represents rfl h
    refine iff_of_false (by simp [isMissing]) ?_
    rintro rfl
    contradiction

end HostKind

open HostKind in
/-- Data of a faithful kind survives being handed out: it reads back as it was, however the world
grows, and what it is handed out as needs no change for the declared type. Only an optional item
that is not there, of a type that takes no null, is handed out as a null that does not convert. -/
theorem host_data_round_trip {k : HostKind} (hk : k.isFaithful = true)
    {x : k.Carrier} (hx : k.Within x)
    (hu : k.Unboxed x) (w : World) :
    let p := (k.write x w).1
    (∀ w', (k.write x w).2.Extends w' → k.read w' p = some x) ∧
    (¬ (k.isMissing x = true ∧ k.declaredType.isNullable = false) → p.StandsAs k.declaredType) ∧
    (k.isMissing x = true ∧ k.declaredType.isNullable = false →
      p = .null ∧ ∀ next, p.convert next k.declaredType = none) := by
  intro p
  have hrep : k.Represents (k.write x w).2 x p := k.represents_write x w
  refine ⟨fun w' hw => read_of_represents (keeps_of_within hk hx) (hrep.extend hw), fun hthere =>
    ?_,
    fun ⟨hmissing, ht⟩ => ?_⟩
  · refine standsAs_of_represents hx hu hrep ?_
    cases ht : k.declaredType.isNullable with
    | true => exact .inr rfl
    | false =>
      have hp : p ≠ .null := fun hp => hthere ⟨(isMissing_iff_null hk hrep ht).2 hp, ht⟩
      exact .inl (by cases hq : p <;> simp_all [Payload.isNull])
  · have hp : p = .null := (isMissing_iff_null hk hrep ht).1 hmissing
    rw [hp]
    exact ⟨rfl, fun next => if_neg (by simp [ht])⟩

open HostKind in
/-- A list of optional lists of bytes, one of them not there, comes back as it was, after more has
been handed out. A single byte that is not there is null, which is no integer. -/
theorem host_data_round_trip_nested :
    let byte : HostKind := .integer ⟨false, .w8⟩
    let k : HostKind := .sequence (.optional (.sequence byte))
    let b (n : Nat) (h : IntKind.holds ⟨false, .w8⟩ n) : byte.Carrier := ⟨n, h⟩
    let x : k.Carrier := [some [b 0 (by decide), b 255 (by decide)], none]
    let w := (k.write x default).2
    (k.write x default).1 = .list ⟨1, .list .int⟩ ∧
      w.items ⟨1, .list .int⟩ = [.list ⟨0, .int⟩, .null] ∧
      k.read (HostKind.string.write "more" w).2 (.list ⟨1, .list .int⟩) = some x ∧
      Payload.StandsAs (.list ⟨1, .list .int⟩) k.declaredType ∧
      ∀ next, ((HostKind.optional byte).write none w).1.convert next .int = none := by
  intro byte k b x w
  have hbyte (n : byte.Carrier) : byte.Within n := by
    obtain ⟨n, hleast, hgreatest⟩ := n
    have hmin : Int64.minValue.toInt ≤ 0 := by decide
    have hmax : 255 ≤ Int64.maxValue.toInt := by decide
    exact ⟨Int.le_trans hmin hleast, Int.le_trans hgreatest hmax⟩
  have hx : k.Within x := fun _ _ _ _ n _ => hbyte n
  have hu : k.Unboxed x := fun _ _ _ _ _ _ => trivial
  obtain ⟨hread, hstands, -⟩ := host_data_round_trip (k := k) rfl hx hu default
  obtain ⟨-, -, hnull⟩ := host_data_round_trip (k := .optional byte) rfl (x := none) nofun nofun w
  exact ⟨rfl, by decide, hread _ (HostKind.string.write_extends "more"
    w), hstands (by simp [isMissing, k]),
    (hnull ⟨rfl, rfl⟩).2⟩

end LateBound
