import LateBound.Host.Blueprint
import LateBound.Proofs.HostRepresentation
import LateBound.Proofs.MemberAccess
/-! Members kept in slots. The getter of a slot hands out the data of its kind that the slot holds,
and the setter stores there what it is given if that is data of the kind. Both hold their receiver
meanwhile, and nothing else of the world has changed when it is free again. -/
namespace LateBound

/-- Where a member keeps its data: a slot of an instance, or of a declared type. The handles of an
instance all have its number. -/
inductive Place
  | object (id : Nat) (slot : String)
  | type (id : Nat) (slot : String)
  deriving DecidableEq

namespace Slot

def place? (s : Slot) (target : Value) : Option Place :=
  if s.isStatic then
    match s.type.key with
    | .declared id => some (.type id s.name)
    | .builtin _ => none
  else
    match target with
    | .object o => some (.object o.id s.name)
    | _ => none

def receiver? (s : Slot) (target : Value) : Option Value := if s.isStatic then none else some target

end Slot

namespace World

def placed? (w : World) : Place → Option Payload
  | .object id slot => (w.objects.getD id {}).slots.get? slot
  | .type id slot => (w.statics.getD id ∅).get? slot

def store (w : World) : Place → Payload → World
  | .object id slot, q =>
    { w with
      objects := w.objects.insert id
        { w.objects.getD id {} with slots := (w.objects.getD id {}).slots.insert slot q } }
  | .type id slot, q =>
    { w with statics := w.statics.insert id ((w.statics.getD id ∅).insert slot q) }

def cell? (w : World) (s : Slot) (target : Value) (absent : Payload) : Option Payload :=
  if s.isStatic then some (w.static s.type s.name absent)
  else
    match target with
    | .object o => some (w.slot o s.name absent)
    | _ => none

variable {w w' : World} {s : Slot} {target : Value}

theorem placed?_store (w : World) (p p' : Place) (q : Payload) :
    (w.store p q).placed? p' = if p = p' then some q else w.placed? p' := by
  cases p with
  | object id slot =>
    cases p' with
    | object id' slot' =>
      simp only [store, placed?, OrderedMap.getD, OrderedMap.get?_insert, beq_iff_eq,
        Place.object.injEq]
      by_cases h : id = id'
      · simp [h, OrderedMap.get?_insert]
      · simp [h]
    | type id' slot' => rfl
  | type id slot =>
    cases p' with
    | object id' slot' => rfl
    | type id' slot' =>
      simp only [store, placed?, OrderedMap.getD, OrderedMap.get?_insert, beq_iff_eq,
        Place.type.injEq]
      by_cases h : id = id'
      · simp [h, OrderedMap.get?_insert]
      · simp [h]

theorem cell?_of_place {p : Place} (h : s.place? target = some p) (absent : Payload) :
    w.cell? s target absent = some ((w.placed? p).getD absent) := by
  unfold Slot.place? at h
  unfold cell?
  cases hs : s.isStatic with
  | true =>
    cases hk : s.type.key with
    | builtin kind => simp [hs, hk] at h
    | declared id =>
      obtain rfl : Place.type id s.name = p := by simpa [hs, hk] using h
      simp only [static, hk]
      rfl
  | false =>
    cases target with
    | object o =>
      obtain rfl : Place.object o.id s.name = p := by simpa [hs] using h
      rfl
    | _ => simp [hs] at h

theorem cell?_congr (h : ∀ p, s.place? target = some p → w'.placed? p = w.placed? p)
    (absent : Payload) :
    w'.cell? s target absent = w.cell? s target absent := by
  cases hp : s.place? target with
  | some p => rw [cell?_of_place hp, cell?_of_place hp, h p hp]
  | none =>
    unfold Slot.place? at hp
    unfold cell?
    cases hs : s.isStatic with
    | true =>
      cases hk : s.type.key with
      | builtin kind => simp [static, staticTable, hk]
      | declared id => simp [hs, hk] at hp
    | false =>
      cases target with
      | object o => simp [hs] at hp
      | _ => rfl

theorem Grows.placed?_eq (h : w.Grows w') (p : Place) : w'.placed? p = w.placed? p := by
  cases p with
  | object id slot =>
    have hobject := h.object_eq ⟨id, .builtin .bool⟩
    unfold object at hobject
    rw [placed?, hobject]
    rfl
  | type id slot => simp only [placed?, h.statics_eq]

theorem enter_eq (w : World) (receiver : Option Value) :
    ∃ os, w.enter receiver = { w with objects := os } := by
  cases receiver with
  | none => exact ⟨w.objects, rfl⟩
  | some v => cases v <;> exact ⟨_, rfl⟩

theorem leave_eq (w : World) (receiver : Option Value) :
    ∃ os, w.leave receiver = { w with objects := os } := by
  cases receiver with
  | none => exact ⟨w.objects, rfl⟩
  | some v => cases v <;> exact ⟨_, rfl⟩

theorem extends_enter (w : World) (receiver : Option Value) : w.Extends (w.enter receiver) := by
  obtain ⟨os, hos⟩ := w.enter_eq receiver
  rw [hos]
  exact ⟨Nat.le_refl _, fun _ _ => rfl, fun _ _ => rfl⟩

theorem extends_leave (w : World) (receiver : Option Value) : w.Extends (w.leave receiver) := by
  obtain ⟨os, hos⟩ := w.leave_eq receiver
  rw [hos]
  exact ⟨Nat.le_refl _, fun _ _ => rfl, fun _ _ => rfl⟩

theorem inUse_of_free {o : ObjectRef} (h : (some (Value.object o)).bind w.heldReceiver? = none) :
    (w.object o).inUse = false := by
  simpa [heldReceiver?] using h

/-- What was not in use is as it was when it has been held and let go. -/
theorem object_leave_enter {receiver : Option Value} (hfree : receiver.bind w.heldReceiver? = none)
    {o : ObjectRef} (h : w'.object o = (w.enter receiver).object o) :
    (w'.leave receiver).object o = w.object o := by
  cases receiver with
  | none => exact h
  | some v =>
    cases v with
    | object r =>
      have hu := inUse_of_free hfree
      rw [enter, hold, object_setObject] at h
      rw [leave, release, object_setObject]
      by_cases hid : r.id = o.id
      · have hr : w'.object r = { w.object r with inUse := true } := by
          rw [if_pos hid] at h
          rw [← h, object, object, hid]
        have ho : w.object o = w.object r := by rw [object, object, hid]
        rw [if_pos hid, hr, ho, ← hu]
      · rw [if_neg hid] at h ⊢
        exact h
    | _ => exact h

theorem placed?_enter (w : World) (receiver : Option Value) (p : Place) :
    (w.enter receiver).placed? p = w.placed? p := by
  cases receiver with
  | none => rfl
  | some v =>
    cases v with
    | object r =>
      cases p with
      | object id slot =>
        simp only [enter, hold, setObject, placed?, object, OrderedMap.getD, OrderedMap.get?_insert,
          beq_iff_eq]
        split
        · rename_i h
          simp [h]
        · rfl
      | type id slot => rfl
    | _ => rfl

theorem placed?_leave (w : World) (receiver : Option Value) (p : Place) :
    (w.leave receiver).placed? p = w.placed? p := by
  cases receiver with
  | none => rfl
  | some v =>
    cases v with
    | object r =>
      cases p with
      | object id slot =>
        simp only [leave, release, setObject, placed?, object, OrderedMap.getD,
          OrderedMap.get?_insert,
          beq_iff_eq]
        split
        · rename_i h
          simp [h]
        · rfl
      | type id slot => rfl
    | _ => rfl

/-- What code that only adds to the world leaves when its receiver is free again. -/
theorem Grows.of_enter {receiver : Option Value} (hfree : receiver.bind w.heldReceiver? = none)
    (h : (w.enter receiver).Grows w') : w.Grows (w'.leave receiver) := by
  have hextended : w.Extends (w'.leave receiver) :=
    (w.extends_enter receiver).trans (h.extended.trans (w'.extends_leave receiver))
  have hobject := fun o => object_leave_enter hfree (h.object_eq o)
  obtain ⟨os, hos⟩ := w.enter_eq receiver
  obtain ⟨os', hos'⟩ := w'.leave_eq receiver
  rw [hos] at h
  rw [hos'] at hextended hobject ⊢
  exact ⟨hextended, hobject, h.statics_eq, h.catalogs_eq, h.functions_eq⟩

end World

namespace Slot

open World

variable {w w' : World} {s : Slot} {target : Value} {absent : Payload} {refusal : Option String}

/-- What reading a slot comes to, before it is handed out. -/
def reading (s : Slot) (w : World) (target : Value) (absent : Payload) (refusal : Option String) :
    Except String s.kind.Carrier :=
  match w.cell? s target absent, refusal with
  | none, _ => .error (receiverMismatch s.type.name)
  | some _, some m => .error m
  | some p, none =>
    match s.kind.read w p with
    | some x => .ok x
    | none => .error s!"slot {s.name} does not hold {s.kind.declaredType.text}"

theorem exists_of_reading {x : s.kind.Carrier} (h : s.reading w target absent refusal = .ok x) :
    ∃ p, w.cell? s target absent = some p ∧ s.kind.read w p = some x := by
  unfold reading at h
  cases hp : w.cell? s target absent with
  | none => simp [hp] at h
  | some p =>
    cases refusal <;> cases hx : s.kind.read w p <;> simp_all

theorem run_getter (s : Slot) (absent : Payload) (refusal : Option String) (target : Value)
    (call : Caller) (w : World) : (s.getter absent refusal).run call (s.receiver? target) [] w =
      some (match s.reading w target absent refusal with
        | .ok x => (.ok (s.kind.write x w).1, (s.kind.write x w).2)
        | .error m => (.error m, w)) := by
  obtain ⟨t, isStatic, name, kind⟩ := s
  cases isStatic with
  | true =>
    cases refusal with
    | some m => rfl
    | none =>
      simp only [getter, body, receiver?, reading, cell?, if_true, Body.run, Program.readsSlot,
        Program.demand, Program.run, Request.answer, HostKind.exchange]
      cases kind.read w (w.static t name absent) <;> rfl
  | false =>
    cases target with
    | object o =>
      cases refusal with
      | some m => rfl
      | none =>
        simp only [getter, body, receiver?, reading, cell?, Bool.false_eq_true, if_false, Body.run,
          Option.bind_some, Value.object?, Program.readsSlot, Program.demand, Program.run,
          Request.answer, HostKind.exchange]
        cases kind.read w (w.slot o name absent) <;> rfl
    | _ => rfl

def storing (s : Slot) (w : World) (target : Value) (refusal : Option String) (p : Payload) :
    Except String (s.kind.Carrier × Place) :=
  match s.place? target, refusal, s.kind.read w p with
  | none, _, _ => .error (receiverMismatch s.type.name)
  | some _, some m, _ => .error m
  | some _, none, none => .error s!"cannot store {p.kindName} as {s.kind.declaredType.text}"
  | some place, none, some x => .ok (x, place)

theorem storing_congr {p : Payload} (h : s.kind.read w' p = s.kind.read w p) :
    s.storing w' target refusal p = s.storing w target refusal p := by
  simp only [storing, h]

theorem storing_eq_ok_iff {p : Payload} {x : s.kind.Carrier} {place : Place} :
    s.storing w target refusal p = .ok (x, place) ↔
      refusal = none ∧ s.kind.read w p = some x ∧ s.place? target = some place := by
  unfold storing
  cases s.place? target <;> cases refusal <;> cases s.kind.read w p <;> simp [and_comm]

theorem run_setter (hs : ∃ id, s.type.key = .declared id) (refusal : Option String) (target : Value)
    (p : Payload) (call : Caller) (w : World) : (s.setter refusal).run call
      (s.receiver? target) [p] w =
      some (match s.storing w target refusal p with
        | .ok (x, place) => (.ok .null, (s.kind.write x w).2.store place (s.kind.write x w).1)
        | .error m => (.error m, w)) := by
  obtain ⟨id, hid⟩ := hs
  obtain ⟨t, isStatic, name, kind⟩ := s
  dsimp only at hid ⊢
  cases isStatic with
  | true =>
    simp only [storing, place?, hid, if_true]
    cases refusal with
    | some m => rfl
    | none =>
      cases hx : kind.read w p <;>
        simp [setter, body, receiver?, Body.run, Program.storesSlot, Program.demand, Program.run,
          Request.answer, HostKind.exchange, hx, setStatic, hid, store]
  | false =>
    cases target with
    | object o =>
      simp only [storing, place?, Bool.false_eq_true, if_false]
      cases refusal with
      | some m => rfl
      | none =>
        cases hx : kind.read w p <;>
          simp [setter, body, receiver?, Body.run, Program.storesSlot, Program.demand, Program.run,
            Request.answer, HostKind.exchange, hx, Value.object?, setSlot, setObject, object, store]
    | _ => rfl

theorem reading_congr (hcell : w'.cell? s target absent = w.cell? s target absent)
    (hlists : ∀ q, w.cell? s target absent = some q → ∀ l ∈ s.kind.lists w.items q,
      w'.items l = w.items l)
    (refusal : Option String) :
    s.reading w' target absent refusal = s.reading w target absent refusal := by
  unfold reading
  rw [hcell]
  cases hq : w.cell? s target absent with
  | none => rfl
  | some q =>
    have hread : s.kind.read w' q = s.kind.read w q := HostKind.read?_congr (hlists q hq)
    cases refusal with
    | some m => rfl
    | none => simp only [hread]

theorem reading_enter (s : Slot) (w : World) (receiver : Option Value)
    (target : Value) (absent : Payload)
    (refusal : Option String) :
    s.reading (w.enter receiver) target absent refusal = s.reading w target absent refusal := by
  refine reading_congr (cell?_congr (fun p _ => w.placed?_enter receiver p) absent) (fun q _ l _ =>
    ?_)
    refusal
  obtain ⟨os, hos⟩ := w.enter_eq receiver
  rw [hos]
  rfl

end Slot

namespace World

/-- What data is read as where code that holds a receiver hands it out. -/
def handOut (w : World) (receiver : Option Value) (k : HostKind) (x : k.Carrier) : Value × World :=
  let (q, w) := k.write x (w.enter receiver)
  (w.leave receiver).box q

theorem exists_handOut {w : World} {receiver : Option Value}
    (hfree : receiver.bind w.heldReceiver? = none)
    (k : HostKind) (x : k.Carrier) :
    ∃ q w₀, w.handOut receiver k x = w₀.box q ∧ k.Represents w₀ x q ∧ w.Grows w₀ :=
  ⟨(k.write x (w.enter receiver)).1, (k.write x (w.enter receiver)).2.leave receiver, rfl,
    (k.represents_write x _).extend (extends_leave _ receiver), (k.write_grows x _).of_enter hfree⟩

end World

/-- Host code keeps what is written in one slot, unless it refuses the write, and reads that
slot. -/
structure Accessor.StoredBy (a : Accessor) (t : TypeRef) (s : Slot) (refusal : Option String) :
    Prop where
  setter_eq : a.setter = some (s.setter refusal)
  type_eq : a.type = s.kind.declaredType
  isStatic_eq : a.isStatic = s.isStatic
  key_eq : s.type.key = t.key
  reads_slot : ∀ b, a.getter = some b → ∃ absent, b = s.getter absent none

theorem Accessor.receiverOf_eq {a : Accessor} {s : Slot}
    (hs : a.isStatic = s.isStatic) (target : Value) :
    a.receiverOf target = s.receiver? target := by
  rw [receiverOf, Slot.receiver?, hs]

namespace World

variable {w : World} {t : TypeRef} {a : Accessor} {s : Slot} {target : Value} {absent : Payload}
  {refusal : Option String}

theorem readAccessor_slot (hs : a.isStatic = s.isStatic)
    (hg : a.getter = some (s.getter absent refusal))
    (hfree : (s.receiver? target).bind w.heldReceiver? = none) (call : Caller) :
    w.readAccessor call t target a = some (match s.reading w target absent refusal with
      | .ok x => w.handOut (s.receiver? target) s.kind x
      | .error m => (.error (.unknown s!"{t.name}.{a.name}: {m}"),
          (w.enter (s.receiver? target)).leave (s.receiver? target))) := by
  have hreceiver := Accessor.receiverOf_eq hs target
  have hread := readAccessor_of_free (t := t) hg (by rw [hreceiver]; exact hfree) call
  rw [hreceiver, Slot.run_getter, Slot.reading_enter] at hread
  rw [hread]
  cases s.reading w target absent refusal <;> rfl

end World

end LateBound
