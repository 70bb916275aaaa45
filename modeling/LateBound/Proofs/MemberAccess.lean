import LateBound.Proofs.Invocation
/-! How members are reached: no body runs where the target is an error, the member is not visible,
it has no such accessor, or the receiver is in use; else one does. -/
namespace LateBound
namespace World

variable {w : World} {target : Value} {t : TypeRef} {name : String} {a : Accessor} {b : Body}
  {o : ObjectRef}

theorem getMember_of_visible (ht : target.isError = false)
    (ha : w.visibleAccessor? target.isType t name = some a) (call : Caller) :
    w.getMember call target t name = w.readAccessor call t target a := by
  simp [getMember, ht, ha]

theorem getMember_of_hidden (ht : target.isError = false)
    (ha : w.visibleAccessor? target.isType t name = none) :
    ∃ v, ∀ call, w.getMember call target t name = some (v, w) := by
  simp only [getMember, ht, ha, Bool.false_eq_true, if_false]
  cases w.visibleOverloads target.isType t name with
  | nil => exact ⟨_, fun _ => rfl⟩
  | cons i is => exact ⟨_, fun _ => rfl⟩

theorem readAccessor_of_no_getter (hb : a.getter = none) (call : Caller) :
    w.readAccessor call t target a =
      some (.error (.unknown s!"member '{a.name}' of {t.name} is write-only"), w) := by
  rw [readAccessor, hb]

theorem readAccessor_of_held (hb : a.getter = some b)
    (ho : (a.receiverOf target).bind w.heldReceiver? = some o) (call : Caller) :
    w.readAccessor call t target a = some (.error o.inUseFailure, w) := by
  simp [readAccessor, hb, Body.dispatch, runOn_of_held ho]

theorem readAccessor_of_free (hb : a.getter = some b)
    (hfree : (a.receiverOf target).bind w.heldReceiver? = none) (call : Caller) :
    w.readAccessor call t target a =
      (b.run call (a.receiverOf target) [] (w.enter (a.receiverOf target))).map fun (r, w) =>
        Signature.finish s!"{t.name}.{a.name}" false r (w.leave (a.receiverOf target)) := by
  simp only [readAccessor, hb, Body.dispatch, runOn_of_free hfree, Option.map_map]
  rfl

variable {v : Value}

theorem setMember_of_error (h : (target.isError || v.isError) = true) (call : Caller) :
    w.setMember call target t name v = some (false, w) := if_pos h

theorem setMember_of_hidden (ha : w.visibleAccessor? target.isType t name = none) (call : Caller) :
    w.setMember call target t name v = some (false, w) := by
  simp [setMember, ha]

theorem setMember_of_visible (h : (target.isError || v.isError) = false)
    (ha : w.visibleAccessor? target.isType t name = some a) (call : Caller) :
    w.setMember call target t name v = w.writeAccessor call target a v := by
  simp only [setMember, h, ha, Bool.false_eq_true, if_false]

theorem writeAccessor_of_no_setter (hb : a.setter = none) (call : Caller) :
    w.writeAccessor call target a v = some (false, w) := by
  rw [writeAccessor, hb]

theorem writeAccessor_of_inconvertible (hc : v.coerce w.next a.type = none) (call : Caller) :
    w.writeAccessor call target a v = some (false, w) := by
  rw [writeAccessor, hc]
  cases a.setter <;> rfl

theorem writeAccessor_of_held (ho : (a.receiverOf target).bind w.heldReceiver? = some o)
    (call : Caller) : w.writeAccessor call target a v = some (false, w) := by
  cases hb : a.setter with
  | none => exact writeAccessor_of_no_setter hb call
  | some b =>
    cases hc : v.coerce w.next a.type with
    | none => exact writeAccessor_of_inconvertible hc call
    | some c =>
      have ho : (a.receiverOf target).bind ({ w with next := c.next } : World).heldReceiver? =
        some o := ho
      simp [writeAccessor, hb, hc, runOn_of_held ho]

theorem writeAccessor_of_free {c : Conversion} (hb : a.setter = some b)
    (hc : v.coerce w.next a.type = some c)
    (hfree : (a.receiverOf target).bind w.heldReceiver? = none) (call : Caller) :
    w.writeAccessor call target a v =
      (b.run call (a.receiverOf target) [c.payload]
          (({ w with next := c.next } : World).enter (a.receiverOf target))).map fun (r, w) =>
        (r.toBool, w.leave (a.receiverOf target)) := by
  have hfree : (a.receiverOf target).bind ({ w with next := c.next } : World).heldReceiver? =
    none := hfree
  simp only [writeAccessor, hb, hc, runOn_of_free hfree, Option.map_map]
  rfl

end World

end LateBound
