import LateBound.Proofs.MemberResolution
import LateBound.Proofs.SlotAccess
/-! Writing a member. A write goes through to one slot, of an instance or of a type, or leaves
everything as it was. What is read there afterwards is what the value converted to, and other slots
are read as before. -/
namespace LateBound

namespace Blueprint

theorem storedBy_accessor (b : Blueprint) {t : TypeRef} {m : MemberPlan}
    (hw : m.form.isWritable = true)
    (hr : m.readRefusal = none) :
    (b.accessor t.key m).StoredBy t (b.slot t.key m) m.writeRefusal where
  setter_eq := by simp [accessor, hw]
  type_eq := rfl
  isStatic_eq := rfl
  key_eq := rfl
  reads_slot g hg := by
    obtain ⟨-, hg⟩ := Option.ite_none_right_eq_some.1 hg
    rw [hr] at hg
    exact ⟨_, (Option.some.inj hg).symm⟩

end Blueprint

namespace World

/-- Nothing that was there has changed but what stands at one place. -/
structure Replaces (p : Place) (q : Payload) (w w' : World) : Prop where
  extended : w.Extends w'
  placed : ∀ p', w'.placed? p' = if p = p' then some q else w.placed? p'
  inUse : ∀ o : ObjectRef, (w'.object o).inUse = (w.object o).inUse
  catalogs : w'.catalogs = w.catalogs
  functions : w'.functions = w.functions

/-- Nothing has changed, though numbers may have been taken. -/
structure Unchanged (w w' : World) : Prop where
  next_le : w.next ≤ w'.next
  lists_eq : w'.lists = w.lists
  dicts_eq : w'.dicts = w.dicts
  object_eq : ∀ o : ObjectRef, w'.object o = w.object o
  statics_eq : w'.statics = w.statics
  catalogs_eq : w'.catalogs = w.catalogs
  functions_eq : w'.functions = w.functions

theorem Unchanged.refl (w : World) : w.Unchanged w :=
  ⟨Nat.le_refl _, rfl, rfl, fun _ => rfl, rfl, rfl, rfl⟩

variable {w w' : World} {t : TypeRef} {target : Value} {name : String} {a : Accessor} {s : Slot}
  {refusal : Option String}

theorem replaces_store (w : World) (p : Place) (q : Payload) : Replaces p q w (w.store p q) where
  extended := by cases p <;> exact ⟨Nat.le_refl _, fun _ _ => rfl, fun _ _ => rfl⟩
  placed p' := w.placed?_store p p' q
  inUse o := by
    cases p with
    | object id slot =>
      simp only [object, store, OrderedMap.getD, OrderedMap.get?_insert, beq_iff_eq]
      split
      · rename_i h
        simp [h]
      · rfl
    | type id slot => rfl
  catalogs := by cases p <;> rfl
  functions := by cases p <;> rfl

theorem Grows.replaces {w₁ : World} (h : w.Grows w₁) {p : Place} {q : Payload}
    (h' : Replaces p q w₁ w') :
    Replaces p q w w' where
  extended := h.extended.trans h'.extended
  placed p' := by rw [h'.placed, h.placed?_eq]
  inUse o := by rw [h'.inUse, h.object_eq]
  catalogs := h'.catalogs.trans h.catalogs_eq
  functions := h'.functions.trans h.functions_eq

theorem inUse_leave_enter {receiver : Option Value} (hfree : receiver.bind w.heldReceiver? = none)
    {o : ObjectRef} (h : (w'.object o).inUse = ((w.enter receiver).object o).inUse) :
    ((w'.leave receiver).object o).inUse = (w.object o).inUse := by
  cases receiver with
  | none => exact h
  | some v =>
    cases v with
    | object r =>
      rw [enter, hold, object_setObject] at h
      rw [leave, release, object_setObject]
      by_cases hid : r.id = o.id
      · have ho : w.object o = w.object r := by rw [object, object, hid]
        rw [if_pos hid, ho, inUse_of_free hfree]
      · rw [if_neg hid] at h ⊢
        exact h
    | _ => exact h

theorem Replaces.of_enter {receiver : Option Value} (hfree : receiver.bind w.heldReceiver? = none)
    {p : Place} {q : Payload} (h : Replaces p q (w.enter receiver) w') :
    Replaces p q w (w'.leave receiver) := by
  have hextended : w.Extends (w'.leave receiver) :=
    (w.extends_enter receiver).trans (h.extended.trans (w'.extends_leave receiver))
  have hplaced (p' : Place) : (w'.leave receiver).placed? p' = if p =
    p' then some q else w.placed? p' := by
    rw [placed?_leave, h.placed, placed?_enter]
  have hinUse := fun o => inUse_leave_enter hfree (h.inUse o)
  obtain ⟨os, hos⟩ := w.enter_eq receiver
  obtain ⟨os', hos'⟩ := w'.leave_eq receiver
  rw [hos] at h
  rw [hos'] at hextended hplaced hinUse ⊢
  exact ⟨hextended, hplaced, hinUse, h.catalogs, h.functions⟩

theorem visibleAccessor?_congr (h : w'.catalogs = w.catalogs) (staticContext : Bool) (t : TypeRef)
    (name : String) : w'.visibleAccessor? staticContext t name =
      w.visibleAccessor? staticContext t name := by
  simp only [visibleAccessor?, catalog, h]

theorem heldReceiver?_congr (h : ∀ o : ObjectRef, (w'.object o).inUse = (w.object o).inUse)
    (receiver : Option Value) : receiver.bind w'.heldReceiver? = receiver.bind w.heldReceiver? := by
  cases receiver with
  | none => rfl
  | some v => cases v <;> simp only [Option.bind_some, heldReceiver?, h]

theorem exists_declared (ha : a ∈ (w.catalog t).accessors) (hs : a.isWritable = true) :
    ∃ id, t.key = .declared id := by
  cases hk : t.key with
  | declared id => exact ⟨id, rfl⟩
  | builtin kind =>
    have hreadOnly : ∀ a ∈ kind.catalog.accessors, a.isWritable = false := by
      cases kind <;> simp [BuiltinKind.catalog, BuiltinKind.registration, Registration.freeze,
        Catalog.accessors, BuiltinKind.readOnly, Accessor.isWritable]
    simp only [catalog, hk] at ha
    simp [hreadOnly a ha] at hs

/-- Data that is stored at a place by code that holds its receiver stands for itself there. -/
theorem store_write {receiver : Option Value} (hfree : receiver.bind w.heldReceiver? = none)
    (k : HostKind)
    (x : k.Carrier) (p : Place) {n : Nat} (hn : w.next ≤ n)
    (hw : w' = ((k.write x (({ w with next := n } : World).enter receiver)).2.store p
      (k.write x (({ w with next := n } : World).enter receiver)).1).leave receiver) :
    ∃ q, Replaces p q w w' ∧ k.Represents w' x q := by
  let w₁ : World := ({ w with next := n } : World).enter receiver
  have hstore := replaces_store (k.write x w₁).2 p (k.write x w₁).1
  have hreplaces := ((k.write_grows x w₁).replaces hstore).of_enter
    (w := { w with next := n }) hfree
  have hrep := (k.represents_write x w₁).extend (hstore.extended.trans (extends_leave _ receiver))
  rw [hw]
  exact ⟨_, (grows_advance hn).replaces hreplaces, hrep⟩

theorem writeAccessor_stored (hs : a.StoredBy t s refusal)
    (ht : ∃ id, t.key = .declared id) {v : Value}
    {c : Conversion} (hc : v.coerce w.next a.type = some c)
    (hfree : (s.receiver? target).bind w.heldReceiver? = none) (call : Caller) :
    w.writeAccessor call target a v =
      some (match s.storing w target refusal c.payload with
        | .ok (x, p) =>
          let (q, w₁) := s.kind.write x
            (({ w with next := c.next } : World).enter (s.receiver? target))
          (true, (w₁.store p q).leave (s.receiver? target))
        | .error _ =>
          (false,
            (({ w with next := c.next } : World).enter (s.receiver? target)).leave
              (s.receiver? target))) := by
  have hreceiver := Accessor.receiverOf_eq hs.isStatic_eq target
  have hread : s.kind.read (({ w with next := c.next } : World).enter (s.receiver? target))
    c.payload =
      s.kind.read w c.payload := by
    obtain ⟨os, hos⟩ := ({ w with next := c.next } : World).enter_eq (s.receiver? target)
    rw [hos]
    rfl
  rw [writeAccessor_of_free hs.setter_eq hc (by rw [hreceiver]; exact hfree), hreceiver,
    Slot.run_setter (by rw [hs.key_eq]; exact ht), Slot.storing_congr hread]
  cases s.storing w target refusal c.payload <;> rfl

theorem writeAccessor_of_accepted (hs : a.StoredBy t s refusal)
    (ht : ∃ id, t.key = .declared id) {v : Value}
    {c : Conversion} (hc : v.coerce w.next a.type = some c)
    (hfree : (s.receiver? target).bind w.heldReceiver? = none) {x : s.kind.Carrier} {p : Place}
    (hx : s.storing w target refusal c.payload = .ok (x, p)) :
    ∃ q w', Replaces p q w w' ∧ s.kind.Represents w' x q ∧
      ∀ call, w.writeAccessor call target a v = some (true, w') := by
  obtain ⟨q, hreplaces, hrep⟩ := store_write hfree s.kind x p (Value.coerce_next_le hc) rfl
  exact ⟨q, _, hreplaces, hrep, fun call => by rw [writeAccessor_stored hs ht hc hfree, hx]⟩

/-- Data that was written is what is read next. -/
theorem Replaces.getMember {p : Place} {q : Payload} (h : Replaces p q w w')
    (ht : target.isError = false)
    (ha : w.visibleAccessor? target.isType t name = some a) (hs : a.StoredBy t s refusal)
    (hr : a.isReadable = true) (hfree : (s.receiver? target).bind w.heldReceiver? = none)
    (hp : s.place? target = some p) {x : s.kind.Carrier} (hx : s.kind.Keeps x)
    (hrep : s.kind.Represents w' x q) (call : Caller) :
    w'.getMember call target t name = some (w'.handOut (s.receiver? target) s.kind x) := by
  have ha' : w'.visibleAccessor? target.isType t name = some a := by
    rw [visibleAccessor?_congr h.catalogs, ha]
  have hfree' := (heldReceiver?_congr h.inUse (s.receiver? target)).trans hfree
  obtain ⟨b, hb⟩ := Option.isSome_iff_exists.1 hr
  obtain ⟨absent, rfl⟩ := hs.reads_slot b hb
  have hcell : w'.cell? s target absent = some q := by
    rw [cell?_of_place hp, h.placed, if_pos rfl]
    rfl
  have hreading : s.reading w' target absent none = .ok x := by
    simp only [Slot.reading, hcell, HostKind.read_of_represents hx hrep]
  rw [getMember_of_visible ht ha', readAccessor_slot hs.isStatic_eq hb hfree', hreading]

end World

end LateBound
