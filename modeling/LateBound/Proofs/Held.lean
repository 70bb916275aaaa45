import LateBound.Proofs.ContainerTyping
import LateBound.Proofs.Dispatch
import LateBound.Proofs.MemberAccess
/-! What tasks do to objects. Host code changes the slots of its own receiver only; by invoking,
reading and writing it has other code run on objects that nobody holds. An object that is held when
a task begins is the same when the task is over, and one that is free is free again. -/
namespace LateBound

namespace World

/-- No object has changed, and no number in use is unused again. -/
structure Spares (w w' : World) : Prop where
  next_le : w.next ≤ w'.next
  object_eq : ∀ o : ObjectRef, w'.object o = w.object o

theorem Spares.refl (w : World) : w.Spares w := ⟨Nat.le_refl _, fun _ => rfl⟩

variable {w w' : World}

theorem spares_advance {n : Nat} (h : w.next ≤ n) : w.Spares { w with next := n } :=
  ⟨h, fun _ => rfl⟩

theorem spares_newList (w : World) (t : DeclaredType) (ps : List Payload) :
    w.Spares (w.newList t ps).2 :=
  ⟨Nat.le_succ _, fun _ => rfl⟩

theorem spares_box (w : World) (p : Payload) : w.Spares (w.box p).2 :=
  spares_advance (Value.ofPayload_next_le w.next p)

theorem spares_boxAll (w : World) (ps : List Payload) : w.Spares (w.boxAll ps).2 :=
  spares_advance (Value.ofPayloads_next_le w.next ps)

theorem spares_textResult (w : World) (s : List Char) : w.Spares (w.textResult s).2 :=
  spares_advance (Nat.le_succ _)

end World

namespace HostKind

open World

theorem spares_write (k : HostKind) (x : k.Carrier) (w : World) : w.Spares (k.write x w).2 :=
  ⟨(k.write_extends x w).next_le, (k.write_grows x w).object_eq⟩

theorem spares_exchange {k : HostKind} {p q : Payload} {w w' : World}
    (h : k.exchange p w = some (q, w')) : w.Spares w' := by
  obtain ⟨x, -, hx⟩ := Option.map_eq_some_iff.1 h
  have hw := k.spares_write x w
  rwa [hx] at hw

end HostKind

open World in
theorem NumberMethod.spares_run (m : NumberMethod) (n : Number) (w : World) :
    w.Spares (m.run n w).2 := by
  cases m with
  | toText => cases n <;> exact w.spares_textResult _
  | _ => exact .refl w

open World in
theorem TextMethod.spares_run {m : TextMethod} {t : Text}
    {args : List Payload} {r : Payload × World}
    {w : World} (h : m.run t args w = .ok r) : w.Spares r.2 := by
  rcases run_cases h with ⟨hw, -⟩ | ⟨s, hs⟩ | ⟨xs, hx⟩
  · rw [hw]
    exact .refl w
  · have hw := w.spares_textResult s
    rwa [hs] at hw
  · have hw := (HostKind.sequence .string).spares_write xs w
    rwa [hx] at hw

open World in
theorem ListMethod.spares_run {m : ListMethod} {l : ListRef}
    {args : List Payload} {r : Payload × World}
    {w : World} (h : m.run l args w = .ok r) : w.Spares r.2 := by
  rcases run_typed h with hw | ⟨n, ps, hn, hw, -⟩
  · rw [hw]
    exact .refl w
  · rw [hw]
    exact ⟨hn, fun _ => rfl⟩

open World in
theorem DictMethod.spares_run {m : DictMethod} {d : DictRef}
    {args : List Payload} {r : Payload × World}
    {w : World} (h : m.run d args w = .ok r) : w.Spares r.2 := by
  rcases run_typed h with hw | ⟨n, es, hn, hw, -⟩
  · rw [hw]
    exact .refl w
  · rw [hw]
    exact ⟨hn, fun _ => rfl⟩

open World in
theorem BuiltinMethod.spares_run {m : BuiltinMethod} {receiver : Option Value} {args : List Payload}
    {r : Payload × World} {w : World} (h : m.run receiver args w = .ok r) : w.Spares r.2 := by
  unfold run at h
  split at h
  · obtain rfl := Except.ok.inj h
    exact w.spares_textResult _
  · contradiction
  · rename_i m n
    obtain rfl := Except.ok.inj h
    exact m.spares_run n w
  · contradiction
  · exact TextMethod.spares_run h
  · contradiction
  · exact ListMethod.spares_run h
  · contradiction
  · exact DictMethod.spares_run h
  · contradiction

open World in
theorem BuiltinProperty.spares_read {p : BuiltinProperty}
    {receiver : Option Value} {r : Payload × World}
    {w : World} (h : p.read receiver w = .ok r) : w.Spares r.2 := by
  cases receiver with
  | none => cases p <;> contradiction
  | some target => ?_
  rcases read_cases h with ⟨hw, -⟩ | ⟨d, -, l, -, hn | hn⟩
  · rw [hw]
    exact .refl w
  · have hw := w.spares_newList d.key ((w.entries d).keys.map Key.toPayload)
    rwa [hn] at hw
  · have hw := w.spares_newList d.value (w.entries d).values
    rwa [hn] at hw

open World in
theorem Computed.spares_ended {c : Computed} {r : Except String Payload} {w w' : World}
    (hc : ∀ {x}, c = .ok x → w.Spares x.2) (h : c.ended w = some (r, w')) : w.Spares w' := by
  cases c with
  | ok x =>
    obtain ⟨-, rfl⟩ := Prod.mk.inj (Option.some.inj h)
    exact hc rfl
  | error m =>
    obtain ⟨-, rfl⟩ := Prod.mk.inj (Option.some.inj h)
    exact .refl w

namespace World

variable {w w' : World}

theorem object_congr (w : World) {o o' : ObjectRef} (h : o.id = o'.id) :
    w.object o = w.object o' := by
  rw [object, object, h]

/-- What is held stays held and what is free stays free, and no object that is held has changed,
apart from the receiver. -/
structure Respects (receiver : Option ObjectRef) (w w' : World) : Prop where
  next_le : w.next ≤ w'.next
  inUse_eq : ∀ o : ObjectRef, o.id < w.next → (w'.object o).inUse = (w.object o).inUse
  held_eq : ∀ o : ObjectRef, o.id < w.next → (w.object o).inUse = true →
    (∀ s, receiver = some s → s.id ≠ o.id) → w'.object o = w.object o

theorem Spares.respects (h : w.Spares w') (receiver : Option ObjectRef) :
    Respects receiver w w' where
  next_le := h.next_le
  inUse_eq o _ := by rw [h.object_eq]
  held_eq o _ _ _ := h.object_eq o

namespace Respects

variable {receiver : Option ObjectRef} {w₁ : World}

theorem refl (receiver : Option ObjectRef) (w : World) :
    Respects receiver w w := (Spares.refl w).respects receiver

theorem trans (h : Respects receiver w w₁) (h' : Respects receiver w₁ w') :
    Respects receiver w w' where
  next_le := Nat.le_trans h.next_le h'.next_le
  inUse_eq o ho := by
    rw [h'.inUse_eq o (Nat.lt_of_lt_of_le ho h.next_le), h.inUse_eq o ho]
  held_eq o ho hu hs := by
    have hu₁ : (w₁.object o).inUse = true := by rw [h.inUse_eq o ho, hu]
    rw [h'.held_eq o (Nat.lt_of_lt_of_le ho h.next_le) hu₁ hs, h.held_eq o ho hu hs]

theorem weaken (h : Respects none w w') (receiver : Option ObjectRef) : Respects receiver w w' where
  next_le := h.next_le
  inUse_eq := h.inUse_eq
  held_eq o ho hu _ := h.held_eq o ho hu nofun

end Respects

theorem respects_setSlot (w : World) (o : ObjectRef) (slot : String) (p : Payload) :
    Respects (some o) w (w.setSlot o slot p) where
  next_le := Nat.le_refl _
  inUse_eq o' _ := by
    rw [setSlot, object_setObject]
    split
    · rename_i he
      rw [w.object_congr he]
    · rfl
  held_eq o' _ _ hs := by
    rw [setSlot, object_setObject, if_neg (hs o rfl)]

theorem spares_setStatic (w : World) (t : TypeRef) (name : String) (p : Payload) :
    w.Spares (w.setStatic t name p) := by
  unfold setStatic
  split
  · exact ⟨Nat.le_refl _, fun _ => rfl⟩
  · exact .refl w

end World

open World

/-- Every task leaves what is held as it was. -/
def Caller.Respectful (call : Caller) : Prop :=
  ∀ {task : Task} {r : task.Result} {w w' : World}, call task w = some (r, w') → Respects none w w'

variable {call : Caller} {w w' : World}

theorem Request.respects_none (hcall : call.Respectful)
    {receiver : Option ObjectRef} {request : Request}
    (hw : ∀ slot p, request ≠ .writeSlot slot p) {r : Except String Payload}
    (h : request.answer call receiver w = some (r, w')) : Respects none w w' := by
  cases request with
  | readSlot slot absent =>
    cases receiver with
    | none | some o =>
      obtain ⟨-, rfl⟩ := Prod.mk.inj (Option.some.inj h)
      exact .refl none w
  | writeSlot slot p => exact absurd rfl (hw slot p)
  | readStatic t slot absent =>
    obtain ⟨-, rfl⟩ := Prod.mk.inj (Option.some.inj h)
    exact .refl none w
  | writeStatic t slot p =>
    obtain ⟨-, rfl⟩ := Prod.mk.inj (Option.some.inj h)
    exact (w.spares_setStatic t slot p).respects none
  | newList ps =>
    obtain ⟨-, rfl⟩ := Prod.mk.inj (Option.some.inj h)
    exact (w.spares_newList _ ps).respects none
  | exchange k p =>
    unfold answer at h
    dsimp only at h
    split at h
    · rename_i hx
      obtain ⟨-, rfl⟩ := Prod.mk.inj (Option.some.inj h)
      exact (HostKind.spares_exchange hx).respects none
    · obtain ⟨-, rfl⟩ := Prod.mk.inj (Option.some.inj h)
      exact .refl none w
  | call f args =>
    obtain ⟨⟨v, w₁⟩, hv, he⟩ := Option.map_eq_some_iff.1 h
    obtain ⟨-, rfl⟩ := Prod.mk.inj he
    exact hcall hv
  | preview p =>
    obtain ⟨-, rfl⟩ := Prod.mk.inj (Option.some.inj h)
    exact (spares_advance (Nat.le_succ _)).respects none
  | getMember p name =>
    have hbox := w.spares_box p
    unfold answer at h
    dsimp only at h
    split at h
    · obtain ⟨-, rfl⟩ := Prod.mk.inj (Option.some.inj h)
      exact hbox.respects none
    · obtain ⟨⟨v, w₁⟩, hv, he⟩ := Option.map_eq_some_iff.1 h
      obtain ⟨-, rfl⟩ := Prod.mk.inj he
      exact (hbox.respects none).trans (hcall hv)
  | setMember p name v =>
    have hbox := w.spares_box p
    unfold answer at h
    dsimp only at h
    split at h
    · obtain ⟨-, rfl⟩ := Prod.mk.inj (Option.some.inj h)
      exact hbox.respects none
    · obtain ⟨⟨v, w₁⟩, hv, he⟩ := Option.map_eq_some_iff.1 h
      obtain ⟨-, rfl⟩ := Prod.mk.inj he
      exact (hbox.respects none).trans (hcall hv)

theorem Request.respects_answer (hcall : call.Respectful)
    {receiver : Option ObjectRef} {request : Request}
    {r : Except String Payload} (h : request.answer call receiver w = some (r, w')) :
    Respects receiver w w' := by
  cases request with
  | writeSlot slot p =>
    cases receiver with
    | none =>
      obtain ⟨-, rfl⟩ := Prod.mk.inj (Option.some.inj h)
      exact .refl none w
    | some o =>
      obtain ⟨-, rfl⟩ := Prod.mk.inj (Option.some.inj h)
      exact w.respects_setSlot o slot p
  | _ => exact (respects_none hcall (by simp) h).weaken receiver

theorem Program.respects_run (hcall : call.Respectful) {receiver : Option ObjectRef} {p : Program}
    {r : Except String Payload} (h : p.run call receiver w = some (r, w')) :
    Respects receiver w w' := by
  induction p generalizing w with
  | done p =>
    obtain ⟨-, rfl⟩ := Prod.mk.inj (Option.some.inj h)
    exact .refl receiver w
  | fail m | panic p =>
    obtain ⟨-, rfl⟩ := Prod.mk.inj (Option.some.inj h)
    exact .refl receiver w
  | ask request next ih =>
    rw [run] at h
    split at h
    · contradiction
    · rename_i a w₁ ha
      exact (Request.respects_answer hcall ha).trans (ih a h)

theorem World.object_newObject (w : World) (t : TypeRef) (i : Instance) {o : ObjectRef}
    (h : o.id < w.next) : (w.newObject t i).2.object o = w.object o := by
  simp only [newObject, fresh, object_setObject]
  rw [if_neg (Nat.ne_of_gt h)]
  rfl

theorem World.Respects.of_newObject {t : TypeRef} {i : Instance}
    (h : Respects (some (w.newObject t i).1) (w.newObject t i).2 w') : Respects none w w' := by
  have hlt {o : ObjectRef} (ho : o.id < w.next) : o.id < (w.newObject t i).2.next :=
    Nat.lt_succ_of_lt ho
  refine ⟨Nat.le_of_succ_le h.next_le, fun o ho => ?_, fun o ho hu _ => ?_⟩
  · rw [h.inUse_eq o (hlt ho), w.object_newObject t i ho]
  · have hne (s : ObjectRef) (hs : some (w.newObject t i).1 = some s) : s.id ≠ o.id := by
      obtain rfl := Option.some.inj hs
      exact Nat.ne_of_gt ho
    rw [h.held_eq o (hlt ho) (by rw [w.object_newObject t i ho, hu]) hne, w.object_newObject t i ho]

theorem World.Respects.release_new (h : Respects none w w') {o : ObjectRef} (ho : w.next ≤ o.id) :
    Respects none w (w'.release o) := by
  have hkept (o' : ObjectRef) (ho' : o'.id < w.next) : (w'.release o).object o' = w'.object o' := by
    rw [release, object_setObject, if_neg (by omega)]
  refine ⟨h.next_le, fun o' ho' => ?_, fun o' ho' hu hs => ?_⟩
  · rw [hkept o' ho', h.inUse_eq o' ho']
  · rw [hkept o' ho', h.held_eq o' ho' hu hs]

theorem Body.respects_run (hcall : call.Respectful) {receiver : Option Value} {args : List Payload}
    {b : Body} {r : Except String Payload} (h : b.run call receiver args w = some (r, w')) :
    Respects (receiver.bind Value.object?) w w' := by
  cases b with
  | builtin m => exact (Computed.spares_ended BuiltinMethod.spares_run h).respects _
  | property p => exact (Computed.spares_ended BuiltinProperty.spares_read h).respects _
  | method owner code =>
    unfold run at h
    dsimp only at h
    split at h
    · rename_i o ho
      rw [ho]
      exact Program.respects_run hcall h
    · obtain ⟨-, rfl⟩ := Prod.mk.inj (Option.some.inj h)
      exact .refl _ w
  | free code => exact Program.respects_run hcall h
  | construct t code =>
    obtain ⟨⟨r', w₁⟩, hr, he⟩ := Option.map_eq_some_iff.1 h
    have hnew := (Program.respects_run hcall hr).of_newObject
    cases r' with
    | ok p =>
      obtain ⟨-, rfl⟩ := Prod.mk.inj he
      exact (hnew.release_new (Nat.le_refl w.next)).weaken _
    | error m =>
      obtain ⟨-, rfl⟩ := Prod.mk.inj he
      exact hnew.weaken _
  | forward g =>
    obtain ⟨⟨v, w₁⟩, hv, he⟩ := Option.map_eq_some_iff.1 h
    obtain ⟨-, rfl⟩ := Prod.mk.inj he
    exact ((w.spares_boxAll args).respects _).trans ((hcall hv).weaken _)

namespace World

theorem spares_finish (callee : String) (returnsVoid : Bool)
    (outcome : Except String Payload) (w : World) :
    w.Spares (Signature.finish callee returnsVoid outcome w).2 := by
  unfold Signature.finish
  split
  · split
    · exact .refl w
    · exact w.spares_box _
  · exact .refl w

/-- A free instance that is held while a body runs on it is free again after it. -/
theorem Respects.of_hold {o : ObjectRef} (hu : (w.object o).inUse = false)
    (h : Respects (some o) (w.hold o) w') : Respects none w (w'.release o) := by
  have hhold (o' : ObjectRef) (hne : o.id ≠ o'.id) : (w.hold o).object o' = w.object o' := by
    rw [hold, object_setObject, if_neg hne]
  have hrelease (o' : ObjectRef) (hne : o.id ≠ o'.id) : (w'.release o).object o' =
    w'.object o' := by
    rw [release, object_setObject, if_neg hne]
  refine ⟨h.next_le, fun o' ho => ?_, fun o' ho hu' _ => ?_⟩
  · by_cases he : o.id = o'.id
    · rw [← w.object_congr he, hu, release, object_setObject, if_pos he]
    · rw [hrelease o' he, h.inUse_eq o' ho, hhold o' he]
  · have hne : o.id ≠ o'.id := by
      intro he
      rw [← w.object_congr he, hu] at hu'
      contradiction
    have hself (s : ObjectRef) (hs : some o = some s) : s.id ≠ o'.id := by
      obtain rfl := Option.some.inj hs
      exact hne
    have hheld : ((w.hold o).object o').inUse = true := by rw [hhold o' hne, hu']
    rw [hrelease o' hne, h.held_eq o' ho hheld hself, hhold o' hne]

theorem Respects.of_enter {receiver : Option Value} (hfree : receiver.bind w.heldReceiver? = none)
    (h : Respects (receiver.bind Value.object?) (w.enter receiver) w') :
    Respects none w (w'.leave receiver) := by
  cases receiver with
  | none => exact h
  | some v =>
    cases v with
    | object o =>
      have hu : (w.object o).inUse = false := by simpa [heldReceiver?] using hfree
      exact h.of_hold hu
    | _ => exact h

/-- What a task starts: a body, on a receiver and on arguments. -/
inductive Opens : Task → World → Body → Option Value → List Payload → World → Prop
  | invoke {target : Value} {args : List Value} {w w₁ : World} {s : Signature}
      {receiver : Option Value}
      {ps : List Payload} (h : w.start target args = .body s receiver ps w₁) :
      Opens (.invoke target args) w s.body receiver ps w₁
  | get {target : Value} {t : TypeRef} {name : String} {w : World} {a : Accessor} {b : Body}
      (ht : target.isError = false) (ha : w.visibleAccessor? target.isType t name = some a)
      (hb : a.getter = some b) (hfree : (a.receiverOf target).bind w.heldReceiver? = none) :
      Opens (.get target t name) w b (a.receiverOf target) [] w
  | set {target v : Value} {t : TypeRef} {name : String} {w : World} {a : Accessor} {b : Body}
      {c : Conversion} (ht : (target.isError || v.isError) = false)
      (ha : w.visibleAccessor? target.isType t name = some a) (hb : a.setter = some b)
      (hc : v.coerce w.next a.type = some c)
      (hfree : (a.receiverOf target).bind w.heldReceiver? = none) :
      Opens (.set target t name v) w b (a.receiverOf target) [c.payload] { w with next := c.next }

variable {task : Task} {b : Body} {receiver : Option Value} {ps : List Payload} {w₁ : World}

theorem Opens.eq_advance (h : Opens task w b receiver ps w₁) :
    ∃ n, w.next ≤ n ∧ w₁ = { w with next := n } ∧ receiver.bind w.heldReceiver? = none := by
  cases h with
  | @invoke target args _ _ _ _ _ hs =>
    rcases w.start_cases target args with ⟨v, n, -, h⟩ | ⟨s', receiver', ps', n, hn, hfree, h⟩
    · rw [hs] at h
      contradiction
    · rw [hs] at h
      obtain ⟨-, rfl, -, rfl⟩ := Start.body.inj h
      exact ⟨n, hn, rfl, hfree⟩
  | get ht ha hb hfree => exact ⟨w.next, Nat.le_refl _, rfl, hfree⟩
  | set ht ha hb hc hfree => exact ⟨_, Value.coerce_next_le hc, rfl, hfree⟩

/-- A task that starts a body is over when the body is, which leaves its receiver then. -/
theorem Opens.exists_run (h : Opens task w b receiver ps w₁) {call : Caller} {r : task.Result}
    (hv : perform call task w = some (r, w')) :
    ∃ outcome w₂, b.run call receiver ps (w₁.enter receiver) = some (outcome, w₂) ∧
      (w₂.leave receiver).Spares w' := by
  have hfinish (callee : String) (returnsVoid : Bool) {outcome : Except String Payload} {w₂ : World}
      {v : Value} (he : Signature.finish callee returnsVoid outcome w₂ = (v, w')) :
        w₂.Spares w' := by
    have hs := spares_finish callee returnsVoid outcome w₂
    rwa [he] at hs
  cases h with
  | invoke hs =>
    rw [perform, invokeWith_eq_start, hs, Start.run] at hv
    obtain ⟨⟨outcome, w₂⟩, hrun, he⟩ := Option.map_eq_some_iff.1 hv
    exact ⟨outcome, w₂, hrun, hfinish _ _ he⟩
  | get ht ha hb hfree =>
    rw [perform, getMember_of_visible ht ha, readAccessor_of_free hb hfree] at hv
    obtain ⟨⟨outcome, w₂⟩, hrun, he⟩ := Option.map_eq_some_iff.1 hv
    exact ⟨outcome, w₂, hrun, hfinish _ _ he⟩
  | set ht ha hb hc hfree =>
    rw [perform, setMember_of_visible ht ha, writeAccessor_of_free hb hc hfree] at hv
    obtain ⟨⟨outcome, w₂⟩, hrun, he⟩ := Option.map_eq_some_iff.1 hv
    obtain ⟨-, rfl⟩ := Prod.mk.inj he
    exact ⟨outcome, w₂, hrun, .refl _⟩

theorem answered_or_opens_get (w : World) (target : Value) (t : TypeRef) (name : String) :
    (∃ v, ∀ call, w.getMember call target t name = some (v, w)) ∨
      ∃ b receiver, Opens (.get target t name) w b receiver [] w := by
  cases ht : target.isError with
  | true => exact .inl ⟨target, fun call => if_pos ht⟩
  | false =>
    cases ha : w.visibleAccessor? target.isType t name with
    | none => exact .inl (getMember_of_hidden ht ha)
    | some a =>
      simp only [getMember_of_visible ht ha]
      cases hb : a.getter with
      | none => exact .inl ⟨_, readAccessor_of_no_getter hb⟩
      | some b =>
        cases ho : (a.receiverOf target).bind w.heldReceiver? with
        | some o => exact .inl ⟨_, readAccessor_of_held hb ho⟩
        | none => exact .inr ⟨b, _, .get ht ha hb ho⟩

theorem refused_or_opens_set (w : World) (target : Value) (t : TypeRef)
    (name : String) (v : Value) :
    (∀ call, w.setMember call target t name v = some (false, w)) ∨
      ∃ b receiver ps w₁, Opens (.set target t name v) w b receiver ps w₁ := by
  cases he : target.isError || v.isError with
  | true => exact .inl (setMember_of_error he)
  | false =>
    cases ha : w.visibleAccessor? target.isType t name with
    | none => exact .inl (setMember_of_hidden ha)
    | some a =>
      simp only [setMember_of_visible he ha]
      cases hb : a.setter with
      | none => exact .inl (writeAccessor_of_no_setter hb)
      | some b =>
        cases hc : v.coerce w.next a.type with
        | none => exact .inl (writeAccessor_of_inconvertible hc)
        | some c =>
          cases ho : (a.receiverOf target).bind w.heldReceiver? with
          | some o => exact .inl (writeAccessor_of_held ho)
          | none => exact .inr ⟨b, _, _, _, .set he ha hb hc ho⟩

/-- A task is answered at once, whatever host code would do, or starts a body. -/
theorem answered_or_opens (task : Task) (w : World) :
    (∃ r n, w.next ≤ n ∧ ∀ call, perform call task w = some (r, { w with next := n })) ∨
      ∃ b receiver ps w₁, Opens task w b receiver ps w₁ := by
  cases task with
  | invoke target args =>
    rcases w.start_cases target args with ⟨v, n, hn, hs⟩ | ⟨s, receiver, ps, n, -, -, hs⟩
    · refine .inl ⟨v, n, hn, fun call => ?_⟩
      rw [perform, invokeWith_eq_start, hs, Start.run]
    · exact .inr ⟨_, _, _, _, .invoke hs⟩
  | get target t name =>
    rcases w.answered_or_opens_get target t name with ⟨v, hv⟩ | ⟨b, receiver, h⟩
    · exact .inl ⟨v, w.next, Nat.le_refl _, hv⟩
    · exact .inr ⟨b, receiver, [], w, h⟩
  | set target t name v =>
    rcases w.refused_or_opens_set target t name v with h | h
    · exact .inl ⟨false, w.next, Nat.le_refl _, h⟩
    · exact .inr h

theorem respects_perform {call : Caller} (hcall : call.Respectful) {r : task.Result}
    (h : perform call task w = some (r, w')) : Respects none w w' := by
  rcases w.answered_or_opens task with ⟨r', n, hn, hr⟩ | ⟨b, receiver, ps, w₁, hopens⟩
  · rw [hr call] at h
    obtain ⟨-, rfl⟩ := Prod.mk.inj (Option.some.inj h)
    exact (spares_advance hn).respects none
  · obtain ⟨n, hn, rfl, hfree⟩ := hopens.eq_advance
    obtain ⟨outcome, w₂, hrun, hw⟩ := hopens.exists_run h
    have hbody := Body.respects_run hcall hrun
    have hleft := hbody.of_enter (w := { w with next := n }) hfree
    exact ((spares_advance hn).respects none).trans (hleft.trans (hw.respects none))

/-- However deep tasks are nested, they leave what is held as it was. -/
theorem respectful_evaluator (depth : Nat) : (evaluator depth).Respectful := by
  induction depth with
  | zero =>
    intro task r w w' h
    contradiction
  | succ depth ih =>
    intro task r w w' h
    exact respects_perform ih h

end World

end LateBound
