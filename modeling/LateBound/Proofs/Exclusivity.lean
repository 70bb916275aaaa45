import Mathlib.Logic.Relation
import LateBound.Proofs.Held
/-! An instance is for one body at a time. While host code runs with an instance as its receiver, no
call that it makes, directly or through any number of others, reaches that instance: its members
read as errors, writes are refused, overloads bound to it do not start. Only the code itself changes
it, and when the code has ended the instance is free. -/
namespace LateBound

/-- Host code at work: what is left of its program, its receiver, and how deep its calls may go. -/
structure Moment where
  depth : Nat
  receiver : Option ObjectRef
  program : Program
  world : World

def Program.outcome? : Program → Option (Except String Payload)
  | .done p => some (.ok p)
  | .fail m => some (.error m)
  | .panic p => some (.error p.message)
  | .ask _ _ => none

/-- What a request has the evaluator do, and in which world. -/
def Request.task? (w : World) : Request → Option (Task × World)
  | .call f args => some (.invoke (.function f) args, w)
  | .getMember p name =>
    let (target, w) := w.box p
    target.memberType?.map fun t => (.get target t name, w)
  | .setMember p name v =>
    let (target, w) := w.box p
    target.memberType?.map fun t => (.set target t name v, w)
  | _ => none

namespace Moment

open World

/-- The first moment of the host code that a task starts. Forwarding starts what the group
starts. -/
inductive Enters : Nat → Task → World → Moment → Prop
  | method {depth : Nat} {task : Task} {w w₁ : World} {receiver : Option Value} {ps : List Payload}
      {owner : String} {code : List Payload → Program} {o : ObjectRef}
      (h : Opens task w (.method owner code) receiver ps w₁)
      (ho : receiver.bind Value.object? = some o) :
      Enters (depth + 1) task w ⟨depth, some o, code ps, w₁.enter receiver⟩
  | free {depth : Nat} {task : Task} {w w₁ : World} {receiver : Option Value} {ps : List Payload}
      {code : List Payload → Program} (h : Opens task w (.free code) receiver ps w₁) :
      Enters (depth + 1) task w ⟨depth, receiver.bind Value.object?, code ps, w₁.enter receiver⟩
  | construct {depth : Nat} {task : Task} {w w₁ : World}
      {receiver : Option Value} {ps : List Payload}
      {t : TypeRef} {code : List Payload → Program}
      (h : Opens task w (.construct t code) receiver ps w₁) :
      Enters (depth + 1) task w
        ⟨depth, some ((w₁.enter receiver).newObject t { inUse := true }).1, code ps,
          ((w₁.enter receiver).newObject t { inUse := true }).2⟩
  | forward {depth : Nat} {task : Task} {w w₁ : World} {receiver : Option Value} {ps : List Payload}
      {g : MethodGroup} {m : Moment} (h : Opens task w (.forward g) receiver ps w₁)
      (hm : Enters depth (.invoke (.method g) ((w₁.enter receiver).boxAll ps).1)
        ((w₁.enter receiver).boxAll ps).2 m) :
      Enters (depth + 1) task w m

/-- The code goes on with the answer to what it asked for. -/
def Answered (m m' : Moment) : Prop :=
  ∃ request next a w, m.program = .ask request next ∧
    request.answer (evaluator m.depth) m.receiver m.world = some (a, w) ∧
    m' = ⟨m.depth, m.receiver, next a, w⟩

/-- Other code starts, because this one invokes, reads or writes. -/
def Called (m m' : Moment) : Prop :=
  ∃ request next task w, m.program = .ask request next ∧ request.task? m.world = some (task, w) ∧
    Enters m.depth task w m'

def Next (m m' : Moment) : Prop := m.Answered m' ∨ m.Called m'

def Own : Moment → Moment → Prop := Relation.ReflTransGen Answered

/-- The moments of the code and of all that it has run, from one on. -/
def Within : Moment → Moment → Prop := Relation.ReflTransGen Next

end Moment

namespace World

/-- No way leads to the instance, under whatever reference: its members are not read or written, the
overloads bound to it do not start, be they called or forwarded to. The world stays as it is. -/
structure Closed (w : World) (o : ObjectRef) : Prop where
  opens : ∀ {task b receiver ps w₁}, Opens task w b receiver ps w₁ →
    ∀ s, receiver.bind Value.object? = some s → s.id ≠ o.id
  read : ∀ ref t name a, ref.id = o.id → w.visibleAccessor? false t name = some a →
    a.isStatic = false → a.isReadable = true → ∀ call, w.getMember call (.object ref) t name =
      some (.error (.unknown s!"{ref.type.name} instance is already in use"), w)
  write : ∀ ref t name a v, ref.id = o.id → w.visibleAccessor? false t name = some a →
    a.isStatic = false → ∀ call, w.setMember call (.object ref) t name v = some (false, w)
  call : ∀ ref g args c, ref.id = o.id → g.target = some (.object ref) →
    w.choice? (.method g) args = some c → c.signature.isStatic = false →
      ∃ e n, w.start (.method g) args = .answer (.error e) { w with next := n } ∧
        ∀ call, w.invokeWith call (.method g) args = some (.error e, { w with next := n })
  forward : ∀ ref id g args c, ref.id = o.id → g.target = some (.object ref) →
    (w.passOn args).2.choice? (.method g) (w.passOn args).1 = some c →
      c.signature.isStatic = false →
      ∀ depth, ∃ e n, invoke (depth + 2) (.function (.forwarding id g)) args w =
        some (.error e, { w with next := n })

variable {w w' : World} {o : ObjectRef}

theorem heldReceiver?_of_inUse (h : (w.object o).inUse = true)
    {o' : ObjectRef} (ho : o'.id = o.id) :
    w.heldReceiver? (.object o') = some o' := by
  rw [heldReceiver?, w.object_congr ho, if_pos h]

theorem heldReceiver?_of_receiver (h : (w.object o).inUse = true)
    {ref : ObjectRef} (ho : ref.id = o.id)
    {a : Accessor} (hs : a.isStatic = false) :
    (a.receiverOf (.object ref)).bind w.heldReceiver? = some ref := by
  simp [Accessor.receiverOf, hs, heldReceiver?_of_inUse h ho]

theorem quiet_of_inUse (h : (w.object o).inUse = true) {o' : ObjectRef} (ho : o'.id = o.id)
    {g : MethodGroup} (hg : g.target = some (.object o')) {args : List Value} {c : Choice}
    (hc : w.choice? (.method g) args = some c) (hs : c.signature.isStatic = false) :
    w.Quiet (.method g) args := by
  have hreceiver : c.receiver? (.method g) = some (.object o') := by
    simp [Choice.receiver?, Signature.receiverOf, hs, Value.receiver?, hg]
  refine .inr (.inr ⟨c, o', hc, ?_⟩)
  rw [hreceiver, Option.bind_some]
  exact heldReceiver?_of_inUse h ho

theorem eq_object_of_object? {receiver : Option Value} (h : receiver.bind Value.object? = some o) :
    receiver = some (.object o) := by
  obtain ⟨v, rfl, hv⟩ := Option.bind_eq_some_iff.1 h
  cases v with
  | object o' =>
    obtain rfl := Option.some.inj hv
    rfl
  | _ => contradiction

theorem next_enter (w : World) (receiver : Option Value) : (w.enter receiver).next = w.next := by
  cases receiver with
  | none => rfl
  | some v => cases v <;> rfl

theorem object_enter {receiver : Option Value}
    (h : ∀ s, receiver.bind Value.object? = some s → s.id ≠ o.id) :
    (w.enter receiver).object o = w.object o := by
  cases receiver with
  | none => rfl
  | some v =>
    cases v with
    | object s => rw [enter, hold, object_setObject, if_neg (h s rfl)]
    | _ => rfl

theorem object_leave {receiver : Option Value}
    (h : ∀ s, receiver.bind Value.object? = some s → s.id ≠ o.id) :
    (w.leave receiver).object o = w.object o := by
  cases receiver with
  | none => rfl
  | some v =>
    cases v with
    | object s => rw [leave, release, object_setObject, if_neg (h s rfl)]
    | _ => rfl

theorem ne_of_free {receiver : Option Value} (hfree : receiver.bind w.heldReceiver? = none)
    (hu : (w.object o).inUse = true) : ∀ s, receiver.bind Value.object? = some s → s.id ≠ o.id := by
  intro s hs he
  rw [eq_object_of_object? hs, Option.bind_some, heldReceiver?_of_inUse hu he] at hfree
  contradiction

theorem closed_of_inUse (h : (w.object o).inUse = true) : w.Closed o where
  opens hopens := by
    obtain ⟨n, -, -, hfree⟩ := hopens.eq_advance
    exact ne_of_free hfree h
  read ref t name a ho ha hs hr call := by
    obtain ⟨b, hb⟩ := Option.isSome_iff_exists.1 hr
    rw [getMember_of_visible rfl ha, readAccessor_of_held hb (heldReceiver?_of_receiver h ho hs)]
    rfl
  write ref t name a v ho ha hs call := by
    cases hv : v.isError with
    | true => exact setMember_of_error (by simp [hv]) call
    | false =>
      have hne : ((Value.object ref).isError || v.isError) = false := hv
      rw [setMember_of_visible hne ha]
      exact writeAccessor_of_held (heldReceiver?_of_receiver h ho hs) call
  call ref g args c ho hg hc hs := by
    obtain ⟨e, n, -, hstart⟩ := start_of_quiet List.mem_cons_self (quiet_of_inUse h ho hg hc hs)
    exact ⟨e, n, hstart, fun call => by rw [invokeWith_eq_start, hstart, Start.run]⟩
  forward ref id g args c ho hg hc hs depth := by
    cases he : firstError? args with
    | some v =>
      obtain ⟨e, rfl⟩ := Value.isError_iff.1 (List.find?_some he)
      have hstart : w.start (.function (.forwarding id g)) args = .answer (.error e) w :=
        start_error_argument w rfl he
      exact ⟨e, w.next, invoke_of_answer hstart (depth + 1)⟩
    | none =>
      have hpassed : ((w.passOn args).2.object o).inUse = true := h
      obtain ⟨e, n, -, hstart⟩ :=
        start_of_quiet List.mem_cons_self (quiet_of_inUse hpassed ho hg hc hs)
      refine ⟨e, n, ?_⟩
      have hinvoke : invoke (depth + 2) (.function (.forwarding id g)) args w =
          invoke (depth + 1) (.method g) (w.passOn args).1 (w.passOn args).2 :=
        invokeWith_forwarding (evaluator (depth + 1)) w id g he
      rw [hinvoke, invoke_of_answer hstart depth]
      rfl

section Enter

variable {task : Task} {b : Body} {receiver : Option Value} {ps : List Payload} {w₁ : World}

theorem next_le_enter (hs : Opens task w b receiver ps w₁) :
    w.next ≤ (w₁.enter receiver).next := by
  obtain ⟨n, hn, rfl, -⟩ := hs.eq_advance
  rw [next_enter]
  exact hn

theorem enter_of_held (hs : Opens task w b receiver ps w₁) (hu : (w.object o).inUse = true) :
    (w₁.enter receiver).object o = w.object o ∧
      ∀ s, receiver.bind Value.object? = some s → s.id ≠ o.id := by
  obtain ⟨n, -, rfl, hfree⟩ := hs.eq_advance
  have hne := ne_of_free hfree hu
  exact ⟨object_enter hne, hne⟩

theorem enter_of_receiver (hs : Opens task w b receiver ps w₁)
    (hr : receiver.bind Value.object? = some o) :
    (w.object o).inUse = false ∧
    (w₁.enter receiver).object o = { w.object o with inUse := true } := by
  obtain ⟨n, -, rfl, hfree⟩ := hs.eq_advance
  obtain rfl := eq_object_of_object? hr
  have hu : (w.object o).inUse = false := by simpa [heldReceiver?] using hfree
  refine ⟨hu, ?_⟩
  rw [enter, hold, object_setObject, if_pos rfl]
  rfl

theorem ne_of_enter_free (h : ((w.enter receiver).object o).inUse = false) :
    ∀ s, receiver.bind Value.object? = some s → s.id ≠ o.id := by
  intro s hs he
  obtain rfl := eq_object_of_object? hs
  rw [enter, hold, object_setObject, if_pos he] at h
  contradiction

theorem next_le_forward (hs : Opens task w b receiver ps w₁) :
    w.next ≤ ((w₁.enter receiver).boxAll ps).2.next :=
  Nat.le_trans (next_le_enter hs) (spares_boxAll _ ps).next_le

theorem forward_of_held (hs : Opens task w b receiver ps w₁)
    (hu : (w.object o).inUse = true) : ((w₁.enter receiver).boxAll ps).2.object o = w.object o :=
  ((spares_boxAll _ ps).object_eq o).trans (enter_of_held hs hu).1

theorem forward_of_free (hs : Opens task w b receiver ps w₁)
    (hu : (((w₁.enter receiver).boxAll ps).2.object o).inUse = false) :
    ((w₁.enter receiver).boxAll ps).2.object o = w.object o ∧
      ∀ s, receiver.bind Value.object? = some s → s.id ≠ o.id := by
  have hbox := (spares_boxAll (w₁.enter receiver) ps).object_eq o
  rw [hbox] at hu ⊢
  have hne := ne_of_enter_free hu
  obtain ⟨n, -, rfl, -⟩ := hs.eq_advance
  exact ⟨object_enter hne, hne⟩

end Enter

end World

theorem Request.spares_task? {request : Request} {w w' : World} {task : Task}
    (h : request.task? w = some (task, w')) : w.Spares w' := by
  cases request with
  | call f args =>
    obtain ⟨-, rfl⟩ := Prod.mk.inj (Option.some.inj h)
    exact .refl w
  | getMember p name | setMember p name v =>
    obtain ⟨t, -, he⟩ := Option.map_eq_some_iff.1 h
    obtain ⟨-, rfl⟩ := Prod.mk.inj he
    exact w.spares_box p
  | _ => contradiction

namespace Moment

open World

variable {depth : Nat} {task : Task} {w w' : World} {m₀ m m' : Moment} {o : ObjectRef}

/-- Code that starts while an instance is held runs on another receiver and finds the instance as
it was. -/
theorem Enters.elsewhere (h : Enters depth task w m) (ho : o.id < w.next)
    (hu : (w.object o).inUse = true) :
    w.next ≤ m.world.next ∧ m.world.object o = w.object o ∧ ∀ s, m.receiver = some s →
    s.id ≠ o.id := by
  induction h with
  | method hs hr =>
    obtain ⟨hsame, hne⟩ := enter_of_held hs hu
    exact ⟨next_le_enter hs, hsame, fun s hs => hne s (hr.trans hs)⟩
  | free hs =>
    obtain ⟨hsame, hne⟩ := enter_of_held hs hu
    exact ⟨next_le_enter hs, hsame, hne⟩
  | construct hs =>
    have hnext := next_le_enter hs
    obtain ⟨hsame, -⟩ := enter_of_held hs hu
    have hlt := Nat.lt_of_lt_of_le ho hnext
    refine ⟨Nat.le_succ_of_le hnext, (object_newObject _ _ _ hlt).trans hsame, fun s hs => ?_⟩
    obtain rfl := Option.some.inj hs
    exact Nat.ne_of_gt hlt
  | forward hs h ih =>
    have hnext := next_le_forward hs
    have hsame := forward_of_held hs hu
    obtain ⟨hle, heq, hne⟩ := ih (Nat.lt_of_lt_of_le ho hnext) (by rw [hsame, hu])
    exact ⟨Nat.le_trans hnext hle, heq.trans hsame, hne⟩

theorem Enters.holds (h : Enters depth task w m) (hr : m.receiver = some o) (ho : o.id < w.next) :
    w.next ≤ m.world.next ∧ (w.object o).inUse = false ∧
      m.world.object o = { w.object o with inUse := true } := by
  induction h with
  | method hs hobject =>
    obtain rfl := Option.some.inj hr
    exact ⟨next_le_enter hs, enter_of_receiver hs hobject⟩
  | free hs => exact ⟨next_le_enter hs, enter_of_receiver hs hr⟩
  | construct hs =>
    obtain rfl := Option.some.inj hr
    exact absurd ho (Nat.not_lt.2 (next_le_enter hs))
  | forward hs h ih =>
    have hnext := next_le_forward hs
    obtain ⟨hle, hfree, heq⟩ := ih hr (Nat.lt_of_lt_of_le ho hnext)
    obtain ⟨hsame, -⟩ := forward_of_free hs hfree
    rw [hsame] at hfree heq
    exact ⟨Nat.le_trans hnext hle, hfree, heq⟩

/-- What holds of an instance while host code has it as its receiver: it is held, and only that code
runs on it. -/
structure Excludes (m₀ : Moment) (o : ObjectRef) (m : Moment) : Prop where
  below : o.id < m.world.next
  inUse : (m.world.object o).inUse = true
  receiver : (Own m₀ m ∧ m.receiver = some o) ∨ ∀ s, m.receiver = some s → s.id ≠ o.id

theorem Enters.excludes (h : Enters depth task w m₀) (hr : m₀.receiver = some o)
    (ho : o.id < w.next) : Excludes m₀ o m₀ := by
  obtain ⟨hnext, -, heq⟩ := h.holds hr ho
  exact ⟨Nat.lt_of_lt_of_le ho hnext, by rw [heq], .inl ⟨.refl, hr⟩⟩

theorem Excludes.answered (h : Excludes m₀ o m) (ha : m.Answered m') : Excludes m₀ o m' := by
  have hown : Own m₀ m → Own m₀ m' := fun hm => hm.tail ha
  obtain ⟨request, next, a, w, -, hw, rfl⟩ := ha
  have hrespects := Request.respects_answer (respectful_evaluator m.depth) hw
  refine ⟨Nat.lt_of_lt_of_le h.below hrespects.next_le, ?_,
    h.receiver.imp_left fun hm => ⟨hown hm.1, hm.2⟩⟩
  rw [hrespects.inUse_eq o h.below, h.inUse]

theorem Excludes.called (h : Excludes m₀ o m) (hc : m.Called m') :
    Excludes m₀ o m' ∧ m'.world.object o = m.world.object o := by
  obtain ⟨request, next, task, w, -, ht, he⟩ := hc
  have hasked := Request.spares_task? ht
  have hsame := hasked.object_eq o
  have hbelow := Nat.lt_of_lt_of_le h.below hasked.next_le
  obtain ⟨hnext, heq, hne⟩ := he.elsewhere hbelow (by rw [hsame, h.inUse])
  have heq := heq.trans hsame
  exact ⟨⟨Nat.lt_of_lt_of_le hbelow hnext, by rw [heq, h.inUse], .inr hne⟩, heq⟩

theorem Excludes.within (h : Excludes m₀ o m₀) (hm : Within m₀ m) : Excludes m₀ o m := by
  induction hm with
  | refl => exact h
  | tail _ hn ih =>
    rcases hn with ha | hc
    · exact ih.answered ha
    · exact (ih.called hc).1

/-- The instance changes in one way only: the code that it is the receiver of writes to it. -/
theorem Excludes.object_eq (h : Excludes m₀ o m) (hn : m.Next m') :
    m'.world.object o = m.world.object o ∨
      (Own m₀ m ∧ ∃ slot p next, m.program = .ask (.writeSlot slot p) next ∧
        m'.world = m.world.setSlot o slot p) := by
  rcases hn with ⟨request, next, a, w, hp, hw, rfl⟩ | hc
  · rcases h.receiver with ⟨hown, hr⟩ | hne
    · by_cases hwrite : ∃ slot p, request = .writeSlot slot p
      · obtain ⟨slot, p, rfl⟩ := hwrite
        rw [hr] at hw
        obtain ⟨-, rfl⟩ := Prod.mk.inj (Option.some.inj hw)
        exact .inr ⟨hown, slot, p, next, hp, rfl⟩
      · have hnone := Request.respects_none (respectful_evaluator m.depth)
          (fun slot p he => hwrite ⟨slot, p, he⟩) hw
        exact .inl (hnone.held_eq o h.below h.inUse nofun)
    · have hrespects := Request.respects_answer (respectful_evaluator m.depth) hw
      exact .inl (hrespects.held_eq o h.below h.inUse hne)
  · exact .inl (h.called hc).2

/-- A run of the code goes through its moments to an end. -/
theorem exists_own_of_run {r : Except String Payload}
    (h : m.program.run (evaluator m.depth) m.receiver m.world = some (r, w')) :
    ∃ m', Own m m' ∧ m'.program.outcome? = some r ∧ m'.world = w' := by
  obtain ⟨depth, receiver, p, w⟩ := m
  induction p generalizing w with
  | done p =>
    obtain ⟨rfl, rfl⟩ := Prod.mk.inj (Option.some.inj h)
    exact ⟨_, .refl, rfl, rfl⟩
  | fail m | panic p =>
    obtain ⟨rfl, rfl⟩ := Prod.mk.inj (Option.some.inj h)
    exact ⟨_, .refl, rfl, rfl⟩
  | ask request next ih =>
    dsimp only at h
    rw [Program.run] at h
    split at h
    · contradiction
    · rename_i a w₁ ha
      obtain ⟨m', hm', hout, hw⟩ := ih a w₁ h
      exact ⟨m', .head ⟨request, next, a, w₁, rfl, ha, rfl⟩ hm', hout, hw⟩

/-- When the task is over, the instance is as its code left it, and free. -/
theorem Enters.returns (h : Enters depth task w m₀) (hr : m₀.receiver = some o) (ho : o.id < w.next)
    {result : task.Result} (hv : evaluator depth task w = some (result, w')) :
    ∃ m r, Own m₀ m ∧ m.program.outcome? = some r ∧
      w'.object o = { m.world.object o with inUse := false } := by
  have hreleased (w₂ : World) : (w₂.release o).object o = { w₂.object o with inUse := false } := by
    rw [release, object_setObject, if_pos rfl]
  induction h generalizing w' with
  | @method depth task w w₁ receiver ps owner code o hs hobject =>
    obtain rfl := Option.some.inj hr
    obtain ⟨r, w₂, hrun, hw⟩ := hs.exists_run hv
    obtain rfl := eq_object_of_object? hobject
    have hcode : (code ps).run (evaluator depth) (some o) (w₁.enter (some (.object o))) =
      some (r, w₂) :=
      hrun
    obtain ⟨m, hm, hout, rfl⟩ := exists_own_of_run (m := ⟨depth, some o, code ps, _⟩) hcode
    exact ⟨m, r, hm, hout, (hw.object_eq _).trans (hreleased m.world)⟩
  | @free depth task w w₁ receiver ps code hs =>
    obtain ⟨r, w₂, hrun, hw⟩ := hs.exists_run hv
    obtain rfl := eq_object_of_object? hr
    have hcode : (code ps).run (evaluator depth) (some o) (w₁.enter (some (.object o))) =
      some (r, w₂) :=
      hrun
    obtain ⟨m, hm, hout, rfl⟩ := exists_own_of_run (m := ⟨depth, some o, code ps, _⟩) hcode
    exact ⟨m, r, hm, hout, (hw.object_eq _).trans (hreleased m.world)⟩
  | construct hs =>
    obtain rfl := Option.some.inj hr
    exact absurd ho (Nat.not_lt.2 (next_le_enter hs))
  | forward hs h ih =>
    have hlt := Nat.lt_of_lt_of_le ho (next_le_forward hs)
    obtain ⟨r, w₂, hrun, hw⟩ := hs.exists_run hv
    obtain ⟨⟨u, w₃⟩, hu, he⟩ := Option.map_eq_some_iff.1 hrun
    obtain ⟨-, rfl⟩ := Prod.mk.inj he
    obtain ⟨m, r', hm, hout, heq⟩ := ih hr hlt hu
    obtain ⟨-, hfree, -⟩ := h.holds hr hlt
    obtain ⟨-, hne⟩ := forward_of_free hs hfree
    exact ⟨m, r', hm, hout, (hw.object_eq o).trans ((object_leave hne).trans heq)⟩

end Moment

open World Moment in
/-- While host code runs with an instance as its receiver, be it a method, a getter or a setter, and
in all that it has run at any depth, no way leads to the instance, only that code runs on it, and it
changes only where that code writes to it. When the task is over, whatever the code ended with, the
instance is as the code left it, and free under every reference. -/
theorem receiver_exclusive {depth : Nat} {task : Task} {w : World} {m₀ : Moment} {o : ObjectRef}
    (he : Enters depth task w m₀) (hr : m₀.receiver = some o) (ho : o.id < w.next) :
    (∀ m, Within m₀ m → m.world.Closed o ∧ (Own m₀ m ∨ ∀ s, m.receiver = some s → s.id ≠ o.id)) ∧
    (∀ m m', Within m₀ m → m.Next m' → m'.world.object o = m.world.object o ∨
      (Own m₀ m ∧ ∃ slot p next, m.program = .ask (.writeSlot slot p) next ∧
        m'.world = m.world.setSlot o slot p)) ∧
    ∀ result w', evaluator depth task w = some (result, w') →
      (∃ m r, Own m₀ m ∧ m.program.outcome? = some r ∧
        w'.object o = { m.world.object o with inUse := false }) ∧
      ∀ o', o'.id = o.id → w'.heldReceiver? (.object o') = none := by
  have hexcludes := he.excludes hr ho
  refine ⟨fun m hm => ?_, fun m m' hm hn => (hexcludes.within hm).object_eq hn, fun result w' hv =>
    ?_⟩
  · have hwithin := hexcludes.within hm
    exact ⟨closed_of_inUse hwithin.inUse, hwithin.receiver.imp_left And.left⟩
  · refine ⟨he.returns hr ho hv, fun o' ho' => ?_⟩
    obtain ⟨m, r, -, -, heq⟩ := he.returns hr ho hv
    have hfree : (w'.object o').inUse = false := by rw [w'.object_congr ho', heq]
    simp [heldReceiver?, hfree]

open World Moment in
/-- A getter that reads itself, writes itself by its setter, which is refused, then writes to its
instance, and panics. -/
theorem receiver_exclusive_reentrant :
    let self : Payload := .object ⟨1, ⟨.declared 0, "Node"⟩⟩
    let code : Program :=
      .ask (.getMember self "n") fun _ => .ask (.setMember self "n" (.int 5)) fun _ =>
        .ask (.writeSlot "n" (.int 1)) fun _ => .panic .other
    let a : Accessor :=
      { name := "n", type := .int, isStatic := false, getter := some (.method "Node" fun _ => code)
        setter := some (.method "Node" fun _ => .demand (.writeSlot "n" (.int 5)) .done) }
    let r : Registration := { name := "Node", properties := [a] }
    let o : ObjectRef := ⟨1, ⟨.declared 0, "Node"⟩⟩
    let w : World := { next := 2, catalogs := OrderedMap.insert ∅ 0 (r.freeze (.declared 0)) }
    let task : Task := .get (.object o) o.type "n"
    ∃ m w', Enters 3 task w m ∧ m.world.Closed o ∧
      evaluator 3 task w = some (.error (.unknown "Node.n: native call panicked"), w') ∧
      w'.slot o "n" .null = .int 1 ∧ w'.heldReceiver? (.object o) = none := by
  intro self code a r o w task
  have he : Enters 3 task w ⟨2, some o, code, w.hold o⟩ :=
    .method (.get (a := a) rfl rfl rfl rfl) rfl
  obtain ⟨hclosed, -, hreturns⟩ := receiver_exclusive he rfl (Nat.lt_succ_self 1)
  obtain ⟨w', hv, hslot⟩ : ∃ w',
      evaluator 3 task w = some (.error (.unknown "Node.n: native call panicked"), w') ∧
        w'.slot o "n" .null = .int 1 := ⟨_, rfl, rfl⟩
  exact ⟨_, w', he, (hclosed _ .refl).1, hv, hslot, (hreturns _ _ hv).2 o rfl⟩

end LateBound
