import LateBound.Proofs.Invocation
import LateBound.Proofs.OrderedMap
import LateBound.Proofs.Resolution
import LateBound.Proofs.Scene
/-! Members of the built-in kinds. Reading one gives a property or a method bound to the value it
was read from; calling that method runs at most one built-in body, and apart from it only takes
unused numbers. -/
namespace LateBound

namespace Registration

theorem forall_group {methods : List Signature} {V : Signature → Prop} (h : ∀ s ∈ methods, V s) :
    (group methods).Forall (fun _ => True) (fun ss => ∀ s ∈ ss, V s) := by
  have hfold : ∀ (l : List Signature) (m : OrderedMap String (List Signature)),
      (∀ s ∈ l, V s) → m.Forall (fun _ => True) (fun ss => ∀ s ∈ ss, V s) →
      (l.foldl (fun m s => m.insert s.name (m.getD s.name [] ++ [s])) m).Forall (fun _ => True)
        (fun ss => ∀ s ∈ ss, V s) := by
    intro l
    induction l with
    | nil => exact fun m _ hm => hm
    | cons s rest ih =>
      intro m hl hm
      obtain ⟨hs, hrest⟩ := List.forall_mem_cons.1 hl
      refine ih _ hrest (hm.insert trivial fun t ht => ?_)
      rcases List.mem_append.1 ht with ht | ht
      · exact hm.getD (fun _ h => absurd h List.not_mem_nil) t ht
      · obtain rfl := List.mem_singleton.1 ht
        exact hs
  exact hfold methods ∅ h OrderedMap.forall_empty

end Registration

namespace BuiltinKind

def Method (s : Signature) : Prop := s.isStatic = false ∧ ∃ m, s.body = .builtin m

theorem method_of_mem (kind : BuiltinKind) : ∀ s ∈ kind.registration.methods, Method s := by
  cases kind <;> simp [registration, boolMethods, numberMethods, textMethods, listMethods,
    dictMethods, instanceMethod, Method]

theorem method_of_mem_overloads {kind : BuiltinKind} {name : String} {s : Signature}
    (h : s ∈ kind.catalog.overloads name) : Method s := by
  have hg := Registration.forall_group kind.method_of_mem
  exact hg.getD (fun _ h => absurd h List.not_mem_nil) s h

def Property (a : Accessor) : Prop := a.isStatic = false ∧ ∃ p, a.getter = some (.property p)

theorem property_of_accessor? {kind : BuiltinKind} {name : String} {a : Accessor}
    (h : kind.catalog.accessor? name = some a) : Property a := by
  have hall : ∀ a ∈ kind.catalog.accessors, Property a := by
    cases kind <;> simp [catalog, Registration.freeze, registration, Catalog.accessors, readOnly,
      Property]
  exact hall a (List.mem_of_find?_eq_some h)

end BuiltinKind

def Payload.Scalar : Payload → Prop
  | .bool _ | .int _ | .float _ | .text _ => True
  | _ => False

namespace Payload.Scalar

variable {p : Payload}

theorem box_ne_list (h : p.Scalar) (w : World) (l : ListRef) : (w.box p).1 ≠ .list l := by
  cases p <;> simp_all [Scalar, World.box, Value.ofPayload, Value.int, Value.float]

theorem box_ne_method (h : p.Scalar) (w : World) (g : MethodGroup) : (w.box p).1 ≠ .method g := by
  cases p <;> simp_all [Scalar, World.box, Value.ofPayload, Value.int, Value.float]

end Payload.Scalar

theorem HostKind.scalar_ofInt (n : Int) : (ofInt n).Scalar := by
  unfold ofInt
  split <;> trivial

theorem BuiltinProperty.read_cases {p : BuiltinProperty} {target : Value} {q : Payload}
    {w w' : World} (h : p.read (some target) w = .ok (q, w')) :
    (w' = w ∧ q.Scalar) ∨ ∃ d, target = .dict d ∧ ∃ l, q = .list l ∧
      (w.newList d.key ((w.entries d).keys.map Key.toPayload) = (l, w') ∨
        w.newList d.value (w.entries d).values = (l, w')) := by
  have scalar {q' : Payload} (he : (Except.ok (q', w) : Computed) = .ok (q, w'))
      (hq : q'.Scalar) : w' = w ∧ q.Scalar := by
    obtain ⟨rfl, rfl⟩ := Prod.mk.inj (Except.ok.inj he)
    exact ⟨rfl, hq⟩
  cases target with
  | number n =>
    cases p with
    | isInteger => exact .inl (scalar h trivial)
    | _ => contradiction
  | text t =>
    cases p with
    | length => exact .inl (scalar h (HostKind.scalar_ofInt _))
    | _ => contradiction
  | list l =>
    cases p with
    | listCount => exact .inl (scalar h (HostKind.scalar_ofInt _))
    | _ => contradiction
  | dict d =>
    cases p with
    | dictCount => exact .inl (scalar h (HostKind.scalar_ofInt _))
    | keys =>
      obtain ⟨rfl, rfl⟩ := Prod.mk.inj (Except.ok.inj h)
      exact .inr ⟨d, rfl, _, rfl, .inl rfl⟩
    | values =>
      obtain ⟨rfl, rfl⟩ := Prod.mk.inj (Except.ok.inj h)
      exact .inr ⟨d, rfl, _, rfl, .inr rfl⟩
    | _ => contradiction
  | _ => cases p <;> contradiction

def Value.builtinKind? : Value → Option BuiltinKind
  | .bool _ => some .bool
  | .number _ => some .number
  | .text _ => some .string
  | .list _ => some .list
  | .dict _ => some .dict
  | _ => none

theorem Value.object?_of_builtinKind {v : Value} {kind : BuiltinKind}
    (h : v.builtinKind? = some kind) :
    v.object? = none := by
  cases v with
  | object o => contradiction
  | _ => rfl

namespace Value

theorem length_payloads (next : Nat) (vs : List Value) : (payloads next vs).1.length =
    vs.length := by
  induction vs generalizing next with
  | nil => rfl
  | cons v vs ih => exact congrArg (· + 1) (ih _)

theorem payloads_ne_boxed (next : Nat) (vs : List Value) :
    ∀ p ∈ (payloads next vs).1, ∀ u, p ≠ .boxed u := by
  induction vs generalizing next with
  | nil => exact fun p hp => absurd hp List.not_mem_nil
  | cons v vs ih => exact List.forall_mem_cons.2 ⟨v.payload_ne_boxed next, ih _⟩

end Value

theorem bindArguments_any {ps : List Parameter} {args : List Payload} (hp : ∀ p ∈ ps, p.type = .any)
    (ha : ∀ a ∈ args, ∀ u, a ≠ .boxed u) (next index : Nat) :
    bindArguments next index ps args =
      .ok ⟨args ++ (ps.drop args.length).map (·.default.getD .null),
        .ofNat args.length, next⟩ := by
  induction args generalizing ps index with
  | nil => simp [bindArguments]
  | cons a as ih =>
    obtain ⟨hane, has⟩ := List.forall_mem_cons.1 ha
    have htype : (ps.head?.map (·.type)).getD .any = .any := by
      cases ps with
      | nil => rfl
      | cons p rest => exact hp p List.mem_cons_self
    have hrest := ih (fun p h => hp p (List.mem_of_mem_tail h)) has (index + 1)
    have hcost : Conversion.wideningCost + UInt32.ofNat as.length = .ofNat (as.length + 1) := by
      rw [UInt32.ofNat_add, UInt32.add_comm]
      rfl
    simp only [bindArguments, htype, Payload.convert_any hane, hrest, List.length_cons,
      List.cons_append,
      List.drop_tail, hcost]

theorem Signature.bind_any {s : Signature} {args : List Payload}
    (hp : ∀ p ∈ s.parameters, p.type = .any)
    (ha : s.acceptsArity args.length = true) (hargs : ∀ a ∈ args, ∀ u, a ≠ .boxed u) (next : Nat) :
    s.bind next args =
      .ok ⟨args ++ (s.parameters.drop args.length).map (·.default.getD .null),
        .ofNat args.length, next⟩ := by
  rw [bind, if_pos ha]
  exact bindArguments_any hp hargs next 0

namespace Overload

variable {s : Signature} {args : List Payload} {next : Nat}

theorem resolve_of_bind {b : Binding} (h : s.bind next args = .ok b) (callee : String) :
    resolve next [s] args callee = .ok ⟨0, s, b, s.parameters.length - args.length⟩ := by
  simp only [resolve, choose, h, keep]

theorem resolve_of_not_bind {r : Rejection} (h : s.bind next args = .error r) (callee : String) :
    ∃ e, resolve next [s] args callee = .error e := by
  simp only [resolve, choose, h]
  split <;> exact ⟨_, rfl⟩

theorem resolve_any (hp : ∀ p ∈ s.parameters, p.type = .any)
    (ha : s.acceptsArity args.length = true)
    (hargs : ∀ a ∈ args, ∀ u, a ≠ .boxed u) (next : Nat) (callee : String) :
    resolve next [s] args callee =
      .ok ⟨0, s, ⟨args ++ (s.parameters.drop args.length).map (·.default.getD .null),
        .ofNat args.length, next⟩, s.parameters.length - args.length⟩ :=
  resolve_of_bind (Signature.bind_any hp ha hargs next) callee

end Overload

namespace World

variable {w w' : World}

theorem getNamed_eq_getMember {target : Value} {kind : BuiltinKind}
    (ht : target.builtinKind? = some kind)
    (call : Caller) (w : World) (name : String) :
    w.getNamed call target name = w.getMember call target (.builtin kind) name := by
  cases target <;> simp only [Value.builtinKind?, Option.some.injEq, reduceCtorEq] at ht <;>
    subst ht <;> rfl

theorem readAccessor_property {target : Value} (ho : target.object? = none) {a : Accessor}
    (hs : a.isStatic = false) {p : BuiltinProperty}
    (hg : a.getter = some (.property p)) (call : Caller)
    (w : World) (t : TypeRef) : w.readAccessor call t target a =
      some (match p.read (some target) w with
        | .ok (q, w₁) => w₁.box q
        | .error m => (.error (.unknown s!"{t.name}.{a.name}: {m}"), w)) := by
  have hreceiver : a.receiverOf target = some target := by rw [Accessor.receiverOf, hs]; rfl
  rw [readAccessor, hg]
  dsimp only
  rw [hreceiver, Body.dispatch_of_not_object ho, Body.run]
  cases p.read (some target) w <;> rfl

theorem getNamed_builtin {target : Value} {kind : BuiltinKind}
    (ht : target.builtinKind? = some kind)
    (w : World) (name : String) :
    (∃ (p : BuiltinProperty) (q : Payload) (w₁ : World), p.read (some target) w = .ok (q, w₁) ∧
        ∀ call, w.getNamed call target name = some (w₁.box q)) ∨
      (∃ e, ∀ call, w.getNamed call target name = some (.error e, w)) ∨
        ∃ is, ∀ call, w.getNamed call target name =
          some (.method (.bound target (.builtin kind) name is), w) := by
  have ho : target.object? = none := Value.object?_of_builtinKind ht
  have hn : target.isError = false ∧ target.isType = false := by
    cases target with
    | error _ | type _ => contradiction
    | _ => exact ⟨rfl, rfl⟩
  obtain ⟨he, hs⟩ := hn
  simp only [getNamed_eq_getMember ht, getMember, he, hs]
  cases ha : w.visibleAccessor? false (.builtin kind) name with
  | none =>
    dsimp only
    cases w.visibleOverloads false (.builtin kind) name with
    | nil => exact .inr (.inl ⟨_, fun _ => rfl⟩)
    | cons i is => exact .inr (.inr ⟨i :: is, fun _ => rfl⟩)
  | some a =>
    obtain ⟨ha, -⟩ := Option.filter_eq_some_iff.1 ha
    obtain ⟨hst, p, hg⟩ := BuiltinKind.property_of_accessor? ha
    have hread (call : Caller) := readAccessor_property ho hst hg call w (.builtin kind)
    cases hp : p.read (some target) w with
    | ok r => exact .inl ⟨p, r.1, r.2, hp, fun call => by simp [hread, hp]⟩
    | error m => exact .inr (.inl ⟨_, fun call => by simp only [hread, hp]; rfl⟩)

theorem eq_bound_of_getNamed {target : Value} {kind : BuiltinKind} {name : String} {g : MethodGroup}
    {call : Caller} (ht : target.builtinKind? = some kind)
    (h : w.getNamed call target name = some (.method g, w')) :
    ∃ is, g = .bound target (.builtin kind) name is := by
  rcases getNamed_builtin ht w name with ⟨p, q, w₁, hp, he⟩ | ⟨e, he⟩ | ⟨is, he⟩ <;> rw [he] at h
  · have hbox : (w₁.box q).1 = .method g := congrArg Prod.fst (Option.some.inj h)
    rcases BuiltinProperty.read_cases hp with ⟨_, hq⟩ | ⟨_, _, l, rfl, _⟩
    · exact absurd hbox (hq.box_ne_method w₁ g)
    · contradiction
  · cases h
  · exact ⟨is, (Value.method.inj (Prod.mk.inj (Option.some.inj h)).1).symm⟩

theorem mem_overloads {g : MethodGroup} {s : Signature} (h : s ∈ w.overloads g) :
    s ∈ (w.catalog g.owner).overloads g.name := by
  obtain ⟨i, _, hi⟩ := List.mem_filterMap.1 h
  exact List.mem_of_getElem? hi

theorem start_builtin {receiver : Value} (hr : receiver.object? = none) (kind : BuiltinKind)
    (name : String) (overloads : List Nat) (args : List Value) :
    (∃ e, w.start (.method (.bound receiver (.builtin kind) name overloads)) args =
        .answer (.error e) w) ∨
      ∃ s ps n, BuiltinKind.Method s ∧ w.next ≤ n ∧
        w.start (.method (.bound receiver (.builtin kind) name overloads)) args =
          .body s (some receiver) ps { w with next := n } := by
  unfold start startOverloads
  cases he : firstError? args with
  | some e =>
    obtain ⟨f, rfl⟩ := Value.isError_iff.1 (List.find?_some he)
    exact .inl ⟨f, rfl⟩
  | none =>
    dsimp only
    split
    · exact .inl ⟨_, rfl⟩
    · rename_i r hres
      obtain ⟨hd, hb, _⟩ := (Overload.resolve_ok_iff_least.1 hres).1
      have hs := BuiltinKind.method_of_mem_overloads (mem_overloads (List.mem_of_getElem? hd))
      have hn := Nat.le_trans (Value.payloads_next_le w.next args) (Signature.bind_next_le hb)
      exact .inr ⟨r.signature, r.binding.arguments, r.binding.next, hs, hn,
        Signature.start_of_method hs.1 hr _ _⟩

/-- What a call of a built-in method comes to: an error and no change but in the numbers in use, or
the result of the method. -/
theorem invoke_builtin {receiver v : Value} {kind : BuiltinKind} {name : String}
    {overloads : List Nat} {args : List Value} {depth : Nat} (hr : receiver.object? = none)
    (h : invoke depth (.method (.bound receiver (.builtin kind) name overloads)) args w =
      some (v, w')) :
    ((∃ e, v = .error e) ∧ w.Extends w') ∨
      ∃ m ps n p w₁, w.next ≤ n ∧
        BuiltinMethod.run m (some receiver) ps { w with next := n } = .ok (p, w₁) ∧
        w₁.Extends w' ∧ (v = .void ∨ v = (w₁.box p).1) := by
  cases depth with
  | zero => contradiction
  | succ depth =>
    rw [invoke_succ] at h
    rcases w.start_builtin hr kind name overloads args with ⟨e, he⟩ | ⟨s, ps, n, hs, hn, he⟩
    · rw [he] at h
      obtain ⟨rfl, rfl⟩ := Prod.mk.inj (Option.some.inj h)
      exact .inl ⟨⟨e, rfl⟩, .refl w⟩
    · obtain ⟨_, m, hm⟩ := hs
      rw [he, Start.run_body_of_method hr, hm, Body.run] at h
      cases hrun : m.run (some receiver) ps { w with next := n } with
      | error message =>
        rw [hrun] at h
        obtain ⟨rfl, rfl⟩ := Prod.mk.inj (Option.some.inj h)
        exact .inl ⟨⟨_, rfl⟩, extends_advance hn⟩
      | ok r =>
        obtain ⟨p, w₁⟩ := r
        rw [hrun] at h
        have h : Signature.finish s.name s.returnsVoid (.ok p) w₁ = (v, w') := Option.some.inj h
        refine .inr ⟨m, ps, n, p, w₁, hn, hrun, ?_⟩
        unfold Signature.finish at h
        dsimp only at h
        split at h
        · obtain ⟨rfl, rfl⟩ := Prod.mk.inj h
          exact ⟨.refl w₁, .inl rfl⟩
        · have hv : v = (w₁.box p).1 := by rw [h]
          have hw : w' = (w₁.box p).2 := by rw [h]
          rw [hw]
          exact ⟨w₁.extends_box p, .inr hv⟩

section SingleOverload

variable {g : MethodGroup} {s : Signature} {receiver : Value} {args : List Value}

theorem invoke_of_bind {b : Binding} (hg : w.overloads g = [s]) (ht : g.target = some receiver)
    (hr : receiver.object? = none) (hs : s.isStatic = false) (hv : firstError? args = none)
    (hb : s.bind (Value.payloads w.next args).2 (Value.payloads w.next args).1 = .ok b)
    (depth : Nat) :
    invoke (depth + 1) (.method g) args w =
      (Start.body s (some receiver) b.arguments { w with next := b.next }).run
        (evaluator depth) := by
  have hres := Overload.resolve_of_bind hb g.qualifiedName
  rw [invoke_succ, start, startOverloads, hv, hg, ht]
  simp only [hres]
  rw [Signature.start_of_method hs hr]

theorem invoke_of_not_bind {r : Rejection} (hg : w.overloads g = [s]) (hv : firstError? args = none)
    (hb : s.bind (Value.payloads w.next args).2 (Value.payloads w.next args).1 = .error r)
    (depth : Nat) :
    ∃ e, invoke (depth + 1) (.method g) args w = some (.error e, w) := by
  obtain ⟨e, hres⟩ := Overload.resolve_of_not_bind hb g.qualifiedName
  refine ⟨e, ?_⟩
  rw [invoke_succ, start, startOverloads, hv, hg]
  simp only [hres]
  rfl

/-- A method whose parameters take anything runs on the payloads of its arguments, and then on the
defaults of the parameters left over. -/
theorem invoke_of_any (hg : w.overloads g = [s]) (ht : g.target = some receiver)
    (hr : receiver.object? = none) (hs : s.isStatic = false)
    (hp : ∀ p ∈ s.parameters, p.type = .any)
    (ha : s.acceptsArity args.length = true) (hv : firstError? args = none) (depth : Nat) :
    invoke (depth + 1) (.method g) args w =
      (Start.body s (some receiver) ((Value.payloads w.next args).1 ++
          (s.parameters.drop args.length).map (·.default.getD .null))
        { w with next := (Value.payloads w.next args).2 }).run (evaluator depth) := by
  have hlength := Value.length_payloads w.next args
  have hb := Signature.bind_any hp (by rw [hlength]; exact ha) (Value.payloads_ne_boxed w.next args)
    (Value.payloads w.next args).2
  rw [invoke_of_bind hg ht hr hs hv hb, hlength]

end SingleOverload

def callNamed (depth : Nat) (w : World) (target : Value) (name : String) (args : List Value) :
    Option (Value × World) :=
  (w.getNamed (evaluator depth) target name).bind fun (f, w) => invoke depth f args w

theorem callNamed_of_getNamed {target f : Value} {name : String}
    (hget : ∀ call, w.getNamed call target name = some (f, w')) (args : List Value) (depth : Nat) :
    callNamed depth w target name args = invoke depth f args w' := by
  rw [callNamed, hget, Option.bind_some]

theorem callNamed_of_error {target e : Value} {name : String} {g : MethodGroup} {args : List Value}
    (hget : ∀ call, w.getNamed call target name = some (.method g, w))
    (he : firstError? args = some e)
    (depth : Nat) : callNamed (depth + 1) w target name args = some (e, w) := by
  have hstart : w.start (.method g) args = .answer e w := by rw [start, startOverloads, he]
  rw [callNamed_of_getNamed hget, invoke_succ, hstart, Start.run]

section Method

variable {target : Value} {kind : BuiltinKind} {s : Signature}

theorem getNamed_method (hk : target.builtinKind? = some kind) (hs : s ∈ kind.registration.methods)
    (w : World) :
    (∀ call, w.getNamed call target s.name =
        some (.method (.bound target (.builtin kind) s.name [0]), w)) ∧
      w.overloads (.bound target (.builtin kind) s.name [0]) = [s] := by
  cases target <;> simp only [Value.builtinKind?, Option.some.injEq, reduceCtorEq] at hk <;>
    subst hk <;>
    simp only [BuiltinKind.registration, BuiltinKind.boolMethods, BuiltinKind.numberMethods,
      BuiltinKind.textMethods,
      BuiltinKind.listMethods, BuiltinKind.dictMethods, List.mem_cons, List.not_mem_nil,
        or_false] at hs
  case bool b =>
    subst hs
    exact ⟨fun _ => rfl, rfl⟩
  case number n => rcases hs with rfl | rfl | rfl | rfl | rfl | rfl | rfl <;>
    exact ⟨fun _ => rfl, rfl⟩
  case text t => rcases hs with rfl | rfl | rfl | rfl | rfl | rfl | rfl | rfl | rfl | rfl <;>
    exact ⟨fun _ => rfl, rfl⟩
  case list l => rcases hs with rfl | rfl | rfl | rfl | rfl | rfl <;> exact ⟨fun _ => rfl, rfl⟩
  case dict d => rcases hs with rfl | rfl | rfl | rfl <;> exact ⟨fun _ => rfl, rfl⟩

theorem callNamed_method {m : BuiltinMethod} {args : List Value} {b : Binding}
    (hk : target.builtinKind? = some kind) (hs : s ∈ kind.registration.methods)
    (hm : s.body = .builtin m)
    (hargs : firstError? args = none)
    (hb : s.bind (Value.payloads w.next args).2 (Value.payloads w.next args).1 = .ok b)
    (depth : Nat) :
    callNamed (depth + 1) w target s.name args =
      match m.run (some target) b.arguments { w with next := b.next } with
      | .ok (p, w') => some (Signature.finish s.name s.returnsVoid (.ok p) w')
      | .error message =>
        some (.error (.unknown s!"{s.name}: {message}"), { w with next := b.next }) := by
  obtain ⟨hget, hover⟩ := getNamed_method hk hs w
  obtain ⟨hstatic, -⟩ := kind.method_of_mem s hs
  have hobject : target.object? = none := Value.object?_of_builtinKind hk
  rw [callNamed_of_getNamed hget, invoke_of_bind hover rfl hobject hstatic hargs hb,
    Start.run_body_of_method hobject, hm, Body.run]
  cases m.run (some target) b.arguments { w with next := b.next } <;> rfl

end Method

end World

end LateBound
