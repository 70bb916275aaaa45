import LateBound.Environment
/-! An invocation first chooses what to run and then runs it. The choice is made without any host
code; what runs is one body or nothing. -/
namespace LateBound

/-- What an invocation has come to before host code runs. -/
inductive Start
  | answer (v : Value) (w : World)
  | body (s : Signature) (receiver : Option Value) (args : List Payload) (w : World)

def Start.run (call : Caller) : Start → Option (Value × World)
  | answer v w => some (v, w)
  | body s receiver args w =>
    (s.body.run call receiver args (w.enter receiver)).map fun (r, w) =>
      Signature.finish s.name s.returnsVoid r (w.leave receiver)

namespace World

variable {w : World} {receiver : Option Value}

theorem runOn_of_held {o : ObjectRef} (h : receiver.bind w.heldReceiver? = some o) (call : Caller)
    (args : List Payload) (b : Body) : w.runOn call receiver args b = .error o.inUseFailure := by
  rw [runOn, h]

theorem runOn_of_free (h : receiver.bind w.heldReceiver? = none)
    (call : Caller) (args : List Payload)
    (b : Body) : w.runOn call receiver args b =
      .ok ((b.run call receiver args (w.enter receiver)).map fun (r, w) =>
        (r, w.leave receiver)) := by
  rw [runOn, h]

end World

namespace Signature

/-- An instance in use is not entered. -/
def start (s : Signature) (target : Option Value) (args : List Payload) (w : World) : Start :=
  match (s.receiverOf target).bind w.heldReceiver? with
  | some o => .answer (.error o.inUseFailure) w
  | none => .body s (s.receiverOf target) args w

variable {s : Signature} {target : Option Value} {w : World}

theorem start_of_held {o : ObjectRef} (h : (s.receiverOf target).bind w.heldReceiver? = some o)
    (args : List Payload) : s.start target args w = .answer (.error o.inUseFailure) w := by
  rw [start, h]

theorem start_of_free (h : (s.receiverOf target).bind w.heldReceiver? = none)
    (args : List Payload) :
    s.start target args w = .body s (s.receiverOf target) args w := by
  rw [start, h]

theorem start_none (s : Signature) (args : List Payload) (w : World) :
    s.start none args w = .body s none args w := by
  have hreceiver : s.receiverOf none = none := ite_self _
  rw [start, hreceiver]
  rfl

theorem dispatch_eq_start (call : Caller) (s : Signature)
    (target : Option Value) (args : List Payload)
    (w : World) : s.dispatch call target args w = (s.start target args w).run call := by
  rw [dispatch, Body.dispatch, start]
  cases h : (s.receiverOf target).bind w.heldReceiver? with
  | some o => rw [World.runOn_of_held h, Start.run]
  | none =>
    rw [World.runOn_of_free h]
    exact Option.map_map ..

theorem receiverOf_of_method (hs : s.isStatic = false) (target : Option Value) :
    s.receiverOf target = target := by
  rw [receiverOf, hs]
  rfl

end Signature

namespace World

variable {receiver : Value}

theorem heldReceiver?_of_not_object (hr : receiver.object? = none) (w : World) :
    w.heldReceiver? receiver = none := by
  cases receiver with
  | object o => contradiction
  | _ => rfl

theorem enter_of_not_object (hr : receiver.object? = none) (w : World) :
    w.enter (some receiver) = w := by
  cases receiver with
  | object o => contradiction
  | _ => rfl

theorem leave_of_not_object (hr : receiver.object? = none) (w : World) :
    w.leave (some receiver) = w := by
  cases receiver with
  | object o => contradiction
  | _ => rfl

end World

theorem Body.dispatch_of_not_object {receiver : Value}
    (hr : receiver.object? = none) (call : Caller)
    (callee : String) (returnsVoid : Bool) (args : List Payload) (b : Body) (w : World) :
    b.dispatch call callee returnsVoid (some receiver) args w =
      (b.run call (some receiver) args w).map fun (r, w) =>
        Signature.finish callee returnsVoid r w := by
  have hfree : (some receiver).bind w.heldReceiver? = none := World.heldReceiver?_of_not_object hr w
  simp only [dispatch, World.runOn_of_free hfree, World.enter_of_not_object hr,
    World.leave_of_not_object hr, Option.map_map]
  rfl

theorem Signature.start_of_method {s : Signature} {receiver : Value} (hs : s.isStatic = false)
    (hr : receiver.object? = none) (args : List Payload) (w : World) :
    s.start (some receiver) args w = .body s (some receiver) args w := by
  have hreceiver := receiverOf_of_method hs (some receiver)
  have hfree : (s.receiverOf (some receiver)).bind w.heldReceiver? = none := by
    rw [hreceiver]
    exact World.heldReceiver?_of_not_object hr w
  rw [start_of_free hfree, hreceiver]

theorem Start.run_body_of_method {receiver : Value} (hr : receiver.object? = none) (call : Caller)
    (s : Signature) (args : List Payload) (w : World) :
    (Start.body s (some receiver) args w).run call =
      (s.body.run call (some receiver) args w).map fun (r, w) =>
        Signature.finish s.name s.returnsVoid r w := by
  simp only [run, World.enter_of_not_object hr, World.leave_of_not_object hr]

namespace World

def startOverloads (candidates : List Signature) (target : Option Value) (args : List Value)
    (callee : String) (w : World) : Start :=
  match firstError? args with
  | some e => .answer e w
  | none =>
    let (ps, next) := Value.payloads w.next args
    match Overload.resolve next candidates ps callee with
    | .error e => .answer (.error e) w
    | .ok r => r.signature.start target r.binding.arguments { w with next := r.binding.next }

def startConstruct (t : TypeRef) (args : List Value) (w : World) : Start :=
  let c := w.catalog t
  match firstError? args with
  | some e => .answer e w
  | none =>
    let (ps, next) := Value.payloads w.next args
    match Overload.resolve next c.constructors ps c.constructorName with
    | .ok r => r.signature.start none r.binding.arguments { w with next := r.binding.next }
    | .error _ =>
      match if args.isEmpty then c.defaultConstructor else none with
      | some s => s.start none [] w
      | none => .answer (.error (.invalidArgumentCount c.constructorName args.length)) w

def start (w : World) (target : Value) (args : List Value) : Start :=
  match target with
  | .error e => .answer (.error e) w
  | .type t => w.startConstruct t args
  | .method g => w.startOverloads (w.overloads g) g.target args g.qualifiedName
  | .function f => w.startOverloads [w.signature f] none args (w.signature f).name
  | v => .answer (.error (.notInvocable v.typeName)) w

theorem invokeOverloads_eq_start (call : Caller) (candidates : List Signature)
    (target : Option Value) (args : List Value) (callee : String) (w : World) :
    w.invokeOverloads call candidates target args callee =
      (w.startOverloads candidates target args callee).run call := by
  unfold invokeOverloads startOverloads
  cases firstError? args with
  | some e => rfl
  | none =>
    dsimp only
    cases Overload.resolve (Value.payloads w.next args).2 candidates
      (Value.payloads w.next args).1 callee with
    | error e => rfl
    | ok r => exact r.signature.dispatch_eq_start call target _ _

theorem construct_eq_start (call : Caller) (t : TypeRef) (args : List Value) (w : World) :
    w.construct call t args = (w.startConstruct t args).run call := by
  unfold construct startConstruct
  dsimp only
  cases firstError? args with
  | some e => rfl
  | none =>
    dsimp only
    cases Overload.resolve (Value.payloads w.next args).2 (w.catalog t).constructors
      (Value.payloads w.next args).1 (w.catalog t).constructorName with
    | error e =>
      dsimp only
      cases (if args.isEmpty then (w.catalog t).defaultConstructor else none) with
      | none => rfl
      | some s => exact s.dispatch_eq_start call none [] w
    | ok r => exact r.signature.dispatch_eq_start call none _ _

/-- Invoking is choosing what to run and running it. -/
theorem invokeWith_eq_start (call : Caller) (target : Value) (args : List Value) (w : World) :
    w.invokeWith call target args = (w.start target args).run call := by
  cases target with
  | type t => exact w.construct_eq_start call t args
  | method g => exact w.invokeOverloads_eq_start call _ _ args _
  | function f => exact w.invokeOverloads_eq_start call _ _ args _
  | _ => rfl

theorem invoke_succ (depth : Nat) (target : Value) (args : List Value) (w : World) :
    invoke (depth + 1) target args w = (w.start target args).run (evaluator depth) :=
  w.invokeWith_eq_start (evaluator depth) target args

end World

end LateBound
