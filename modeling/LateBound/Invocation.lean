import LateBound.Member
import LateBound.Overload
/-! Invocation: the best overload is chosen, its body runs on the bound arguments, and the result is
boxed. A body that fails makes an error; nothing else does. -/
namespace LateBound

namespace Signature

/-- A static overload has no receiver. -/
def receiverOf (s : Signature) (target : Option Value) : Option Value :=
  if s.isStatic then none else target

def dispatch (call : Caller) (s : Signature) (target : Option Value) (args : List Payload)
    (w : World) : Option (Value × World) :=
  s.body.dispatch call s.name s.returnsVoid (s.receiverOf target) args w

end Signature

namespace World

def firstError? (args : List Value) : Option Value := args.find? Value.isError

/-- Chooses among candidates and dispatches. An error among the arguments is the result. -/
def invokeOverloads (call : Caller) (candidates : List Signature) (target : Option Value)
    (args : List Value) (callee : String) (w : World) : Option (Value × World) :=
  match firstError? args with
  | some e => some (e, w)
  | none =>
    let (ps, next) := Value.payloads w.next args
    match Overload.resolve next candidates ps callee with
    | .error e => some (.error e, w)
    | .ok r =>
      r.signature.dispatch call target r.binding.arguments { w with next := r.binding.next }

/-- Constructs an instance. When no constructor applies, a call without arguments goes to the
default constructor of a type that has one; every other miss is one of argument count. -/
def construct (call : Caller) (t : TypeRef) (args : List Value) (w : World) :
    Option (Value × World) :=
  let c := w.catalog t
  match firstError? args with
  | some e => some (e, w)
  | none =>
    let (ps, next) := Value.payloads w.next args
    match Overload.resolve next c.constructors ps c.constructorName with
    | .ok r => r.signature.dispatch call none r.binding.arguments { w with next := r.binding.next }
    | .error _ =>
      match if args.isEmpty then c.defaultConstructor else none with
      | some s => s.dispatch call none [] w
      | none => some (.error (.invalidArgumentCount c.constructorName args.length), w)

def invokeWith (call : Caller) (target : Value) (args : List Value) (w : World) :
    Option (Value × World) :=
  match target with
  | .error e => some (.error e, w)
  | .type t => w.construct call t args
  | .method g => w.invokeOverloads call (w.overloads g) g.target args g.qualifiedName
  | .function f => w.invokeOverloads call [w.signature f] none args (w.signature f).name
  | v => some (.error (.notInvocable v.typeName), w)

/-- Does one task, having those that come up meanwhile done by `call`. -/
def perform (call : Caller) : Caller
  | .invoke target args, w => w.invokeWith call target args
  | .get target t name, w => w.getMember call target t name
  | .set target t name v, w => w.setMember call target t name v

end World

/-- The evaluator, with tasks nested at most `depth` deep. -/
def evaluator : (depth : Nat) → Caller
  | 0 => fun _ _ => none
  | depth + 1 => World.perform (evaluator depth)

def World.invoke (depth : Nat) (target : Value) (args : List Value) (w : World) :
    Option (Value × World) :=
  evaluator depth (.invoke target args) w

end LateBound
