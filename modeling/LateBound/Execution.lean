import LateBound.BuiltinMembers
import LateBound.Preview
/-! Running host code. A body runs on arguments and perhaps on a receiver, which is held meanwhile
if it is an instance. What the code asks for is answered from the world, or is a task for the
evaluator, which is done by a caller, one level deeper. -/
namespace LateBound

/-- What host code can have the evaluator do for it. -/
inductive Task
  | invoke (target : Value) (arguments : List Value)
  | get (target : Value) (type : TypeRef) (name : String)
  | set (target : Value) (type : TypeRef) (name : String) (value : Value)

/-- What a task gives: a write tells whether it was made. -/
@[reducible] def Task.Result : Task → Type
  | .invoke .. | .get .. => Value
  | .set .. => Bool

/-- How tasks are done; `none` means that the levels of nesting are used up. -/
abbrev Caller := (task : Task) → World → Option (task.Result × World)

/-- What a body ends with, and the world after. -/
abbrev Ended := Option (Except String Payload × World)

namespace Request

def noReceiver : String := "no receiver"

/-- The answer to a request of host code whose receiver is `self`. -/
def answer (call : Caller) (self : Option ObjectRef) (request : Request) (w : World) : Ended :=
  match request with
  | .readSlot slot absent =>
    match self with
    | none => some (.error noReceiver, w)
    | some o => some (.ok (w.slot o slot absent), w)
  | .writeSlot slot p =>
    match self with
    | none => some (.error noReceiver, w)
    | some o => some (.ok .null, w.setSlot o slot p)
  | .readStatic t slot absent => some (.ok (w.static t slot absent), w)
  | .writeStatic t slot p => some (.ok .null, w.setStatic t slot p)
  | .newList ps =>
    let (l, w) := w.newUntypedList ps
    some (.ok (.list l), w)
  | .exchange k p =>
    match k.exchange p w with
    | some (q, w) => some (.ok q, w)
    | none => some (.error s!"{p.kindName} is not {k.declaredType.text}", w)
  | .call f args => (call (.invoke (.function f) args) w).map fun (v, w) => (.ok (.boxed v), w)
  | .preview p =>
    let (t, w) := w.newText (w.preview {} (Preview.itemValue w p))
    some (.ok (.text t), w)
  | .getMember p name =>
    let (target, w) := w.box p
    match target.memberType? with
    | none => some (.error "no members", w)
    | some t => (call (.get target t name) w).map fun (v, w) => (.ok (.boxed v), w)
  | .setMember p name v =>
    let (target, w) := w.box p
    match target.memberType? with
    | none => some (.error "no members", w)
    | some t => (call (.set target t name v) w).map fun (written, w) => (.ok (.bool written), w)

end Request

/-- A panic is caught, and reported as a failure is. -/
def Program.run (call : Caller) (self : Option ObjectRef) : Program → World → Ended
  | .done p, w => some (.ok p, w)
  | .fail m, w => some (.error m, w)
  | .panic p, w => some (.error p.message, w)
  | .ask request next, w =>
    match request.answer call self w with
    | none => none
    | some (a, w) => (next a).run call self w

def Value.object? : Value → Option ObjectRef
  | .object o => some o
  | _ => none

/-- The end of a member of a built-in kind. One that refuses leaves the world as it was. -/
def Computed.ended (r : Computed) (w : World) : Ended :=
  match r with
  | .ok (p, w) => some (.ok p, w)
  | .error m => some (.error m, w)

def Body.run (call : Caller) (receiver : Option Value) (args : List Payload)
    (b : Body) (w : World) :
    Ended :=
  match b with
  | .builtin m => (m.run receiver args w).ended w
  | .property p => (p.read receiver w).ended w
  | .method owner code =>
    match receiver.bind Value.object? with
    | some o => (code args).run call (some o) w
    | none => some (.error (receiverMismatch owner), w)
  | .free code => (code args).run call (receiver.bind Value.object?) w
  | .construct t code =>
    let (o, w) := w.newObject t { inUse := true }
    (code args).run call (some o) w |>.map fun
      | (.ok _, w) => (.ok (.object o), w.release o)
      | (.error m, w) => (.error m, w)
  | .forward g =>
    let (vs, w) := w.boxAll args
    (call (.invoke (.method g) vs) w).map fun (v, w) => (.ok (.boxed v), w)

def ObjectRef.inUseFailure (o : ObjectRef) : Failure :=
  .unknown s!"{o.type.name} instance is already in use"

namespace World

/-- The object that a receiver is, when host code holds it already. -/
def heldReceiver? (w : World) : Value → Option ObjectRef
  | .object o => if (w.object o).inUse then some o else none
  | _ => none

def enter (w : World) : Option Value → World
  | some (.object o) => w.hold o
  | _ => w

def leave (w : World) : Option Value → World
  | some (.object o) => w.release o
  | _ => w

/-- Runs a body on a receiver that nobody holds. However the body ends, an instance is free
again. -/
def runOn (call : Caller) (receiver : Option Value) (args : List Payload) (b : Body) (w : World) :
    Except Failure Ended :=
  match receiver.bind w.heldReceiver? with
  | some o => .error o.inUseFailure
  | none =>
    .ok ((b.run call receiver args (w.enter receiver)).map fun (r, w) => (r, w.leave receiver))

end World

/-- The value that a call or a read ends with. -/
def Signature.finish (callee : String) (returnsVoid : Bool) (outcome : Except String Payload)
    (w : World) : Value × World :=
  match outcome with
  | .ok p => if returnsVoid then (.void, w) else w.box p
  | .error m => (.error (.unknown s!"{callee}: {m}"), w)

def Body.dispatch (call : Caller) (callee : String) (returnsVoid : Bool) (receiver : Option Value)
    (args : List Payload) (b : Body) (w : World) : Option (Value × World) :=
  match w.runOn call receiver args b with
  | .error e => some (.error e, w)
  | .ok ended => ended.map fun (r, w) => Signature.finish callee returnsVoid r w

end LateBound
