import LateBound.Host.Program
import LateBound.OrderedMap
/-! Host code written as data: what a method, constructor or function of a declared type does with
its receiver and its arguments. -/
namespace LateBound

inductive Script
  | constant (p : Payload)
  | argument (i : Nat) (kind : HostKind)
  | arguments
  | count
  | fail (message : String)
  | panic (p : Panic)
  | readSlot (slot : String)
  | writeSlot (slot : String) (i : Nat)
  | addToSlot (slot : String) (i : Nat)
  | call (i : Nat) (args : List Value)
  | preview (i : Nat)
  | getMember (i : Nat) (name : String)
  | setMember (i : Nat) (name : String) (v : Value)
  | andThen (first second : Script)

namespace Script

def sequence : List Script → Script
  | [] => .constant .null
  | [s] => s
  | s :: rest => .andThen s (sequence rest)

def withArgument (kind : HostKind) (args : List Payload) (i : Nat) (next : Payload → Program) :
    Program :=
  match args[i]? with
  | none => .fail (HostKind.missingArgument i)
  | some p =>
    .ask (.exchange kind p) fun
      | .ok q => next q
      | .error _ => .fail (kind.unexpectedArgument i p)

def withFunction (args : List Payload) (i : Nat) (next : Callable → Program) : Program :=
  withArgument .function args i fun
    | .callable f => next f
    | p => .fail (HostKind.function.unexpectedArgument i p)

/-- The code of a script. Slots never written read from `initial`, else null. -/
def program (initial : OrderedMap String Payload) : Script → List Payload → Program
  | .constant p, _ => .done p
  | .argument i kind, args => withArgument kind args i .done
  | .arguments, args => .demand (.newList args) .done
  | .count, args => .done (.int (Int64.ofNat args.length))
  | .fail message, _ => .fail message
  | .panic p, _ => .panic p
  | .readSlot slot, _ => .demand (.readSlot slot (initial.getD slot .null)) .done
  | .writeSlot slot i, args =>
    .demand (.readSlot slot .null) fun _ =>
      withArgument .payload args i fun p => .demand (.writeSlot slot p) .done
  | .addToSlot slot i, args =>
    .demand (.readSlot slot (initial.getD slot .null)) fun old =>
      withArgument (.integer ⟨true, .w64⟩) args i fun p =>
        let sum : Payload := .int (old.int?.getD 0 + p.int?.getD 0)
        .demand (.writeSlot slot sum) fun _ => .done sum
  | .call i values, args => withFunction args i fun f => .demand (.call f values) .done
  | .preview i, args => withArgument .payload args i fun p => .demand (.preview p) .done
  | .getMember i name, args =>
    withArgument .payload args i fun p => .demand (.getMember p name) .done
  | .setMember i name v, args =>
    withArgument .payload args i fun p => .demand (.setMember p name v) .done
  | .andThen first second, args =>
    (first.program initial args).andThen fun _ => second.program initial args

end Script

end LateBound
