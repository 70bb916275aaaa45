import LateBound.Host.Kind
/-! Host code as the evaluator meets it: it ends with a payload or a message, or panics, or asks for
something and goes on with the answer. -/
namespace LateBound

/-- What running host code can ask for. Slots are those of its receiver, or static ones of a
type. -/
inductive Request
  | readSlot (slot : String) (absent : Payload)
  | writeSlot (slot : String) (item : Payload)
  | readStatic (type : TypeRef) (slot : String) (absent : Payload)
  | writeStatic (type : TypeRef) (slot : String) (item : Payload)
  | newList (items : List Payload)
  | exchange (kind : HostKind) (item : Payload)
  | call (callee : Callable) (arguments : List Value)
  | preview (item : Payload)
  | getMember (target : Payload) (name : String)
  | setMember (target : Payload) (name : String) (value : Value)

/-- What host code panics with: a text, or something else. -/
inductive Panic
  | text (message : String)
  | other

def Panic.message : Panic → String
  | .text message => message
  | .other => "native call panicked"

inductive Program
  | done (result : Payload)
  | fail (message : String)
  | panic (p : Panic)
  | ask (request : Request) (next : Except String Payload → Program)

instance : Inhabited Program := ⟨.done .null⟩

namespace Program

/-- Goes on with the answer to a request, or fails with the message of the refusal. -/
def demand (request : Request) (next : Payload → Program) : Program :=
  .ask request fun
    | .ok p => next p
    | .error m => .fail m

def andThen : Program → (Payload → Program) → Program
  | .done p, k => k p
  | .fail m, _ => .fail m
  | .panic p, _ => .panic p
  | .ask request next, k => .ask request fun answer => (next answer).andThen k

end Program

end LateBound
