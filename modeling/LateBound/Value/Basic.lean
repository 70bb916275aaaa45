import LateBound.DeclaredType
import LateBound.Failure
import LateBound.Number
/-! Values of the evaluator and payloads of the host. Lists, dictionaries and objects are references
into a world; text carries the number of the storage it lives in, so that two texts of one content
can be told apart. -/
namespace LateBound

inductive BuiltinKind
  | bool
  | number
  | string
  | list
  | dict
  deriving DecidableEq

namespace BuiltinKind

def name : BuiltinKind → String
  | .bool => "bool"
  | .number => "number"
  | .string => "string"
  | .list => "list"
  | .dict => "dict"

end BuiltinKind

inductive TypeKey
  | builtin (kind : BuiltinKind)
  | declared (id : Nat)
  deriving DecidableEq

/-- A host type. The key tells types apart, the name is the one it was declared under. -/
structure TypeRef where
  key : TypeKey
  name : String
  deriving DecidableEq

def TypeRef.builtin (kind : BuiltinKind) : TypeRef := ⟨.builtin kind, kind.name⟩

structure Text where
  id : Nat
  content : String
  deriving DecidableEq

namespace Text

def chars (t : Text) : List Char := t.content.toList

end Text

structure ListRef where
  id : Nat
  element : DeclaredType
  deriving DecidableEq

structure DictRef where
  id : Nat
  key : DeclaredType
  value : DeclaredType
  deriving DecidableEq

structure ObjectRef where
  id : Nat
  type : TypeRef
  deriving DecidableEq

mutual

inductive Value
  | null
  | void
  | bool (b : Bool)
  | number (n : Number)
  | text (t : Text)
  | list (l : ListRef)
  | dict (d : DictRef)
  | object (o : ObjectRef)
  | type (t : TypeRef)
  | method (g : MethodGroup)
  | function (f : Callable)
  | error (e : Failure)

/-- The overloads of one method name, as positions among those its owner declares under that name.
Only a bound group has a receiver. -/
inductive MethodGroup
  | unbound (owner : TypeRef) (name : String) (overloads : List Nat)
  | bound (target : Value) (owner : TypeRef) (name : String) (overloads : List Nat)

/-- A function of the host, or one that forwards its arguments to a method group. -/
inductive Callable
  | declared (id : Nat)
  | forwarding (id : Nat) (group : MethodGroup)

end

deriving instance DecidableEq for Value, MethodGroup, Callable

instance : Inhabited Value := ⟨.null⟩

namespace MethodGroup

def target : MethodGroup → Option Value
  | .unbound _ _ _ => none
  | .bound v _ _ _ => some v

def owner : MethodGroup → TypeRef
  | .unbound t _ _ | .bound _ t _ _ => t

def name : MethodGroup → String
  | .unbound _ n _ | .bound _ _ n _ => n

def overloads : MethodGroup → List Nat
  | .unbound _ _ is | .bound _ _ _ is => is

def qualifiedName (g : MethodGroup) : String := g.owner.name ++ "." ++ g.name

end MethodGroup

def Callable.id : Callable → Nat
  | .declared n | .forwarding n _ => n

inductive Payload
  | null
  | bool (b : Bool)
  | int (n : Int64)
  | float (x : Float)
  | text (t : Text)
  | char (c : Char)
  | list (l : ListRef)
  | dict (d : DictRef)
  | object (o : ObjectRef)
  | type (t : TypeRef)
  | callable (f : Callable)
  | boxed (v : Value)
  deriving DecidableEq, Inhabited

namespace Payload

def isNull : Payload → Bool
  | .null => true
  | _ => false

def bool? : Payload → Option Bool
  | .bool b => some b
  | _ => none

def int? : Payload → Option Int64
  | .int n => some n
  | _ => none

/-- An integer reads as a float too. -/
def float? : Payload → Option Float
  | .float x => some x
  | .int n => some (Binary.ofInt64 n)
  | _ => none

def text? : Payload → Option Text
  | .text t => some t
  | _ => none

def char? : Payload → Option Char
  | .char c => some c
  | _ => none

def number : Number → Payload
  | .int n => .int n
  | .float x => .float x

end Payload

namespace Value

def int (n : Int64) : Value := .number (.int n)

def float (x : Float) : Value := .number (.float x)

def isError : Value → Bool
  | .error _ => true
  | _ => false

def error? : Value → Option Failure
  | .error e => some e
  | _ => none

def code : Value → Code
  | .error e => e.code
  | _ => .success

theorem isError_iff {v : Value} : v.isError = true ↔ ∃ e, v = .error e := by
  cases v <;> simp [isError]

/-- The payload of a value, with the next unused number of the world. Null, void and errors are
null to the host; a method group becomes a new function that forwards to it. -/
def payload (next : Nat) : Value → Payload × Nat
  | .null | .void | .error _ => (.null, next)
  | .bool b => (.bool b, next)
  | .number n => (.number n, next)
  | .text t => (.text t, next)
  | .list l => (.list l, next)
  | .dict d => (.dict d, next)
  | .object o => (.object o, next)
  | .type t => (.type t, next)
  | .method g => (.callable (.forwarding next g), next + 1)
  | .function f => (.callable f, next)

def payloads : Nat → List Value → List Payload × Nat
  | next, [] => ([], next)
  | next, v :: vs =>
    let (p, next) := v.payload next
    let (ps, next) := payloads next vs
    (p :: ps, next)

/-- The value that boxes a payload. A character becomes a new text. -/
def ofPayload (next : Nat) : Payload → Value × Nat
  | .null => (.null, next)
  | .bool b => (.bool b, next)
  | .int n => (int n, next)
  | .float x => (float x, next)
  | .text t => (.text t, next)
  | .char c => (.text ⟨next, String.singleton c⟩, next + 1)
  | .list l => (.list l, next)
  | .dict d => (.dict d, next)
  | .object o => (.object o, next)
  | .type t => (.type t, next)
  | .callable f => (.function f, next)
  | .boxed v => (v, next)

def ofPayloads : Nat → List Payload → List Value × Nat
  | next, [] => ([], next)
  | next, p :: ps =>
    let (v, next) := ofPayload next p
    let (vs, next) := ofPayloads next ps
    (v :: vs, next)

end Value

end LateBound
