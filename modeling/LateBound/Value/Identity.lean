import LateBound.Value.Basic
/-! When two values are the same, and when the host takes two payloads for equal. -/
namespace LateBound

def Callable.same (f g : Callable) : Bool := f.id == g.id

mutual

/-- Scalars are the same by value, shared data by the storage it lives in. Errors are never the
same. -/
def Value.same : Value → Value → Bool
  | .null, .null | .void, .void => true
  | .bool a, .bool b => a == b
  | .number a, .number b => a.same b
  | .text a, .text b => a.id == b.id
  | .list a, .list b => a.id == b.id
  | .dict a, .dict b => a.id == b.id
  | .object a, .object b => a.id == b.id
  | .type a, .type b => a.key == b.key
  | .method a, .method b => MethodGroup.same a b
  | .function a, .function b => a.same b
  | _, _ => false

def MethodGroup.same : MethodGroup → MethodGroup → Bool
  | .unbound t m _, .unbound t' m' _ => t.key == t'.key && m == m'
  | .bound v t m _, .bound v' t' m' _ => Value.same v v' && t.key == t'.key && m == m'
  | _, _ => false

end

namespace Value

/-- Sameness, with text and errors compared by content. -/
def equal : Value → Value → Bool
  | .text a, .text b => a.content == b.content
  | .error a, .error b => a == b
  | a, b => a.same b

end Value

namespace Payload

/-- Equality of collection items: numbers across both domains, text by content, shared data by
storage. -/
def hostEqual : Payload → Payload → Bool
  | .null, .null => true
  | .bool a, .bool b => a == b
  | .int a, .int b => a == b
  | .int a, .float b => Binary.ofInt64 a == b
  | .float a, .int b => a == Binary.ofInt64 b
  | .float a, .float b => a == b
  | .text a, .text b => a.content == b.content
  | .char a, .char b => a == b
  | .list a, .list b => a.id == b.id
  | .dict a, .dict b => a.id == b.id
  | .object a, .object b => a.id == b.id
  | .type a, .type b => a.key == b.key
  | .callable a, .callable b => a.same b
  | .boxed a, .boxed b => a.same b
  | _, _ => false

end Payload

end LateBound
