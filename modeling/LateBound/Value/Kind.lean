import LateBound.Value.Basic
/-! Kinds of values and payloads: names for messages, natural types, protocols. -/
namespace LateBound

namespace Value

def typeName : Value → String
  | .null => "null"
  | .void => "void"
  | .bool _ => "bool"
  | .number n => if n.isInteger then "int" else "float"
  | .text _ => "string"
  | .list l => (DeclaredType.list l.element).text
  | .dict d => (DeclaredType.dict d.key d.value).text
  | .object o => o.type.name
  | .type t => "type " ++ t.name
  | .method _ => "method"
  | .function _ => "native function"
  | .error _ => "error"

inductive Capability
  | invocable
  | indexable
  | memberAccess
  | numeric
  | stringLike
  deriving DecidableEq

namespace Capability

def name : Capability → String
  | .invocable => "invocable"
  | .indexable => "indexable"
  | .memberAccess => "member_access"
  | .numeric => "numeric"
  | .stringLike => "string_like"

end Capability

def capabilities : Value → List Capability
  | .null | .void | .error _ => []
  | .bool _ | .object _ => [.memberAccess]
  | .number _ => [.memberAccess, .numeric]
  | .text _ => [.indexable, .memberAccess, .stringLike]
  | .list _ | .dict _ => [.indexable, .memberAccess]
  | .type _ => [.invocable, .memberAccess]
  | .method _ | .function _ => [.invocable]

/-- The type whose members a value has. A type used as a value has its own. -/
def memberType? : Value → Option TypeRef
  | .bool _ => some (.builtin .bool)
  | .number _ => some (.builtin .number)
  | .text _ => some (.builtin .string)
  | .list _ => some (.builtin .list)
  | .dict _ => some (.builtin .dict)
  | .object o => some o.type
  | .type t => some t
  | _ => none

end Value

namespace Payload

def kindName : Payload → String
  | .null => "null"
  | .bool _ => "bool"
  | .int _ => "int"
  | .float _ => "float"
  | .text _ => "string"
  | .char _ => "char"
  | .list l => (DeclaredType.list l.element).text
  | .dict d => (DeclaredType.dict d.key d.value).text
  | .object o => o.type.name
  | .type _ => "type"
  | .callable _ => "callable"
  | .boxed v => v.typeName

def naturalType : Payload → DeclaredType
  | .null | .boxed _ => .any
  | .bool _ => .bool
  | .int _ => .int
  | .float _ => .float
  | .text _ => .string
  | .char _ => .char
  | .list l => .list l.element
  | .dict d => .dict d.key d.value
  | .object o => .object o.type.name
  | .type _ => .type
  | .callable _ => .callable

/-- The type that the payloads other than null agree on. -/
def commonType (ps : List Payload) : DeclaredType :=
  DeclaredType.common ((ps.filter (!·.isNull)).map naturalType)

end Payload

end LateBound
