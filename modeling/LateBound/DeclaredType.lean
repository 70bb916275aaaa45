import LateBound.Text.Quoted
/-! Declared types of parameters, members, elements and results. -/
namespace LateBound

inductive DeclaredType
  | any
  | bool
  | int
  | float
  | string
  | char
  | list (element : DeclaredType)
  | dict (key value : DeclaredType)
  | object (name : String)
  | type
  | callable
  | void
  deriving DecidableEq, Inhabited

namespace DeclaredType

def isNullable : DeclaredType → Bool
  | .any | .string | .list _ | .dict _ _ | .object _ | .type | .callable => true
  | _ => false

def text : DeclaredType → String
  | .any => "any"
  | .bool => "bool"
  | .int => "int"
  | .float => "float"
  | .string => "string"
  | .char => "char"
  | .list element => "list<" ++ element.text ++ ">"
  | .dict key value => "dict<" ++ key.text ++ ", " ++ value.text ++ ">"
  | .object name => name
  | .type => "type"
  | .callable => "callable"
  | .void => "void"

/-- The type written as a term, with object names quoted. -/
def term : DeclaredType → String
  | .any => "Any"
  | .bool => "Bool"
  | .int => "Int"
  | .float => "Float"
  | .string => "Str"
  | .char => "Char"
  | .list element => "List(" ++ element.term ++ ")"
  | .dict key value => "Map(" ++ key.term ++ ", " ++ value.term ++ ")"
  | .object name => "Object(" ++ Text.quoted name ++ ")"
  | .type => "Type"
  | .callable => "Callable"
  | .void => "Void"

/-- The type that all agree on, `any` when they disagree or there are none. -/
def common : List DeclaredType → DeclaredType
  | [] => .any
  | t :: rest => if rest.all (· == t) then t else .any

end DeclaredType

end LateBound
