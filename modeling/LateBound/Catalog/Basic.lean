import LateBound.OrderedMap
import LateBound.Signature
/-! Member catalogs: what a host type exposes to the evaluator. -/
namespace LateBound

/-- A getter is run without arguments, a setter on the payload to be stored. -/
structure Accessor where
  name : String
  type : DeclaredType
  isStatic : Bool
  getter : Option Body
  setter : Option Body

namespace Accessor

def isReadable (a : Accessor) : Bool := a.getter.isSome

def isWritable (a : Accessor) : Bool := a.setter.isSome

end Accessor

inductive DisplayPart
  | literal (s : String)
  | slot (slot : String) (absent : Payload)
  | refuse

inductive Representation
  | slots
  | builtin (kind : BuiltinKind)
  | foreign
  deriving DecidableEq

structure Catalog where
  type : TypeRef
  representation : Representation
  properties : List Accessor
  fields : List Accessor
  methods : OrderedMap String (List Signature)
  constructors : List Signature
  defaultConstructor : Option Signature
  display : Option (List DisplayPart)

namespace Catalog

def empty (type : TypeRef) : Catalog := ⟨type, .foreign, [], [], ∅, [], none, none⟩

def accessors (c : Catalog) : List Accessor := c.properties ++ c.fields

/-- The property of that name, else the field. -/
def accessor? (c : Catalog) (name : String) : Option Accessor :=
  c.accessors.find? (·.name == name)

def overloads (c : Catalog) (name : String) : List Signature := c.methods.getD name []

def methodNames (c : Catalog) : List String := c.methods.keys

def constructorName (c : Catalog) : String := c.type.name ++ ".new"

def defaultConstructible (c : Catalog) : Bool := c.defaultConstructor.isSome

end Catalog

/-- In static context, where the target is a type, only static members are visible. -/
def visibleIn (staticContext isStatic : Bool) : Bool := isStatic || !staticContext

end LateBound
