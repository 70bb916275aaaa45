import LateBound.Value.Kind
/-! Typed host data: the kinds a member, parameter or element can be declared with, and what the
host holds for each. -/
namespace LateBound

inductive Width
  | w8
  | w16
  | w32
  | w64
  deriving DecidableEq

def Width.bits : Width → Nat
  | .w8 => 8
  | .w16 => 16
  | .w32 => 32
  | .w64 => 64

structure IntKind where
  signed : Bool
  width : Width
  deriving DecidableEq

namespace IntKind

def least (k : IntKind) : Int := if k.signed then -(twoPow (k.width.bits - 1) : Int) else 0

def greatest (k : IntKind) : Int :=
  (twoPow (if k.signed then k.width.bits - 1 else k.width.bits) : Int) - 1

def holds (k : IntKind) (n : Int) : Prop := k.least ≤ n ∧ n ≤ k.greatest

instance (k : IntKind) (n : Int) : Decidable (k.holds n) :=
  inferInstanceAs (Decidable (k.least ≤ n ∧ n ≤ k.greatest))

end IntKind

inductive HostKind
  | payload
  | bool
  | integer (k : IntKind)
  | single
  | double
  | string
  | char
  | list
  | dict
  | function
  | sequence (item : HostKind)
  | optional (item : HostKind)
  deriving DecidableEq

namespace HostKind

/-- An optional item has the type of the item. -/
def declaredType : HostKind → DeclaredType
  | .payload => .any
  | .bool => .bool
  | .integer _ => .int
  | .single | .double => .float
  | .string => .string
  | .char => .char
  | .list => .list .any
  | .dict => .dict .any .any
  | .function => .callable
  | .sequence item => .list item.declaredType
  | .optional item => item.declaredType

/-- The host's data of a kind. A single-precision number is the float it widens to. -/
@[reducible] def Carrier : HostKind → Type
  | .payload => Payload
  | .bool => Bool
  | .integer k => { n : Int // k.holds n }
  | .single | .double => Float
  | .string => String
  | .char => Char
  | .list => ListRef
  | .dict => DictRef
  | .function => Callable
  | .sequence item => List item.Carrier
  | .optional item => Option item.Carrier

def missingArgument (i : Nat) : String := s!"missing argument {Decimal.natText i}"

def unexpectedArgument (k : HostKind) (i : Nat) (p : Payload) : String :=
  s!"argument {Decimal.natText i} is {p.kindName}, expected {k.declaredType.text}"

/-- The data of a kind that a payload holds, if it holds such data. Lists are read through
`items`. -/
def read? (items : ListRef → List Payload) : (k : HostKind) → Payload → Option k.Carrier
  | .payload, p => some p
  | .bool, p => p.bool?
  | .integer k, p =>
    p.int?.bind fun n => if h : k.holds n.toInt then some ⟨n.toInt, h⟩ else none
  | .single, p => p.float?.map Binary.toBinary32
  | .double, p => p.float?
  | .string, p => p.text?.map (·.content)
  | .char, p => p.char?
  | .list, .list l => some l
  | .list, _ => none
  | .dict, .dict d => some d
  | .dict, _ => none
  | .function, .callable f => some f
  | .function, _ => none
  | .sequence item, .list l => (items l).mapM (item.read? items)
  | .sequence _, _ => none
  | .optional item, p => if p.isNull then some none else (item.read? items p).map some

end HostKind

end LateBound
