import LateBound.Decimal.Integer
/-! Failures as values: a stable numeric code and a message. -/
namespace LateBound

inductive Code
  | success
  | unknownError
  | memberNotFound
  | invalidArgumentType
  | invalidArgumentCount
  | indexOutOfRange
  | divideByZero
  deriving DecidableEq

namespace Code

def number : Code → Nat
  | .success => 0
  | .unknownError => 1
  | .memberNotFound => 2
  | .invalidArgumentType => 3
  | .invalidArgumentCount => 4
  | .indexOutOfRange => 5
  | .divideByZero => 6

def ofNumber? : Nat → Option Code
  | 0 => some .success
  | 1 => some .unknownError
  | 2 => some .memberNotFound
  | 3 => some .invalidArgumentType
  | 4 => some .invalidArgumentCount
  | 5 => some .indexOutOfRange
  | 6 => some .divideByZero
  | _ => none

theorem ofNumber?_number (c : Code) : ofNumber? c.number = some c := by cases c <;> rfl

def name : Code → String
  | .success => "success"
  | .unknownError => "unknown-error"
  | .memberNotFound => "member-not-found"
  | .invalidArgumentType => "invalid-argument-type"
  | .invalidArgumentCount => "invalid-argument-count"
  | .indexOutOfRange => "index-out-of-range"
  | .divideByZero => "divide-by-zero"

def variant : Code → String
  | .success => "Success"
  | .unknownError => "UnknownError"
  | .memberNotFound => "MemberNotFound"
  | .invalidArgumentType => "InvalidArgumentType"
  | .invalidArgumentCount => "InvalidArgumentCount"
  | .indexOutOfRange => "IndexOutOfRange"
  | .divideByZero => "DivideByZero"

end Code

structure Failure where
  code : Code
  message : String
  deriving DecidableEq

namespace Failure

def text (f : Failure) : String := s!"error[{f.code.name}]: {f.message}"

def memberNotFound (type member : String) : Failure :=
  ⟨.memberNotFound, s!"no member '{member}' on type {type}"⟩

/-- A missed dictionary key shares the code of a missing member. -/
def keyNotFound (key : String) : Failure := ⟨.memberNotFound, s!"key not found: {key}"⟩

def indexOutOfRange (index : Int) (length : Nat) : Failure :=
  ⟨.indexOutOfRange,
    s!"index {Decimal.intText index} out of range for length {Decimal.natText length}"⟩

def notIndexable (type : String) : Failure := ⟨.invalidArgumentType, s!"{type} cannot be indexed"⟩

def nonNumericIndex (type : String) : Failure :=
  ⟨.invalidArgumentType, s!"index must be numeric, got {type}"⟩

def invalidArgumentType (callee detail : String) : Failure :=
  ⟨.invalidArgumentType, s!"no overload of {callee} accepts {detail}"⟩

def invalidArgumentCount (callee : String) (count : Nat) : Failure :=
  ⟨.invalidArgumentCount, s!"no overload of {callee} takes {Decimal.natText count} " ++
    if count = 1 then "argument" else "arguments"⟩

def notInvocable (type : String) : Failure := ⟨.invalidArgumentType, s!"{type} is not invocable"⟩

def unknown (message : String) : Failure := ⟨.unknownError, message⟩

def divideByZero : Failure := ⟨.divideByZero, "division by zero"⟩

def invalidOperand (symbol left right : String) : Failure :=
  ⟨.invalidArgumentType, "operator `" ++ symbol ++ "` cannot be applied to " ++
    left ++ " and " ++ right⟩

def unknownOperator (symbol : String) : Failure :=
  ⟨.invalidArgumentType, "unknown operator `" ++ symbol ++ "`"⟩

end Failure

/-- Why a host type cannot be declared, registered or given an instance. -/
inductive CatalogError
  | duplicateMember (type member : String)
  | defaultNotTrailing (callee parameter : String)
  | instanceTypeMismatch (expected : String)
  | duplicateType (type : String)
  deriving DecidableEq

namespace CatalogError

def message : CatalogError → String
  | .duplicateMember type member => s!"type {type} already declares a member named '{member}'"
  | .defaultNotTrailing callee parameter =>
    s!"{callee}: parameter '{parameter}' has no default but follows a defaulted parameter"
  | .instanceTypeMismatch expected => s!"instance is not a {expected}"
  | .duplicateType type => s!"type {type} is already registered"

end CatalogError

end LateBound
