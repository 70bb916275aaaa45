import LateBound.Value.Kind
/-! Binary operators on numbers. Arithmetic on two integers stays in 64 bits and wraps; a float on
either side makes both floats. Comparisons are on float readings, and equality allows a difference
below `2 ^ -52`. -/
namespace LateBound

inductive Operator
  | add
  | sub
  | mul
  | div
  | mod
  | lt
  | gt
  | le
  | ge
  | eq
  | ne
  deriving DecidableEq

namespace Operator

def all : List Operator := [.add, .sub, .mul, .div, .mod, .lt, .gt, .le, .ge, .eq, .ne]

theorem mem_all (op : Operator) : op ∈ all := by cases op <;> simp [all]

def symbol : Operator → String
  | .add => "+"
  | .sub => "-"
  | .mul => "*"
  | .div => "/"
  | .mod => "%"
  | .lt => "<"
  | .gt => ">"
  | .le => "<="
  | .ge => ">="
  | .eq => "=="
  | .ne => "!="

def ofSymbol? (s : String) : Option Operator := all.find? (·.symbol == s)

theorem ofSymbol?_symbol (op : Operator) : ofSymbol? op.symbol = some op := by
  cases op <;> decide

def isComparison : Operator → Bool
  | .add | .sub | .mul | .div | .mod => false
  | _ => true

/-- The difference between 1 and the next float. -/
def tolerance : Float := Float.ofBits 0x3cb0000000000000

def compare (op : Operator) (a b : Float) : Bool :=
  let equal := decide ((a - b).abs < tolerance)
  match op with
  | .lt => decide (a < b)
  | .gt => decide (b < a)
  | .le => decide (a ≤ b)
  | .ge => decide (b ≤ a)
  | .eq => equal
  | .ne => !equal
  | _ => false

def onInts (op : Operator) (a b : Int64) : Value :=
  match op with
  | .add => .int (a + b)
  | .sub => .int (a - b)
  | .mul => .int (a * b)
  | .div => if b = 0 then .error .divideByZero else .int (a / b)
  | .mod => if b = 0 then .error .divideByZero else .int (a % b)
  | op => .bool (op.compare (Binary.ofInt64 a) (Binary.ofInt64 b))

def onFloats (op : Operator) (a b : Float) : Value :=
  match op with
  | .add => .float (a + b)
  | .sub => .float (a - b)
  | .mul => .float (a * b)
  | .div => if b == 0.0 then .error .divideByZero else .float (a / b)
  | .mod => if b == 0.0 then .error .divideByZero else .float (Binary.remainder a b)
  | op => .bool (op.compare a b)

def onNumbers (op : Operator) (a b : Number) : Value :=
  match a, b with
  | .int a, .int b => op.onInts a b
  | a, b => op.onFloats a.toFloat b.toFloat

/-- Errors pass through, the left one first. -/
def evaluate (op : Operator) (left right : Value) : Value :=
  match left, right with
  | .error e, _ => .error e
  | _, .error e => .error e
  | .number a, .number b => op.onNumbers a b
  | l, r => .error (.invalidOperand op.symbol l.typeName r.typeName)

/-- An unknown symbol is reported before any operand is looked at. -/
def evaluateSymbol (symbol : String) (left right : Value) : Value :=
  match ofSymbol? symbol with
  | some op => op.evaluate left right
  | none => .error (.unknownOperator symbol)

end Operator

end LateBound
