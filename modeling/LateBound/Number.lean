import LateBound.Binary
/-! Numbers: 64-bit integers and binary64 floats, each with a reading in the other domain. -/
namespace LateBound

inductive Number
  | int (n : Int64)
  | float (x : Float)
  deriving DecidableEq

namespace Number

def isInteger : Number → Bool
  | .int _ => true
  | .float _ => false

/-- A float reads as its integer part, held within 64 bits. -/
def toInt : Number → Int64
  | .int n => n
  | .float x => Binary.clampInt64 x

def toFloat : Number → Float
  | .int n => Binary.ofInt64 n
  | .float x => x

/-- Equality within a domain; an integer and a float are never the same number. -/
def same : Number → Number → Bool
  | .int a, .int b => a == b
  | .float a, .float b => a == b
  | _, _ => false

def absolute : Number → Number
  | .int n => .int n.abs
  | .float x => .float x.abs

def round (mode : Binary.Rounding) : Number → Number
  | .int n => .int n
  | .float x => .float (Binary.round mode x)

end Number

end LateBound
