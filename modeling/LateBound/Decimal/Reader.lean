import LateBound.Decimal.Integer
import LateBound.Binary
/-! Reading floating-point numbers from text: an optional sign, then digits with at most one point
and an optional power of ten, or one of the words `inf`, `infinity` and `nan` in any case. -/
namespace LateBound
namespace Decimal

def lower (c : Char) : Char := c.toLower

/-- Equality up to the case of the letters A to Z. -/
def sameWord (s t : List Char) : Bool := s.map lower == t.map lower

/-- The nearest binary64 number to `m · 10 ^ e`, ties to even. -/
def nearest (m : Nat) (e : Int) : Float :=
  let top := e + (Nat.toDigits 10 m).length
  if m = 0 ∨ top < -400 then 0.0
  else if 400 < top then Binary.infinity false
  else Float.ofScientific m (decide (e < 0)) e.natAbs

/-- What may follow the digits: nothing, or a mark with a power of ten. -/
def readPower? : List Char → Option Int
  | [] => some 0
  | 'e' :: s => readInt? s
  | 'E' :: s => readInt? s
  | _ => none

def readMagnitude? (s : List Char) : Option Float :=
  let whole := s.takeWhile Char.isDigit
  let rest := s.dropWhile Char.isDigit
  let (places, rest) := match rest with
    | '.' :: r => (r.takeWhile Char.isDigit, r.dropWhile Char.isDigit)
    | r => ([], r)
  if whole ++ places = [] then none
  else (readPower? rest).map fun e =>
    nearest (Nat.ofDigitChars 10 (whole ++ places) 0) (e - places.length)

def readUnsigned? (s : List Char) : Option Float :=
  if sameWord s ['i', 'n', 'f'] || sameWord s ['i', 'n', 'f', 'i', 'n', 'i', 't', 'y'] then
    some (Binary.infinity false)
  else if sameWord s ['n', 'a', 'n'] then some Binary.nan
  else readMagnitude? s

def readFloat? : List Char → Option Float
  | '-' :: s => (readUnsigned? s).map fun x => -x
  | '+' :: s => readUnsigned? s
  | s => readUnsigned? s

end Decimal

end LateBound
