import LateBound.Decimal.Integer
import LateBound.Decimal.Shortest
/-! How the digits of a number are laid out: with a decimal point, or with a power of ten. -/
namespace LateBound
namespace Decimal

/-- Magnitudes from `10 ^ least` up to but not including `10 ^ limit` are written with a decimal
point, all magnitudes when there is no `window`. -/
structure Layout where
  window : Option (Int × Int)
  wholePoint : Bool
  deriving DecidableEq

/-- A power of ten marks numbers below `0.0001` or from `10 ^ 16`; whole numbers end in `.0`. -/
def Layout.readable : Layout := ⟨some (-4, 16), true⟩

/-- Every number is written with all its places; whole numbers have no point. -/
def Layout.plain : Layout := ⟨none, false⟩

def zeros (n : Nat) : List Char := List.replicate n '0'

def positional (wholePoint : Bool) (s : Scientific) : List Char :=
  let ds := natDigits s.digits
  if 0 ≤ s.exponent then
    ds ++ zeros s.exponent.toNat ++ if wholePoint then ['.', '0'] else []
  else
    let places := (-s.exponent).toNat
    if places < ds.length then
      ds.take (ds.length - places) ++ '.' :: ds.drop (ds.length - places)
    else '0' :: '.' :: zeros (places - ds.length) ++ ds

def withPower (s : Scientific) : List Char :=
  let ds := natDigits s.digits
  let power := intDigits (s.exponent + ds.length - 1)
  match ds with
  | d :: rest => d :: (if rest = [] then [] else '.' :: rest) ++ 'e' :: power
  | [] => []

def Layout.magnitude (l : Layout) (s : Scientific) : List Char :=
  let top := s.exponent + (natDigits s.digits).length - 1
  match l.window with
  | some (least, limit) =>
    if least ≤ top ∧ top < limit then positional l.wholePoint s else withPower s
  | none => positional l.wholePoint s

def Layout.chars (l : Layout) (x : Float) : List Char :=
  match Binary.read x with
  | .nan => ['N', 'a', 'N']
  | .infinite negative => if negative then ['-', 'i', 'n', 'f'] else ['i', 'n', 'f']
  | .finite negative m e =>
    let body := if m = 0 then positional l.wholePoint ⟨0, 0⟩ else l.magnitude (shortest m e)
    if negative then '-' :: body else body

def Layout.text (l : Layout) (x : Float) : String := String.ofList (l.chars x)

end Decimal

end LateBound
