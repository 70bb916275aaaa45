import LateBound.Binary
/-! The fewest decimal digits that read back as a given binary64 number. The reals that round to
`m · 2 ^ e` form an interval, its ends included when `m` is even; the first decimal grid with a
point in that interval gives the digits: the nearer of two such points, the upper one on a tie. -/
namespace LateBound
namespace Decimal

/-- `digits · 10 ^ exponent`. -/
structure Scientific where
  digits : Nat
  exponent : Int
  deriving DecidableEq

def digitCount (n : Nat) : Nat := (Nat.toDigits 10 n).length

/-- The `k` with `10 ^ k ≤ n / d < 10 ^ (k + 1)`, for `n` and `d` above zero. -/
def magnitude (n d : Nat) : Int :=
  if d ≤ n then (digitCount (n / d) : Int) - 1 else -(digitCount ((d - 1) / n) : Int)

/-- A quarter of `2 ^ e` over `10 ^ k`, as a fraction. -/
def quarterUnit (e k : Int) : Nat × Nat :=
  (twoPow (e - 2).toNat * Nat.pow 10 (-k).toNat, twoPow (2 - e).toNat * Nat.pow 10 k.toNat)

/-- The grid point chosen for `m` units of `n / d` quarters each, when a neighbour of `m` on
the grid lies in the interval of the numbers that round to it. `below` is the quarters to its
lower end. -/
def gridPoint? (m below n d : Nat) : Option Nat :=
  let exact := 4 * m * n
  let c := exact / d
  let slack := if m % 2 = 0 then 1 else 0
  let down := decide ((4 * m - below) * n < c * d + slack)
  let up := decide ((c + 1) * d < (4 * m + 2) * n + slack)
  if up && (!down || (c + 1) * d - exact ≤ exact - c * d) then some (c + 1)
  else if down then some c
  else none

/-- The decimal of `m · 2 ^ e` on the grid of `10 ^ k`. -/
def onGrid? (m : Nat) (e k : Int) : Option Scientific :=
  let below := if m = twoPow 52 ∧ -1074 < e then 1 else 2
  let unit := quarterUnit e k
  (gridPoint? m below unit.1 unit.2).map fun c => if c = 10 then ⟨1, k + 1⟩ else ⟨c, k⟩

/-- The shortest decimal of `m · 2 ^ e`, for a normal or subnormal `m` above zero. -/
def shortest (m : Nat) (e : Int) : Scientific :=
  let k := magnitude (m * twoPow e.toNat) (twoPow (-e).toNat)
  ((List.range 17).findSome? fun i : Nat => onGrid? m e (k - i)).getD ⟨m, e⟩

end Decimal

end LateBound
