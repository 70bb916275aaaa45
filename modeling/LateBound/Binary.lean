import LateBound.Integer64
/-! Exact readings of binary64 numbers. A finite number is `±significand · 2 ^ exponent`; rounding,
remainder and narrowing are computed on that form and written back without error. -/
namespace LateBound
namespace Binary

inductive Reading
  | nan
  | infinite (negative : Bool)
  | finite (negative : Bool) (significand : Nat) (exponent : Int)
  deriving DecidableEq

def read (x : Float) : Reading :=
  let bits := x.toBits.toNat
  let negative := decide (bits / twoPow 63 = 1)
  let field : Nat := bits / twoPow 52 % twoPow 11
  let fraction := bits % twoPow 52
  if field = 2047 then
    if fraction = 0 then .infinite negative else .nan
  else if field = 0 then .finite negative fraction (-1074)
  else .finite negative (fraction + twoPow 52) ((field : Int) - 1075)

def nan : Float := Float.ofBits 0x7ff8000000000000

def infinity (negative : Bool) : Float :=
  Float.ofBits (if negative then 0xfff0000000000000 else 0x7ff0000000000000)

/-- `⌊m · 2 ^ e⌋` for either sign of `e`. -/
def scale (m : Nat) (e : Int) : Nat :=
  if 0 ≤ e then m <<< e.toNat else m >>> (-e).toNat

/-- The number `±m · 2 ^ e`, exact whenever it is a binary64 number. -/
def ofDyadic (negative : Bool) (m : Nat) (e : Int) : Float :=
  if m ≠ 0 ∧ 1024 ≤ e + m.log2 then infinity negative
  else
    let q := max (e + m.log2 - 52) (-1074)
    let units := scale m (e - q)
    let magnitude :=
      if units < twoPow 52 then units
      else (q + 1075).toNat * twoPow 52 + (units - twoPow 52)
    Float.ofBits (UInt64.ofNat (magnitude + if negative then twoPow 63 else 0))

def ofInt64 (n : Int64) : Float := .ofModel (.ofInt64 n)

def signed (negative : Bool) (n : Nat) : Int := if negative then -n else n

/-- The integer part, toward zero; `none` off the number line. -/
def truncate? (x : Float) : Option Int :=
  match read x with
  | .finite negative m e => some (signed negative (scale m e))
  | _ => none

def toInt64? (x : Float) : Option Int64 :=
  (truncate? x).bind Integer64.ofInt?

/-- The integer part held within 64 bits; zero for NaN. -/
def clampInt64 (x : Float) : Int64 :=
  match read x with
  | .nan => 0
  | .infinite negative => if negative then Int64.minValue else Int64.maxValue
  | .finite negative m e => Integer64.clamp (signed negative (scale m e))

theorem clampInt64_of_toInt64? {x : Float} {n : Int64} (h : toInt64? x = some n) :
    clampInt64 x = n := by
  unfold toInt64? truncate? at h
  unfold clampInt64
  cases hr : read x with
  | nan => simp [hr] at h
  | infinite negative => simp [hr] at h
  | finite negative m e =>
    exact Integer64.clamp_of_ofInt? (by simpa [hr] using h)

inductive Rounding
  | floor
  | ceiling
  | halfAway
  deriving DecidableEq

/-- Whether a magnitude with remainder `r` of `d` moves up to the next whole number. -/
def Rounding.up (negative : Bool) (r d : Nat) : Rounding → Bool
  | .floor => negative && r != 0
  | .ceiling => !negative && r != 0
  | .halfAway => d ≤ 2 * r

def round (mode : Rounding) (x : Float) : Float :=
  match read x with
  | .finite negative m e =>
    if 0 ≤ e then x
    else
      let d := twoPow (-e).toNat
      ofDyadic negative (m / d + if mode.up negative (m % d) d then 1 else 0) 0
  | _ => x

/-- The exact remainder of the division truncated toward zero. It has the sign of `x`. -/
def remainder (x y : Float) : Float :=
  match read x, read y with
  | .finite negative m e, .finite _ m' e' =>
    if m' = 0 then nan
    else
      let q := min e e'
      ofDyadic negative (scale m (e - q) % scale m' (e' - q)) q
  | .finite _ _ _, .infinite _ => x
  | _, _ => nan

/-- `m / 2 ^ s` to the nearest whole number, ties to even. -/
def halve (m s : Nat) : Nat :=
  let d := twoPow s
  let n := m / d
  let r := m % d
  if d < 2 * r ∨ (d = 2 * r ∧ n % 2 = 1) then n + 1 else n

/-- Rounds to the nearest number that binary32 holds, ties to even. -/
def toBinary32 (x : Float) : Float :=
  match read x with
  | .finite negative m e =>
    let q := max (e + m.log2 - 23) (-149)
    if q ≤ e then x
    else
      let n := halve m (q - e).toNat
      if 128 ≤ q + n.log2 then infinity negative else ofDyadic negative n q
  | _ => x

end Binary

end LateBound
