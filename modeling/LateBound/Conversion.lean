import LateBound.Decimal.Layout
import LateBound.Decimal.Reader
import LateBound.Text.Blank
import LateBound.Value.Kind
/-! Conversion of payloads to declared types, at one of four costs. A conversion that makes a new
text takes the next unused number for it. -/
namespace LateBound

structure Conversion where
  payload : Payload
  cost : UInt32
  next : Nat
  deriving DecidableEq

namespace Conversion

/-- The payload has the declared type already. -/
def exactCost : UInt32 := 0

/-- Nothing is lost: integer to float, character to string, null, anything to `any`. -/
def wideningCost : UInt32 := 1

/-- Something may be lost, or text is read. -/
def lossyCost : UInt32 := 2

/-- A scalar is written as text. -/
def writingCost : UInt32 := 3

def exact (next : Nat) (p : Payload) : Option Conversion := some ⟨p, exactCost, next⟩

def widening (next : Nat) (p : Payload) : Option Conversion := some ⟨p, wideningCost, next⟩

def lossy (next : Nat) (p : Payload) : Option Conversion := some ⟨p, lossyCost, next⟩

def writing (next : Nat) (s : String) : Option Conversion :=
  some ⟨.text ⟨next, s⟩, writingCost, next + 1⟩

end Conversion

def boolText (b : Bool) : String := if b then "true" else "false"

def floatText (x : Float) : String := Decimal.Layout.readable.text x

namespace Text

def singleChar? (s : List Char) : Option Char :=
  match s with
  | [c] => some c
  | _ => none

def readBool? (s : List Char) : Option Bool :=
  if Decimal.sameWord s ['t', 'r', 'u', 'e'] then some true
  else if Decimal.sameWord s ['f', 'a', 'l', 's', 'e'] then some false
  else none

end Text

namespace Payload

open Conversion

/-- A component of a declared collection type takes its own type, or anything when it is `any`. -/
def fits (actual declared : DeclaredType) : Bool := actual == declared || declared == .any

/-- Conversion of a payload that is not boxed. -/
def convertPlain (next : Nat) : Payload → DeclaredType → Option Conversion
  | .boxed _, _ => none
  | .null, t => if t.isNullable then widening next .null else none
  | .bool b, .bool => exact next (.bool b)
  | .bool b, .string => writing next (boolText b)
  | .int n, .int => exact next (.int n)
  | .int n, .float => widening next (.float (Binary.ofInt64 n))
  | .int n, .string => writing next (Decimal.intText n.toInt)
  | .float x, .float => exact next (.float x)
  | .float x, .int => (Binary.toInt64? x).bind fun n => lossy next (.int n)
  | .float x, .string => writing next (floatText x)
  | .char c, .char => exact next (.char c)
  | .char c, .string => some ⟨.text ⟨next, String.singleton c⟩, wideningCost, next + 1⟩
  | .text t, .string => exact next (.text t)
  | .text t, .char => (Text.singleChar? t.chars).bind fun c => widening next (.char c)
  | .text t, .int => (Decimal.readInt64? (Text.trim t.chars)).bind fun n => lossy next (.int n)
  | .text t, .float =>
    (Decimal.readFloat? (Text.trim t.chars)).bind fun x => lossy next (.float x)
  | .text t, .bool => (Text.readBool? (Text.trim t.chars)).bind fun b => lossy next (.bool b)
  | .list l, .list element =>
    if l.element == element then exact next (.list l)
    else if element == .any then widening next (.list l)
    else none
  | .dict d, .dict key value =>
    if d.key == key && d.value == value then exact next (.dict d)
    else if fits d.key key && fits d.value value then widening next (.dict d)
    else none
  | .object o, .object name => if o.type.name == name then exact next (.object o) else none
  | .type t, .type => exact next (.type t)
  | .callable f, .callable => exact next (.callable f)
  | p, .any => widening next p
  | _, _ => none

/-- A boxed value converts as its payload does. -/
def convert (next : Nat) (p : Payload) (t : DeclaredType) : Option Conversion :=
  match p with
  | .boxed v =>
    let (q, next) := v.payload next
    q.convertPlain next t
  | p => p.convertPlain next t

end Payload

namespace Value

def coerce (next : Nat) (v : Value) (t : DeclaredType) : Option Conversion :=
  let (p, next) := v.payload next
  p.convert next t

end Value

end LateBound
