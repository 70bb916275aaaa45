import LateBound.Collection
import LateBound.Preview
/-! Indexed access to strings, lists and dictionaries. Positions are numbers, floats cut to their
integer part. A dictionary key that does not convert is still looked up as it stands, but never
written. -/
namespace LateBound

namespace Value

/-- The position an index stands for, or the failure to report. -/
def position (index : Value) : Except Failure Int :=
  match index with
  | .error e => .error e
  | .number n => .ok n.toInt.toInt
  | v => .error (.nonNumericIndex v.typeName)

def positionWithin (index : Value) (length : Nat) : Except Failure Nat := do
  let i ← index.position
  if 0 ≤ i ∧ i < length then return i.toNat else throw (.indexOutOfRange i length)

end Value

namespace DictRef

/-- The key that reading uses: the converted one, else the payload as it stands. -/
def readKey? (d : DictRef) (next : Nat) (p : Payload) : Option Key :=
  match d.key? next p with
  | some (k, _) => some k
  | none => Key.ofPayload? p

end DictRef

namespace World

def getListItem (w : World) (l : ListRef) (index : Value) : Value × World :=
  match index.positionWithin (w.items l).length with
  | .error e => (.error e, w)
  | .ok i =>
    match (w.items l)[i]? with
    | some p => w.box p
    | none => (.null, w)

def getCharacter (w : World) (t : Text) (index : Value) : Value × World :=
  match index.positionWithin t.chars.length with
  | .error e => (.error e, w)
  | .ok i =>
    match t.chars[i]? with
    | some c =>
      let (t, w) := w.newText (String.singleton c)
      (.text t, w)
    | none => (.null, w)

def getEntry (w : World) (d : DictRef) (key : Value) : Value × World :=
  if key.isError then (key, w)
  else
    let (p, next) := key.payload w.next
    match (d.readKey? next p).bind fun k => (w.entries d).get? k with
    | some item => w.box item
    | none => (.error (.keyNotFound (w.preview {} key)), w)

/-- `none` when the value is not indexable. -/
def getAt? (w : World) (target index : Value) : Option (Value × World) :=
  match target with
  | .text t => some (w.getCharacter t index)
  | .list l => some (w.getListItem l index)
  | .dict d => some (w.getEntry d index)
  | _ => none

def setListItem? (w : World) (l : ListRef) (index v : Value) : Option World :=
  if v.isError then none
  else
    match index.positionWithin (w.items l).length with
    | .error _ => none
    | .ok i =>
      (v.coerce w.next l.element).bind fun c =>
        { w with next := c.next }.replaceItem? l i c.payload

def setEntry? (w : World) (d : DictRef) (key v : Value) : Option World :=
  if key.isError || v.isError then none
  else
    let (p, next) := key.payload w.next
    (d.key? next p).bind fun (k, next) =>
      (v.coerce next d.value).map fun c => { w with next := c.next }.insertEntry d k c.payload

/-- Whether the write was made. One that is not made leaves the world as it was. -/
def setAt (w : World) (target index v : Value) : Bool × World :=
  let written := match target with
    | .list l => w.setListItem? l index v
    | .dict d => w.setEntry? d index v
    | _ => none
  match written with
  | some w => (true, w)
  | none => (false, w)

end World

end LateBound
