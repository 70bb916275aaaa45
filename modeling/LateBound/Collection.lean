import LateBound.Conversion
import LateBound.Value.Identity
import LateBound.World
/-! Typed writes to shared lists and dictionaries, and the lookups they have in common. -/
namespace LateBound

namespace ListRef

/-- An item converted to the element type, or why it cannot be stored. -/
def storable (l : ListRef) (next : Nat) (item : Payload) : Except String Conversion :=
  match item.convert next l.element with
  | some c => .ok c
  | none => .error s!"cannot store {item.kindName} in list<{l.element.text}>"

/-- Where a payload stands in a list. It is compared as the element it would be stored as, if it can
be stored at all. -/
def indexOf? (l : ListRef) (w : World) (item : Payload) : Option Nat :=
  let needle := ((item.convert w.next l.element).map (·.payload)).getD item
  (w.items l).findIdx? (·.hostEqual needle)

end ListRef

namespace DictRef

/-- The key of a payload, after conversion to the key type. -/
def key? (d : DictRef) (next : Nat) (p : Payload) : Option (Key × Nat) :=
  (p.convert next d.key).bind fun c => (Key.ofPayload? c.payload).map (·, c.next)

def find? (d : DictRef) (w : World) (p : Payload) : Option Payload :=
  (d.key? w.next p).bind fun k => (w.entries d).get? k.1

end DictRef

namespace World

def insertItem? (w : World) (l : ListRef) (i : Int) (p : Payload) : Option World :=
  if 0 ≤ i ∧ i ≤ (w.items l).length then
    some (w.setItems l ((w.items l).insertIdx i.toNat p))
  else none

def replaceItem? (w : World) (l : ListRef) (i : Int) (p : Payload) : Option World :=
  if 0 ≤ i ∧ i < (w.items l).length then some (w.setItems l ((w.items l).set i.toNat p)) else none

def removeItem? (w : World) (l : ListRef) (i : Int) : Option (Payload × World) :=
  if 0 ≤ i then
    (w.items l)[i.toNat]?.map fun p => (p, w.setItems l ((w.items l).eraseIdx i.toNat))
  else none

def appendItem (w : World) (l : ListRef) (p : Payload) : World :=
  w.setItems l (w.items l ++ [p])

def insertEntry (w : World) (d : DictRef) (k : Key) (p : Payload) : World :=
  w.setEntries d ((w.entries d).insert k p)

def removeEntry? (w : World) (d : DictRef) (k : Key) : Option (Payload × World) :=
  ((w.entries d).get? k).map fun p => (p, w.setEntries d ((w.entries d).erase k))

end World

end LateBound
