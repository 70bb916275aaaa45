import LateBound.Collection
import LateBound.Host.Exchange
import LateBound.Text.CaseMap
import LateBound.Text.Search
/-! What the members of the built-in kinds compute. A member that refuses leaves the world as it
was. -/
namespace LateBound

/-- A payload and the world after, or a message. -/
abbrev Computed := Except String (Payload × World)

def receiverMismatch (type : String) : String := s!"receiver is not a {type}"

namespace World

def textResult (s : List Char) (w : World) : Payload × World :=
  let (t, w) := w.newText (String.ofList s)
  (.text t, w)

end World

def positionPayload (i? : Option Nat) : Payload :=
  .int (match i? with
    | some i => Int64.ofNat i
    | none => -1)

namespace NumberMethod

def run (m : NumberMethod) (n : Number) (w : World) : Payload × World :=
  match m with
  | .absolute => (.number n.absolute, w)
  | .round mode => (.number (n.round mode), w)
  | .toInt => (.int n.toInt, w)
  | .toFloat => (.float n.toFloat, w)
  | .toText =>
    match n with
    | .int n => w.textResult (Decimal.intDigits n.toInt)
    | .float x => w.textResult (floatText x).toList

end NumberMethod

namespace TextMethod

def outOfRange (start : Int) (length : Nat) : String :=
  s!"start {Decimal.intText start} out of range for length {Decimal.natText length}"

def pastEnd (length : Int) : String := s!"length {Decimal.intText length} past end of string"

/-- The characters from `start`, as many as `length` says, or all when it is negative. -/
def cut (s : List Char) (start length : Int) : Except String (List Char) :=
  if 0 ≤ start ∧ start ≤ s.length then
    let rest := s.drop start.toNat
    if length < 0 then .ok rest
    else if start + length ≤ s.length then .ok (rest.take length.toNat)
    else .error (pastEnd length)
  else .error (outOfRange start s.length)

def run (m : TextMethod) (t : Text) (args : List Payload) (w : World) : Computed := do
  let s := t.chars
  match m with
  | .toUpper => return w.textResult (Text.toUpper s)
  | .toLower => return w.textResult (Text.toLower s)
  | .trim => return w.textResult (Text.trim s)
  | .contains =>
    let needle ← HostKind.string.argument w args 0
    return (.bool (Text.indexOf? needle.toList s).isSome, w)
  | .startsWith =>
    let start ← HostKind.string.argument w args 0
    return (.bool (start.toList.isPrefixOf s), w)
  | .endsWith =>
    let tail ← HostKind.string.argument w args 0
    return (.bool (tail.toList.isSuffixOf s), w)
  | .indexOf =>
    let needle ← HostKind.string.argument w args 0
    return (positionPayload (Text.indexOf? needle.toList s), w)
  | .substring =>
    let start ← (HostKind.integer ⟨true, .w64⟩).argument w args 0
    let length ← (HostKind.integer ⟨true, .w64⟩).argument w args 1
    return w.textResult (← cut s start.1 length.1)
  | .split =>
    let separator ← HostKind.string.argument w args 0
    return (HostKind.sequence .string).write ((Text.split separator.toList s).map String.ofList) w
  | .replace =>
    let pattern ← HostKind.string.argument w args 0
    let replacement ← HostKind.string.argument w args 1
    return w.textResult (Text.replace pattern.toList replacement.toList s)

end TextMethod

namespace ListMethod

def outOfRange (index : Int) (length : Nat) : String :=
  s!"index {Decimal.intText index} out of range for length {Decimal.natText length}"

def run (m : ListMethod) (l : ListRef) (args : List Payload) (w : World) : Computed := do
  match m with
  | .add =>
    let item ← HostKind.payload.argument w args 0
    let c ← l.storable w.next item
    return (.null, { w with next := c.next }.appendItem l c.payload)
  | .insert =>
    let index ← (HostKind.integer ⟨true, .w64⟩).argument w args 0
    let item ← HostKind.payload.argument w args 1
    let c ← l.storable w.next item
    match { w with next := c.next }.insertItem? l index.1 c.payload with
    | some w => return (.null, w)
    | none => throw (outOfRange index.1 (w.items l).length)
  | .removeAt =>
    let index ← (HostKind.integer ⟨true, .w64⟩).argument w args 0
    match w.removeItem? l index.1 with
    | some (_, w) => return (.null, w)
    | none => throw (outOfRange index.1 (w.items l).length)
  | .contains =>
    let item ← HostKind.payload.argument w args 0
    return (.bool (l.indexOf? w item).isSome, w)
  | .indexOf =>
    let item ← HostKind.payload.argument w args 0
    return (positionPayload (l.indexOf? w item), w)
  | .clear => return (.null, w.setItems l [])

end ListMethod

namespace DictMethod

def run (m : DictMethod) (d : DictRef) (args : List Payload) (w : World) : Computed := do
  match m with
  | .containsKey =>
    let key ← HostKind.payload.argument w args 0
    return (.bool (d.find? w key).isSome, w)
  | .remove =>
    let key ← HostKind.payload.argument w args 0
    match (d.key? w.next key).bind fun k => w.removeEntry? d k.1 with
    | some (_, w) => return (.bool true, w)
    | none => return (.bool false, w)
  | .get =>
    let key ← HostKind.payload.argument w args 0
    let fallback ← HostKind.payload.argument w args 1
    return ((d.find? w key).getD fallback, w)
  | .clear => return (.null, w.setEntries d ∅)

end DictMethod

namespace BuiltinMethod

def run (m : BuiltinMethod) (receiver : Option Value) (args : List Payload) (w : World) :
    Computed :=
  match m, receiver with
  | .boolToText, some (.bool b) => .ok (w.textResult (boolText b).toList)
  | .boolToText, _ => .error (receiverMismatch BuiltinKind.bool.name)
  | .number m, some (.number n) => .ok (m.run n w)
  | .number _, _ => .error (receiverMismatch BuiltinKind.number.name)
  | .string m, some (.text t) => m.run t args w
  | .string _, _ => .error (receiverMismatch BuiltinKind.string.name)
  | .list m, some (.list l) => m.run l args w
  | .list _, _ => .error (receiverMismatch BuiltinKind.list.name)
  | .dict m, some (.dict d) => m.run d args w
  | .dict _, _ => .error (receiverMismatch BuiltinKind.dict.name)

end BuiltinMethod

namespace BuiltinProperty

def read (p : BuiltinProperty) (receiver : Option Value) (w : World) : Computed :=
  match p, receiver with
  | .isInteger, some (.number n) => .ok (.bool n.isInteger, w)
  | .isInteger, _ => .error (receiverMismatch BuiltinKind.number.name)
  | .length, some (.text t) => .ok (HostKind.ofInt t.chars.length, w)
  | .length, _ => .error (receiverMismatch BuiltinKind.string.name)
  | .listCount, some (.list l) => .ok (HostKind.ofInt (w.items l).length, w)
  | .listCount, _ => .error (receiverMismatch BuiltinKind.list.name)
  | .dictCount, some (.dict d) => .ok (HostKind.ofInt (w.entries d).size, w)
  | .keys, some (.dict d) =>
    let (l, w) := w.newList d.key ((w.entries d).keys.map Key.toPayload)
    .ok (.list l, w)
  | .values, some (.dict d) =>
    let (l, w) := w.newList d.value (w.entries d).values
    .ok (.list l, w)
  | _, _ => .error (receiverMismatch BuiltinKind.dict.name)

end BuiltinProperty

end LateBound
