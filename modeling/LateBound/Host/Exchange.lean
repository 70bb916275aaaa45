import LateBound.World
/-! Typed host data crossing into and out of payloads. Sequences leave the host as new lists,
strings as new texts. -/
namespace LateBound

namespace HostKind

/-- Integers beyond 64 signed bits become floats. -/
def ofInt (n : Int) : Payload :=
  match Integer64.ofInt? n with
  | some n => .int n
  | none => .float (.ofModel (.ofInt n))

def writeAll {α : Type} (f : α → World → Payload × World) : List α → World → List Payload × World
  | [], w => ([], w)
  | x :: xs, w =>
    let (p, w) := f x w
    let (ps, w) := writeAll f xs w
    (p :: ps, w)

def write : (k : HostKind) → k.Carrier → World → Payload × World
  | .payload, p, w => (p, w)
  | .bool, b, w => (.bool b, w)
  | .integer _, n, w => (ofInt n.1, w)
  | .single, x, w => (.float x, w)
  | .double, x, w => (.float x, w)
  | .string, s, w =>
    let (t, w) := w.newText s
    (.text t, w)
  | .char, c, w => (.char c, w)
  | .list, l, w => (.list l, w)
  | .dict, d, w => (.dict d, w)
  | .function, f, w => (.callable f, w)
  | .sequence item, xs, w =>
    let (ps, w) := writeAll item.write xs w
    let (l, w) := w.newList item.declaredType ps
    (.list l, w)
  | .optional _, none, w => (.null, w)
  | .optional item, some x, w => item.write x w

def read (k : HostKind) (w : World) (p : Payload) : Option k.Carrier := k.read? w.items p

def exchange (k : HostKind) (p : Payload) (w : World) : Option (Payload × World) :=
  (k.read w p).map fun x => k.write x w

def argument (k : HostKind) (w : World) (args : List Payload) (i : Nat) : Except String k.Carrier :=
  match args[i]? with
  | none => .error (missingArgument i)
  | some p =>
    match k.read w p with
    | none => .error (k.unexpectedArgument i p)
    | some x => .ok x

/-- A dictionary of typed host data. Keys that cannot key a dictionary are left out. -/
def dictEntries (key value : HostKind) : List (key.Carrier × value.Carrier) → World →
    List (Key × Payload) × World
  | [], w => ([], w)
  | (k, v) :: rest, w =>
    let (pk, w) := key.write k w
    match Key.ofPayload? pk with
    | none => dictEntries key value rest w
    | some k =>
      let (p, w) := value.write v w
      let (es, w) := dictEntries key value rest w
      ((k, p) :: es, w)

def newDict (key value : HostKind) (pairs : List (key.Carrier × value.Carrier)) (w : World) :
    DictRef × World :=
  let (es, w) := dictEntries key value pairs w
  w.newDict key.declaredType value.declaredType (OrderedMap.ofPairs es)

end HostKind

end LateBound
