import LateBound.Catalog.Builtin
import LateBound.Value.Key
/-! The world that references point into: shared lists, dictionaries and host objects, the host's
catalogs and functions, and the next number that names nothing yet. -/
namespace LateBound

/-- A host object: its slots, and whether host code holds it. -/
structure Instance where
  slots : OrderedMap String Payload := ∅
  inUse : Bool := false
  deriving Inhabited

abbrev Entries := OrderedMap Key Payload

structure World where
  next : Nat := 0
  lists : OrderedMap Nat (List Payload) := ∅
  dicts : OrderedMap Nat Entries := ∅
  objects : OrderedMap Nat Instance := ∅
  statics : OrderedMap Nat (OrderedMap String Payload) := ∅
  catalogs : OrderedMap Nat Catalog := ∅
  functions : OrderedMap Nat Signature := ∅
  deriving Inhabited

namespace World

def fresh (w : World) : Nat × World := (w.next, { w with next := w.next + 1 })

def newText (s : String) (w : World) : Text × World :=
  let (id, w) := w.fresh
  (⟨id, s⟩, w)

def items (w : World) (l : ListRef) : List Payload := w.lists.getD l.id []

def setItems (w : World) (l : ListRef) (ps : List Payload) : World :=
  { w with lists := w.lists.insert l.id ps }

theorem items_setItems (w : World) (l l' : ListRef) (ps : List Payload) :
    (w.setItems l ps).items l' = if l.id = l'.id then ps else w.items l' := by
  simp only [items, setItems, OrderedMap.getD, OrderedMap.get?_insert, beq_iff_eq]
  split <;> simp

def newList (element : DeclaredType) (ps : List Payload) (w : World) : ListRef × World :=
  let (id, w) := w.fresh
  let l : ListRef := ⟨id, element⟩
  (l, w.setItems l ps)

/-- A list whose element type is inferred from its items. -/
def newUntypedList (ps : List Payload) (w : World) : ListRef × World :=
  w.newList (Payload.commonType ps) ps

def entries (w : World) (d : DictRef) : Entries := w.dicts.getD d.id ∅

def setEntries (w : World) (d : DictRef) (m : Entries) : World :=
  { w with dicts := w.dicts.insert d.id m }

theorem entries_setEntries (w : World) (d d' : DictRef) (m : Entries) :
    (w.setEntries d m).entries d' = if d.id = d'.id then m else w.entries d' := by
  simp only [entries, setEntries, OrderedMap.getD, OrderedMap.get?_insert, beq_iff_eq]
  split <;> simp

def newDict (key value : DeclaredType) (m : Entries) (w : World) : DictRef × World :=
  let (id, w) := w.fresh
  let d : DictRef := ⟨id, key, value⟩
  (d, w.setEntries d m)

/-- A dictionary whose key and value types are inferred from its entries, overwritten ones
included. -/
def newUntypedDict (pairs : List (Key × Payload)) (w : World) : DictRef × World :=
  w.newDict (DeclaredType.common (pairs.map (·.1.naturalType)))
    (Payload.commonType (pairs.map (·.2))) (OrderedMap.ofPairs pairs)

def object (w : World) (o : ObjectRef) : Instance := w.objects.getD o.id {}

def setObject (w : World) (o : ObjectRef) (i : Instance) : World :=
  { w with objects := w.objects.insert o.id i }

theorem object_setObject (w : World) (o o' : ObjectRef) (i : Instance) :
    (w.setObject o i).object o' = if o.id = o'.id then i else w.object o' := by
  simp only [object, setObject, OrderedMap.getD, OrderedMap.get?_insert, beq_iff_eq]
  split <;> simp

def hold (w : World) (o : ObjectRef) : World := w.setObject o { w.object o with inUse := true }

def release (w : World) (o : ObjectRef) : World := w.setObject o { w.object o with inUse := false }

def slot (w : World) (o : ObjectRef) (name : String) (absent : Payload) : Payload :=
  (w.object o).slots.getD name absent

def setSlot (w : World) (o : ObjectRef) (name : String) (p : Payload) : World :=
  w.setObject o { w.object o with slots := (w.object o).slots.insert name p }

def newObject (type : TypeRef) (i : Instance) (w : World) : ObjectRef × World :=
  let (id, w) := w.fresh
  let o : ObjectRef := ⟨id, type⟩
  (o, w.setObject o i)

def staticTable (w : World) : TypeKey → OrderedMap String Payload
  | .declared id => w.statics.getD id ∅
  | .builtin _ => ∅

def static (w : World) (t : TypeRef) (name : String) (absent : Payload) : Payload :=
  (w.staticTable t.key).getD name absent

def setStatic (w : World) (t : TypeRef) (name : String) (p : Payload) : World :=
  match t.key with
  | .declared id => { w with statics := w.statics.insert id ((w.statics.getD id ∅).insert name p) }
  | .builtin _ => w

def catalog (w : World) (t : TypeRef) : Catalog :=
  match t.key with
  | .builtin kind => kind.catalog
  | .declared id => w.catalogs.getD id (Catalog.empty t)

/-- Declares a host type. The world is unchanged if its members are refused. -/
def declare (r : Registration) (statics : OrderedMap String Payload) (w : World) :
    Except CatalogError (TypeRef × World) := do
  let c ← r.build (.declared w.next)
  return (c.type,
    { w with
      next := w.next + 1
      catalogs := w.catalogs.insert w.next c
      statics := w.statics.insert w.next statics })

def instantiate (t : TypeRef) (form : Representation)
    (slots : OrderedMap String Payload) (w : World) :
    Except CatalogError (ObjectRef × World) :=
  if (w.catalog t).representation = form then .ok (w.newObject t { slots })
  else .error (.instanceTypeMismatch t.name)

def newFunction (s : Signature) (w : World) : Callable × World :=
  let (id, w) := w.fresh
  (.declared id, { w with functions := w.functions.insert id s })

def signature (w : World) : Callable → Signature
  | .declared id => w.functions.getD id default
  | .forwarding _ g =>
    { name := g.qualifiedName, parameters := [], returns := .any, isStatic := true,
      isVariadic := true, body := .forward g }

def overloads (w : World) (g : MethodGroup) : List Signature :=
  g.overloads.filterMap fun i => ((w.catalog g.owner).overloads g.name)[i]?

def box (p : Payload) (w : World) : Value × World :=
  let (v, next) := Value.ofPayload w.next p
  (v, { w with next })

def boxAll (ps : List Payload) (w : World) : List Value × World :=
  let (vs, next) := Value.ofPayloads w.next ps
  (vs, { w with next })

def unbox (v : Value) (w : World) : Payload × World :=
  let (p, next) := v.payload w.next
  (p, { w with next })

end World

end LateBound
