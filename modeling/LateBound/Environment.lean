import LateBound.Index
import LateBound.Invocation
import LateBound.Operator
/-! What a console works with: preview limits, registered types and named root values. Every
operation takes and returns values, and failures are values too. -/
namespace LateBound

abbrev TypeRegistry := OrderedMap String TypeRef

namespace TypeRegistry

def register (r : TypeRegistry) (t : TypeRef) : Except CatalogError TypeRegistry :=
  if r.contains t.name then .error (.duplicateType t.name) else .ok (r.insert t.name t)

end TypeRegistry

def sortNames (names : List String) : List String := names.mergeSort fun a b => decide (a ≤ b)

def dropRepeats : List String → List String
  | [] => []
  | [n] => [n]
  | n :: m :: rest => if n = m then dropRepeats (m :: rest) else n :: dropRepeats (m :: rest)

def TypeRegistry.names (r : TypeRegistry) : List String := sortNames r.keys

structure Environment where
  limits : PreviewLimits := {}
  tracing : Bool := false
  types : TypeRegistry := ∅
  globals : OrderedMap String Value := ∅

namespace Environment

def globalsName : String := "<globals>"

def register (e : Environment) (t : TypeRef) : Except CatalogError Environment := do
  return { e with types := ← e.types.register t }

def typeNamed (e : Environment) (name : String) : Value :=
  match e.types.get? name with
  | some t => .type t
  | none => .error (.memberNotFound globalsName name)

/-- Names a value, replacing what had the name before. -/
def bind (e : Environment) (name : String) (p : Payload) (w : World) :
    Value × Environment × World :=
  let (v, w) := w.box p
  (v, { e with globals := e.globals.insert name v }, w)

def unbind (e : Environment) (name : String) : Option Value × Environment :=
  (e.globals.get? name, { e with globals := e.globals.erase name })

def lookup (e : Environment) (name : String) : Value :=
  match e.globals.get? name with
  | some v => v
  | none => e.typeNamed name

def bindingNames (e : Environment) : List String := sortNames e.globals.keys

def preview (e : Environment) (w : World) (v : Value) : String := w.preview e.limits v

def binary (symbol : String) (left right : Value) : Value :=
  Operator.evaluateSymbol symbol left right

/-- The members of a target, or the root names, that begin with the given text. -/
def complete (e : Environment) (w : World) (target : Option Value) (start : String) :
    List String :=
  let names := match target with
    | none => e.globals.keys ++ e.types.keys
    | some v =>
      match v.memberType? with
      | none => []
      | some t => w.memberNames v t ++ w.methodNames v t
  dropRepeats (sortNames (names.filter fun n => start.toList.isPrefixOf n.toList))

end Environment

namespace World

def getNamed (call : Caller) (w : World) (target : Value) (name : String) :
    Option (Value × World) :=
  match target.memberType? with
  | some t => w.getMember call target t name
  | none =>
    match target with
    | .error e => some (.error e, w)
    | v => some (.error (.memberNotFound v.typeName name), w)

def setNamed (call : Caller) (w : World) (target : Value) (name : String) (v : Value) :
    Option (Bool × World) :=
  match target.memberType? with
  | some t => w.setMember call target t name v
  | none => some (false, w)

def namesOf (w : World) (target : Value) : List String :=
  match target.memberType? with
  | some t => w.memberNames target t
  | none => []

def getAt (w : World) (target index : Value) : Value × World :=
  match target with
  | .error e => (.error e, w)
  | v =>
    match w.getAt? v index with
    | some r => r
    | none => (.error (.notIndexable v.typeName), w)

end World

end LateBound
