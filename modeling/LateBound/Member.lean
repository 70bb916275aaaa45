import LateBound.Execution
/-! Members by name. A name resolves to an accessor, properties before fields, else to the overloads
declared under it. A target that is a type selects the static context, in which only static members
are visible and method groups are unbound. -/
namespace LateBound

def Value.isType : Value → Bool
  | .type _ => true
  | _ => false

def Accessor.receiverOf (a : Accessor) (target : Value) : Option Value :=
  if a.isStatic then none else some target

namespace World

def visibleAccessor? (w : World) (staticContext : Bool) (t : TypeRef) (name : String) :
    Option Accessor :=
  ((w.catalog t).accessor? name).filter fun a => visibleIn staticContext a.isStatic

/-- Where the visible overloads of a name stand among all overloads of that name. -/
def visibleOverloads (w : World) (staticContext : Bool) (t : TypeRef) (name : String) : List Nat :=
  (((w.catalog t).overloads name).zipIdx.filter fun s => visibleIn staticContext s.1.isStatic).map
    (·.2)

def readAccessor (call : Caller) (w : World) (t : TypeRef) (target : Value) (a : Accessor) :
    Option (Value × World) :=
  match a.getter with
  | none => some (.error (.unknown s!"member '{a.name}' of {t.name} is write-only"), w)
  | some b => b.dispatch call s!"{t.name}.{a.name}" false (a.receiverOf target) [] w

def getMember (call : Caller) (w : World) (target : Value) (t : TypeRef) (name : String) :
    Option (Value × World) :=
  if target.isError then some (target, w)
  else
    match w.visibleAccessor? target.isType t name with
    | some a => w.readAccessor call t target a
    | none =>
      match w.visibleOverloads target.isType t name with
      | [] => some (.error (.memberNotFound t.name name), w)
      | is =>
        some (.method (if target.isType then .unbound t name is else .bound target t name is), w)

def writeAccessor (call : Caller) (w : World) (target : Value) (a : Accessor) (v : Value) :
    Option (Bool × World) :=
  match a.setter, v.coerce w.next a.type with
  | some b, some c =>
    match { w with next := c.next }.runOn call (a.receiverOf target) [c.payload] b with
    | .error _ => some (false, w)
    | .ok ended => ended.map fun (r, w) => (r.toBool, w)
  | _, _ => some (false, w)

/-- Writes a member of the target. What a setter does before it fails is not undone. -/
def setMember (call : Caller) (w : World) (target : Value) (t : TypeRef)
    (name : String) (v : Value) :
    Option (Bool × World) :=
  if target.isError || v.isError then some (false, w)
  else
    match w.visibleAccessor? target.isType t name with
    | some a => w.writeAccessor call target a v
    | none => some (false, w)

def memberNames (w : World) (target : Value) (t : TypeRef) : List String :=
  ((w.catalog t).accessors.filter fun a => a.isReadable && visibleIn target.isType a.isStatic).map
    (·.name)

def methodNames (w : World) (target : Value) (t : TypeRef) : List String :=
  (w.catalog t).methodNames.filter fun n =>
    ((w.catalog t).overloads n).any fun s => visibleIn target.isType s.isStatic

end World

end LateBound
