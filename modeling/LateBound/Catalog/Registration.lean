import LateBound.Catalog.Basic
/-! Declaring a host type. Members are collected in order, checked, and then frozen into a catalog:
accessor names must differ from each other and from method names, and parameters with defaults must
come last. -/
namespace LateBound

structure Constructor where
  parameters : List Parameter
  code : List Payload → Program

structure Registration where
  name : String
  representation : Representation := .slots
  properties : List Accessor := []
  fields : List Accessor := []
  methods : List Signature := []
  constructors : List Constructor := []
  defaultCode : Option Program := none
  display : Option (List DisplayPart) := none

namespace Registration

def property (r : Registration) (a : Accessor) : Registration :=
  { r with properties := r.properties ++ [a] }

def field (r : Registration) (a : Accessor) : Registration := { r with fields := r.fields ++ [a] }

def method (r : Registration) (s : Signature) : Registration :=
  { r with methods := r.methods ++ [s] }

def construct (r : Registration) (c : Constructor) : Registration :=
  { r with constructors := r.constructors ++ [c] }

def accessorNames (r : Registration) : List String := (r.properties ++ r.fields).map (·.name)

def constructorName (r : Registration) : String := r.name ++ ".new"

/-- The first element that also stands before itself. -/
def firstRepeat? (seen : List String) : List String → Option String
  | [] => none
  | n :: rest => if n ∈ seen then some n else firstRepeat? (seen ++ [n]) rest

def nameProblem? (r : Registration) : Option CatalogError :=
  match firstRepeat? [] r.accessorNames with
  | some n => some (.duplicateMember r.name n)
  | none =>
    (r.methods.find? fun s => s.name ∈ r.accessorNames).map fun s => .duplicateMember r.name s.name

def defaultProblem? (callee : String) (ps : List Parameter) : Option CatalogError :=
  (Parameter.misplaced? ps).map fun p => .defaultNotTrailing callee p.name

/-- The first thing wrong with the members: names, then the parameters of methods, then those of
constructors. -/
def problem? (r : Registration) : Option CatalogError :=
  (r.nameProblem?.or (r.methods.findSome? fun s => defaultProblem? s.name s.parameters)).or
    (r.constructors.findSome? fun c => defaultProblem? r.constructorName c.parameters)

/-- Methods grouped by name, names in the order of their first overload. -/
def group (methods : List Signature) : OrderedMap String (List Signature) :=
  methods.foldl (fun m s => m.insert s.name (m.getD s.name [] ++ [s])) ∅

def constructorSignature (r : Registration) (type : TypeRef) (c : Constructor) : Signature where
  name := r.constructorName
  parameters := c.parameters
  returns := .object r.name
  isStatic := true
  body := .construct type c.code

def freeze (r : Registration) (key : TypeKey) : Catalog :=
  let type : TypeRef := ⟨key, r.name⟩
  { type
    representation := r.representation
    properties := r.properties
    fields := r.fields
    methods := group r.methods
    constructors := r.constructors.map (r.constructorSignature type)
    defaultConstructor := r.defaultCode.map fun code =>
      r.constructorSignature type ⟨[], fun _ => code⟩
    display := r.display }

def build (r : Registration) (key : TypeKey) : Except CatalogError Catalog :=
  match r.problem? with
  | some e => .error e
  | none => .ok (r.freeze key)

theorem build_eq_ok_iff (r : Registration) (key : TypeKey) (c : Catalog) :
    r.build key = .ok c ↔ r.problem? = none ∧ c = r.freeze key := by
  unfold build
  cases r.problem? <;> simp [eq_comm]

end Registration

end LateBound
