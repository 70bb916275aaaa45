import LateBound.Catalog.Registration
import LateBound.Host.Script
/-! Host types written as data. An instance is a table of slots; a member reads and writes one slot
as its kind, static members those of the type itself, which their code knows by its key. -/
namespace LateBound

inductive MemberForm
  | property
  | readWriteProperty
  | writeOnlyProperty
  | staticProperty
  | field
  | readOnlyField
  | staticField
  deriving DecidableEq

namespace MemberForm

def isStatic : MemberForm → Bool
  | .staticProperty | .staticField => true
  | _ => false

def isField : MemberForm → Bool
  | .field | .readOnlyField | .staticField => true
  | _ => false

def isReadable : MemberForm → Bool
  | .writeOnlyProperty => false
  | _ => true

def isWritable : MemberForm → Bool
  | .readWriteProperty | .writeOnlyProperty | .field | .staticField => true
  | _ => false

end MemberForm

/-- A refusal is what the code of a member panics with instead of reading or storing. -/
structure MemberPlan where
  form : MemberForm
  name : String
  kind : HostKind
  slot : String
  readRefusal : Option String := none
  writeRefusal : Option String := none

structure MethodPlan where
  name : String
  parameters : List Parameter
  returns : DeclaredType
  isStatic : Bool
  script : Script

structure ConstructorPlan where
  parameters : List Parameter
  script : Script

inductive DisplayPlan
  | literal (s : String)
  | slot (slot : String)
  | refuse

structure Blueprint where
  name : String
  initial : OrderedMap String Payload := ∅
  statics : OrderedMap String Payload := ∅
  members : List MemberPlan := []
  methods : List MethodPlan := []
  constructors : List ConstructorPlan := []
  defaultConstructible : Bool := false
  display : Option (List DisplayPlan) := none

/-- Code that hands out what a slot holds as a kind. -/
def Program.readsSlot (read : Request) (slot : String) (kind : HostKind) (refusal : Option String) :
    Program :=
  match refusal with
  | some m => .panic (.text m)
  | none =>
    .demand read fun p =>
      .ask (.exchange kind p) fun
        | .ok q => .done q
        | .error _ => .panic (.text s!"slot {slot} does not hold {kind.declaredType.text}")

/-- Code that stores what it is given in a slot, if that is data of the kind. -/
def Program.storesSlot (write : Payload → Request) (kind : HostKind) (refusal : Option String)
    (p : Payload) : Program :=
  match refusal with
  | some m => .panic (.text m)
  | none =>
    .ask (.exchange kind p) fun
      | .ok q => .demand (write q) .done
      | .error _ => .fail s!"cannot store {p.kindName} as {kind.declaredType.text}"

/-- A slot as members reach it: of the instance they are called on, or of a type. -/
structure Slot where
  type : TypeRef
  isStatic : Bool
  name : String
  kind : HostKind

namespace Slot

def body (s : Slot) (code : List Payload → Program) : Body :=
  if s.isStatic then .free code else .method s.type.name code

def getter (s : Slot) (absent : Payload) (refusal : Option String) : Body :=
  let read : Request := if s.isStatic then .readStatic s.type s.name absent
    else .readSlot s.name absent
  s.body fun _ => .readsSlot read s.name s.kind refusal

def setter (s : Slot) (refusal : Option String) : Body :=
  let write (q : Payload) : Request :=
    if s.isStatic then .writeStatic s.type s.name q else .writeSlot s.name q
  s.body fun
    | p :: _ => .storesSlot write s.kind refusal p
    | [] => .fail (HostKind.missingArgument 0)

end Slot

namespace Blueprint

def absent (b : Blueprint) (slot : String) : Payload := b.initial.getD slot .null

def slot (b : Blueprint) (key : TypeKey) (m : MemberPlan) : Slot :=
  ⟨⟨key, b.name⟩, m.form.isStatic, m.slot, m.kind⟩

def accessor (b : Blueprint) (key : TypeKey) (m : MemberPlan) : Accessor where
  name := m.name
  type := m.kind.declaredType
  isStatic := m.form.isStatic
  getter :=
    if m.form.isReadable then
      some ((b.slot key m).getter (if m.form.isStatic then .null else b.absent m.slot)
        m.readRefusal)
    else none
  setter := if m.form.isWritable then some ((b.slot key m).setter m.writeRefusal) else none

def signature (b : Blueprint) (m : MethodPlan) : Signature where
  name := m.name
  parameters := m.parameters
  returns := m.returns
  isStatic := m.isStatic
  body :=
    if m.isStatic then .free (m.script.program b.initial)
    else .method b.name (m.script.program b.initial)

def displayPart (b : Blueprint) : DisplayPlan → DisplayPart
  | .literal s => .literal s
  | .slot slot => .slot slot (b.absent slot)
  | .refuse => .refuse

def registration (b : Blueprint) (key : TypeKey) : Registration where
  name := b.name
  properties := (b.members.filter (!·.form.isField)).map (b.accessor key)
  fields := (b.members.filter (·.form.isField)).map (b.accessor key)
  methods := b.methods.map b.signature
  constructors := b.constructors.map fun c => ⟨c.parameters, c.script.program b.initial⟩
  defaultCode := if b.defaultConstructible then some (.done .null) else none
  display := b.display.map (·.map b.displayPart)

end Blueprint

end LateBound
