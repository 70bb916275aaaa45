import LateBound.OrderedMap
import LateBound.Value.Kind
/-! Dictionary keys: the scalar payloads but floats. Text keys compare by content and keep the
storage of the text that introduced them. -/
namespace LateBound

inductive Key
  | bool (b : Bool)
  | int (n : Int64)
  | char (c : Char)
  | text (t : Text)
  deriving DecidableEq

namespace Key

def ofPayload? : Payload → Option Key
  | .bool b => some (.bool b)
  | .int n => some (.int n)
  | .char c => some (.char c)
  | .text t => some (.text t)
  | _ => none

def toPayload : Key → Payload
  | .bool b => .bool b
  | .int n => .int n
  | .char c => .char c
  | .text t => .text t

@[simp] theorem ofPayload?_toPayload (k : Key) : ofPayload? k.toPayload = some k := by
  cases k <;> rfl

def naturalType : Key → DeclaredType
  | .bool _ => .bool
  | .int _ => .int
  | .char _ => .char
  | .text _ => .string

@[simp] theorem naturalType_toPayload (k : Key) : k.toPayload.naturalType = k.naturalType := by
  cases k <;> rfl

def display : Key → String
  | .bool b => if b then "true" else "false"
  | .int n => Decimal.intText n.toInt
  | .char c => Text.quotedChar c
  | .text t => Text.quoted t.content

/-- Whether two keys address the same entry. -/
def addressesSame : Key → Key → Bool
  | .bool a, .bool b => a == b
  | .int a, .int b => a == b
  | .char a, .char b => a == b
  | .text a, .text b => a.content == b.content
  | _, _ => false

instance : BEq Key := ⟨addressesSame⟩

theorem beq_eq (a b : Key) : (a == b) = addressesSame a b := rfl

instance : ReflBEq Key where
  rfl {k} := by cases k <;> simp [beq_eq, addressesSame]

instance : PartialEquivBEq Key where
  symm {a b} h := by
    cases a <;> cases b <;> simp_all [beq_eq, addressesSame]
  trans {a b c} h h' := by
    cases a <;> cases b <;> cases c <;> simp_all [beq_eq, addressesSame]

theorem naturalType_eq_of_beq {a b : Key} (h : a == b) : a.naturalType = b.naturalType := by
  cases a <;> cases b <;> simp_all [beq_eq, addressesSame, naturalType]

theorem display_eq_of_beq {a b : Key} (h : a == b) : a.display = b.display := by
  cases a <;> cases b <;> simp_all [beq_eq, addressesSame, display]

end Key

end LateBound
