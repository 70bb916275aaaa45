import LateBound.Host.Program
/-! Signatures of methods, constructors and functions. -/
namespace LateBound

inductive NumberMethod
  | absolute
  | round (mode : Binary.Rounding)
  | toInt
  | toFloat
  | toText
  deriving DecidableEq

inductive TextMethod
  | toUpper
  | toLower
  | trim
  | contains
  | startsWith
  | endsWith
  | indexOf
  | substring
  | split
  | replace
  deriving DecidableEq

inductive ListMethod
  | add
  | insert
  | removeAt
  | contains
  | indexOf
  | clear
  deriving DecidableEq

inductive DictMethod
  | containsKey
  | remove
  | get
  | clear
  deriving DecidableEq

inductive BuiltinMethod
  | boolToText
  | number (m : NumberMethod)
  | string (m : TextMethod)
  | list (m : ListMethod)
  | dict (m : DictMethod)
  deriving DecidableEq

inductive BuiltinProperty
  | isInteger
  | length
  | listCount
  | dictCount
  | keys
  | values
  deriving DecidableEq

/-- What a signature, a getter or a setter runs. Code of an instance needs one of the host type it
was declared for; free code sees an instance only if it is given one; a constructor runs its code on
a new instance. -/
inductive Body
  | builtin (m : BuiltinMethod)
  | property (p : BuiltinProperty)
  | method (owner : String) (code : List Payload → Program)
  | free (code : List Payload → Program)
  | construct (type : TypeRef) (code : List Payload → Program)
  | forward (group : MethodGroup)

structure Parameter where
  name : String
  type : DeclaredType
  default : Option Payload := none

structure Signature where
  name : String
  parameters : List Parameter
  returns : DeclaredType
  isStatic : Bool := false
  isVariadic : Bool := false
  body : Body

instance : Inhabited Signature := ⟨"", [], .any, true, false, .free fun _ => default⟩

namespace Parameter

def text (p : Parameter) : String :=
  p.type.text ++ " " ++ p.name ++ if p.default.isSome then " = .." else ""

def misplaced? : List Parameter → Option Parameter
  | [] => none
  | p :: rest => if p.default.isSome then rest.find? (·.default.isNone) else misplaced? rest

theorem misplaced?_eq_none_iff (ps : List Parameter) :
    misplaced? ps = none ↔
      ∃ required optional, ps = required ++ optional ∧
        (∀ p ∈ required, p.default = none) ∧ ∀ p ∈ optional, p.default.isSome := by
  induction ps with
  | nil => exact ⟨fun _ => ⟨[], [], rfl, by simp, by simp⟩, fun _ => rfl⟩
  | cons p rest ih =>
    by_cases hp : p.default.isSome
    · simp only [misplaced?, hp, if_true, List.find?_eq_none]
      constructor
      · intro h
        refine ⟨[], p :: rest, rfl, by simp, ?_⟩
        intro q hq
        rcases List.mem_cons.1 hq with rfl | hq
        · exact hp
        · have hn := h q hq
          cases hd : q.default <;> simp_all
      · rintro ⟨required, optional, he, hr, ho⟩ q hq
        cases required with
        | nil =>
          have hs := ho q (by rw [← show p :: rest = optional from he]; simp [hq])
          cases hd : q.default <;> simp_all
        | cons r rs =>
          injection he with hh _
          simp [hr p (by simp [hh])] at hp
    · simp only [misplaced?, hp]
      rw [if_neg (by simp), ih]
      constructor
      · rintro ⟨required, optional, he, hr, ho⟩
        refine ⟨p :: required, optional, by simp [he], ?_, ho⟩
        intro q hq
        rcases List.mem_cons.1 hq with rfl | hq
        · simpa using hp
        · exact hr q hq
      · rintro ⟨required, optional, he, hr, ho⟩
        cases required with
        | nil => exact absurd (ho p (by rw [← show p :: rest = optional from he]; simp)) hp
        | cons r rs =>
          injection he with _ ht
          exact ⟨rs, optional, ht, fun q hq => hr q (by simp [hq]), ho⟩

end Parameter

namespace Signature

def returnsVoid (s : Signature) : Bool := s.returns == .void

/-- What follows the last parameter without a default may be left out. -/
def minArity (s : Signature) : Nat :=
  (s.parameters.reverse.dropWhile (·.default.isSome)).length

def acceptsArity (s : Signature) (count : Nat) : Bool :=
  s.minArity ≤ count && (s.isVariadic || count ≤ s.parameters.length)

theorem minArity_le (s : Signature) : s.minArity ≤ s.parameters.length := by
  simpa [minArity] using
    (List.dropWhile_suffix (·.default.isSome) (l := s.parameters.reverse)).length_le

/-- `name(type parameter, …) -> result`. -/
def text (s : Signature) : String :=
  let listed := s.parameters.map Parameter.text ++ if s.isVariadic then [".."] else []
  s.name ++ "(" ++ ", ".intercalate listed ++ ") -> " ++ s.returns.text

end Signature

end LateBound
