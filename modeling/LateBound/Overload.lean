import LateBound.Conversion
import LateBound.Signature
/-! Overload resolution. A candidate applies when it takes the number of arguments and every
argument converts. The cheapest wins, then the one that fills in fewer defaults, then the
first declared. -/
namespace LateBound

/-- Arguments as a body receives them: the converted ones, then defaults. -/
structure Binding where
  arguments : List Payload
  cost : UInt32
  next : Nat

inductive Rejection
  | arity
  | argumentType (index : Nat)
  deriving DecidableEq

/-- Arguments past the declared parameters are bound as `any`. -/
def bindArguments (next index : Nat) : List Parameter → List Payload → Except Rejection Binding
  | ps, [] => .ok ⟨ps.map (·.default.getD .null), 0, next⟩
  | ps, a :: as =>
    match a.convert next ((ps.head?.map (·.type)).getD .any) with
    | none => .error (.argumentType index)
    | some c =>
      match bindArguments c.next (index + 1) ps.tail as with
      | .error r => .error r
      | .ok b => .ok ⟨c.payload :: b.arguments, c.cost + b.cost, b.next⟩

def Signature.bind (next : Nat) (s : Signature) (args : List Payload) : Except Rejection Binding :=
  if s.acceptsArity args.length then bindArguments next 0 s.parameters args else .error .arity

theorem Signature.bind_eq_arity_iff (next : Nat) (s : Signature) (args : List Payload) :
    s.bind next args = .error .arity ↔ s.acceptsArity args.length = false := by
  have hb : ∀ (as : List Payload) (ps : List Parameter) (n i : Nat),
      bindArguments n i ps as ≠ .error .arity := by
    intro as
    induction as with
    | nil => intro ps n i; simp [bindArguments]
    | cons a as ih =>
      intro ps n i h
      unfold bindArguments at h
      split at h
      · simp at h
      · split at h
        · rename_i hr
          injection h with h
          subst h
          exact ih _ _ _ hr
        · simp at h
  unfold Signature.bind
  split <;> simp_all

structure Resolution where
  index : Nat
  signature : Signature
  binding : Binding
  defaulted : Nat

namespace Resolution

def better (r best : Resolution) : Bool :=
  r.binding.cost < best.binding.cost ||
    (r.binding.cost == best.binding.cost && r.defaulted < best.defaulted)

end Resolution

namespace Overload

/-- A candidate replaces the best so far only if it is strictly better. -/
def keep (best : Option Resolution) (r : Resolution) : Option Resolution :=
  match best with
  | none => some r
  | some b => if r.better b then some r else some b

def choose (next : Nat) (args : List Payload) : Nat → Option Resolution → List Signature →
    Option Resolution
  | _, best, [] => best
  | i, best, s :: rest =>
    match s.bind next args with
    | .ok b =>
      choose next args (i + 1) (keep best ⟨i, s, b, s.parameters.length - args.length⟩) rest
    | .error _ => choose next args (i + 1) best rest

def kindList (args : List Payload) : String :=
  "(" ++ ", ".intercalate (args.map Payload.kindName) ++ ")"

def resolve (next : Nat) (candidates : List Signature) (args : List Payload) (callee : String) :
    Except Failure Resolution :=
  match choose next args 0 none candidates with
  | some r => .ok r
  | none =>
    if candidates.any (·.acceptsArity args.length) then
      .error (.invalidArgumentType callee (kindList args))
    else .error (.invalidArgumentCount callee args.length)

end Overload

end LateBound
