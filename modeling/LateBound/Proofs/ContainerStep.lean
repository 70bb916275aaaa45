import LateBound.Environment
import LateBound.Proofs.BuiltinCall
import LateBound.Proofs.TypedWrite
/-! One operation on a list or a dictionary, and all that it can change: numbers join those in use,
before and after at most one write of what inhabits the declared types. -/
namespace LateBound

namespace Value

def IsContainer : Value → Prop
  | .list _ | .dict _ => True
  | _ => False

theorem IsContainer.builtinKind? {target : Value} (h : target.IsContainer) :
    ∃ kind, target.builtinKind? = some kind := by
  cases target with
  | list l => exact ⟨.list, rfl⟩
  | dict d => exact ⟨.dict, rfl⟩
  | _ => exact absurd h id

def TypedWrite : Value → World → World → Prop
  | .list l, w, w' => l.TypedWrite w w'
  | .dict d, w, w' => d.TypedWrite w w'
  | _, _, _ => False

/-- One operation on a value. A method may have been read from it at any earlier time. -/
inductive Step (target : Value) (w : World) : World → Prop
  | getAt (index : Value) : Step target w (w.getAt target index).2
  | setAt (index v : Value) : Step target w (w.setAt target index v).2
  | get {call : Caller} {name : String} {v : Value} {w' : World}
      (h : w.getNamed call target name = some (v, w')) : Step target w w'
  | call {call : Caller} {w₀ w₁ w' : World} {name : String} {g : MethodGroup} {depth : Nat}
      {args : List Value} {v : Value} (hg : w₀.getNamed call target name = some (.method g, w₁))
      (hv : World.invoke depth (.method g) args w = some (v, w')) : Step target w w'

end Value

namespace World

variable {w w' : World} {target : Value}

theorem extends_getAt (ht : target.IsContainer) (index : Value) :
    w.Extends (w.getAt target index).2 := by
  cases target with
  | list l =>
    show w.Extends (w.getListItem l index).2
    unfold getListItem
    split
    · exact .refl w
    · split
      · exact w.extends_box _
      · exact .refl w
  | dict d =>
    show w.Extends (w.getEntry d index).2
    unfold getEntry
    dsimp only
    split
    · exact .refl w
    · split
      · exact w.extends_box _
      · exact .refl w
  | _ => exact absurd ht id

theorem setAt_typed (ht : target.IsContainer) (index v : Value) :
    (w.setAt target index v).2 = w ∨ target.TypedWrite w (w.setAt target index v).2 := by
  unfold setAt
  cases target with
  | list l =>
    dsimp only
    cases hw : w.setListItem? l index v with
    | none => exact .inl rfl
    | some w' => exact .inr (setListItem?_typed hw)
  | dict d =>
    dsimp only
    cases hw : w.setEntry? d index v with
    | none => exact .inl rfl
    | some w' => exact .inr (setEntry?_typed hw)
  | _ => exact absurd ht id

theorem extends_getNamed {kind : BuiltinKind} (hk : target.builtinKind? = some kind) {call : Caller}
    {name : String} {v : Value} (h : w.getNamed call target name = some (v, w')) :
    w.Extends w' := by
  rcases getNamed_builtin hk w name with ⟨p, q, w₁, hp, he⟩ | ⟨e, he⟩ | ⟨is, he⟩ <;> rw [he] at h
  · obtain ⟨rfl, rfl⟩ := Prod.mk.inj (Option.some.inj h)
    rcases BuiltinProperty.read_cases hp with ⟨rfl, -⟩ | ⟨d, -, l, -, hl | hl⟩
    · exact w₁.extends_box q
    · obtain ⟨-, rfl⟩ := Prod.mk.inj hl
      exact (w.extends_newList _ _).trans (extends_box _ q)
    · obtain ⟨-, rfl⟩ := Prod.mk.inj hl
      exact (w.extends_newList _ _).trans (extends_box _ q)
  · obtain ⟨-, rfl⟩ := Prod.mk.inj (Option.some.inj h)
    exact .refl w
  · obtain ⟨-, rfl⟩ := Prod.mk.inj (Option.some.inj h)
    exact .refl w

end World

theorem BuiltinMethod.run_typed {m : BuiltinMethod} {target : Value} (ht : target.IsContainer)
    {args : List Payload} {p : Payload} {w w' : World}
    (h : m.run (some target) args w = .ok (p, w')) : w' = w ∨ target.TypedWrite w w' := by
  cases target with
  | list l =>
    cases m with
    | list m => exact ListMethod.run_typed h
    | _ => contradiction
  | dict d =>
    cases m with
    | dict m => exact DictMethod.run_typed h
    | _ => contradiction
  | _ => exact absurd ht id

/-- What a step on a container does. -/
theorem Value.Step.effect {target : Value} {w w' : World} (h : target.Step w w')
    (ht : target.IsContainer) :
    ∃ w₁ w₂, w.Extends w₁ ∧ (w₂ = w₁ ∨ target.TypedWrite w₁ w₂) ∧ w₂.Extends w' := by
  obtain ⟨kind, hk⟩ := ht.builtinKind?
  cases h with
  | getAt index => exact ⟨w, w, .refl w, .inl rfl, World.extends_getAt ht index⟩
  | setAt index v => exact ⟨w, _, .refl w, World.setAt_typed ht index v, .refl _⟩
  | get h => exact ⟨w, w, .refl w, .inl rfl, World.extends_getNamed hk h⟩
  | call hg hv =>
    obtain ⟨is, rfl⟩ := World.eq_bound_of_getNamed hk hg
    rcases World.invoke_builtin (Value.object?_of_builtinKind hk) hv with
      ⟨-, hw⟩ | ⟨m, ps, n, p, w₂, hn, hm, hw, -⟩
    · exact ⟨w, w, .refl w, .inl rfl, hw⟩
    · exact ⟨_, w₂, World.extends_advance hn, BuiltinMethod.run_typed ht hm, hw⟩

end LateBound
