import LateBound.Proofs.Forwarding
/-! Boxing and unboxing undo each other, except at void, errors and method groups, which the host
has no payload for, and at characters and boxed values, which are no payload of a value. So host
code can hand back what it was given. -/
namespace LateBound

namespace Value

/-- The host has a payload of its own for the value. -/
def crosses : Value → Bool
  | .void | .error _ | .method _ => false
  | _ => true

end Value

namespace Payload

/-- The payload is that of some value. -/
def crosses : Payload → Bool
  | .char _ | .boxed _ => false
  | _ => true

theorem payload_ofPayload_iff (next : Nat) (p : Payload) :
    (Value.ofPayload next p).1.payload (Value.ofPayload next p).2 = (p, next) ↔
      p.crosses = true := by
  cases p with
  | char c => simp [Value.ofPayload, Value.payload, crosses]
  | boxed v =>
    have hne : v.payload next ≠ (.boxed v, next) := fun h =>
      v.payload_ne_boxed next v (congrArg Prod.fst h)
    simpa [Value.ofPayload, crosses] using hne
  | _ => exact iff_of_true rfl rfl

theorem ofPayload_next_of_crosses {p : Payload} (h : p.crosses = true) (next : Nat) :
    (Value.ofPayload next p).2 = next := by
  cases p with
  | char c => contradiction
  | boxed v => contradiction
  | _ => rfl

end Payload

namespace Value

theorem crosses_payload (next : Nat) (v : Value) : (v.payload next).1.crosses = true := by
  cases v with
  | number n => cases n <;> rfl
  | _ => rfl

theorem ofPayload_payload_iff (next : Nat) (v : Value) :
    ofPayload (v.payload next).2 (v.payload next).1 = (v, next) ↔ v.crosses = true := by
  cases v with
  | number n => cases n <;> exact iff_of_true rfl rfl
  | void => simp [payload, ofPayload, crosses]
  | error e => simp [payload, ofPayload, crosses]
  | method g => simp [payload, ofPayload, crosses]
  | _ => exact iff_of_true rfl rfl

theorem isError_of_crosses {v : Value} (h : v.crosses = true) : v.isError = false := by
  cases v with
  | error e => contradiction
  | _ => rfl

end Value

/-- The signature takes one argument of any kind and gives it back. -/
structure Signature.IsIdentity (s : Signature) : Prop where
  parameters_eq : ∃ p, s.parameters = [p] ∧ p.type = .any
  returns_eq : s.returns = .any
  run_body (call : Caller) (p : Payload) (w : World) : s.body.run call none [p] w = some (.ok p, w)

namespace Signature.IsIdentity

variable {s : Signature}

theorem type_eq_any (h : s.IsIdentity) : ∀ p ∈ s.parameters, p.type = .any := by
  obtain ⟨p, hp, ht⟩ := h.parameters_eq
  rw [hp]
  simpa using ht

theorem acceptsArity_one (h : s.IsIdentity) : s.acceptsArity 1 = true := by
  obtain ⟨p, hp, -⟩ := h.parameters_eq
  have hmin := s.minArity_le
  simp_all [acceptsArity]

theorem bind_eq (h : s.IsIdentity) {p : Payload} (hp : ∀ u, p ≠ .boxed u) (next : Nat) :
    s.bind next [p] = .ok ⟨[p], Conversion.wideningCost, next⟩ := by
  obtain ⟨q, hq, -⟩ := h.parameters_eq
  have hargs : ∀ a ∈ [p], ∀ u, a ≠ .boxed u := by simpa using hp
  have harity : s.acceptsArity [p].length = true := h.acceptsArity_one
  have hbind := Signature.bind_any h.type_eq_any harity hargs next
  rw [hbind, hq]
  rfl

end Signature.IsIdentity

namespace World

theorem with_next_eq_iff {w : World} {n : Nat} : { w with next := n } = w ↔ n = w.next :=
  ⟨fun h => congrArg World.next h, fun h => by rw [h]⟩

theorem box_unbox_iff (w : World) (v : Value) :
    (w.unbox v).2.box (w.unbox v).1 = (v, w) ↔ v.crosses = true := by
  have hboxed : (w.unbox v).2.box (w.unbox v).1 =
      ((Value.ofPayload (v.payload w.next).2 (v.payload w.next).1).1,
        { w with next := (Value.ofPayload (v.payload w.next).2 (v.payload w.next).1).2 }) := rfl
  rw [hboxed, Prod.mk.injEq, with_next_eq_iff, ← Prod.mk_inj, Prod.mk.eta, v.ofPayload_payload_iff]

theorem unbox_box_iff (w : World) (p : Payload) :
    (w.box p).2.unbox (w.box p).1 = (p, w) ↔ p.crosses = true := by
  have hunboxed : (w.box p).2.unbox (w.box p).1 =
      (((Value.ofPayload w.next p).1.payload (Value.ofPayload w.next p).2).1,
        { w with next := ((Value.ofPayload w.next p).1.payload (Value.ofPayload w.next p).2).2 }) :=
          rfl
  rw [hunboxed, Prod.mk.injEq, with_next_eq_iff, ← Prod.mk_inj, Prod.mk.eta,
    p.payload_ofPayload_iff]

theorem unbox_of_box {w w' : World} {p : Payload} {v : Value} (hp : p.crosses = true)
    (h : w.box p = (v, w')) :
    w' = w ∧ w.unbox v = (p, w) ∧ v.crosses = true := by
  have hw : (w.box p).2 = w := with_next_eq_iff.2 (Payload.ofPayload_next_of_crosses hp w.next)
  have hback := (w.unbox_box_iff p).2 hp
  rw [h] at hw hback
  dsimp only at hw hback
  subst hw
  exact ⟨rfl, hback, (box_unbox_iff _ v).1 (by rw [hback, h])⟩

theorem invoke_identity {w : World} {f : Callable} (hf : (w.signature f).IsIdentity) {v : Value}
    (hv : v.crosses = true) (depth : Nat) :
    invoke (depth + 1) (.function f) [v] w = some (v, w) := by
  have hargs : firstError? [v] = none := by simp [firstError?, Value.isError_of_crosses hv]
  have hbind := hf.bind_eq (v.payload_ne_boxed w.next) (v.payload w.next).2
  have hres := Overload.resolve_of_bind hbind (w.signature f).name
  have hstart : w.start (.function f) [v] = .body (w.signature f) none
    [(v.payload w.next).1] (w.unbox v).2 := by
    rw [start, startOverloads_of_ok hargs hres, Signature.start_none]
    rfl
  have hvoid : (w.signature f).returnsVoid = false := by simp [Signature.returnsVoid, hf.returns_eq]
  calc invoke (depth + 1) (.function f) [v] w
    _ = (w.start (.function f) [v]).run (evaluator depth) := w.invoke_succ depth _ _
    _ = some ((w.unbox v).2.box (w.unbox v).1) := by
      rw [hstart]
      simp only [Start.run, enter, hf.run_body, Option.map_some]
      simp only [Signature.finish, hvoid]
      rfl
    _ = some (v, w) := by rw [(w.box_unbox_iff v).2 hv]

end World

open World in
/-- Boxing what a value was unboxed to gives the value back exactly when it crosses, and unboxing
what a payload was boxed to gives the payload back exactly when it crosses; neither changes the
world then. What is unboxed always crosses. A function that is an identity gives back a value that
crosses, and changes nothing. -/
theorem boxing_inverse (w : World) :
    (∀ v, (w.unbox v).2.box (w.unbox v).1 = (v, w) ↔ v.crosses = true) ∧
    (∀ p, (w.box p).2.unbox (w.box p).1 = (p, w) ↔ p.crosses = true) ∧
    (∀ v, (w.unbox v).1.crosses = true) ∧
    ∀ f v depth, (w.signature f).IsIdentity → v.crosses = true →
      invoke (depth + 1) (.function f) [v] w = some (v, w) :=
  ⟨w.box_unbox_iff, w.unbox_box_iff, fun v => v.crosses_payload w.next,
    fun _ _ depth hf hv => invoke_identity hf hv depth⟩

open World in
/-- A list and a float without a fraction, given to a function that hands back its argument. -/
theorem boxing_inverse_identity :
    let code : List Payload → Program := fun ps => .done (ps.headD .null)
    let s : Signature :=
      { name := "same", parameters := [{ name := "item", type := .any }], returns := .any,
        isStatic := true
        body := .free code }
    let made := newFunction s default
    let l : Value := .list ⟨7, .int⟩
    (made.2.signature made.1).IsIdentity ∧
      invoke 1 (.function made.1) [l] made.2 = some (l, made.2) ∧
      invoke 1 (.function made.1) [.float 2.0] made.2 = some (.float 2.0, made.2) := by
  intro code s made l
  have hidentity : (made.2.signature made.1).IsIdentity := ⟨⟨_, rfl, rfl⟩, rfl, fun _ _ _ => rfl⟩
  obtain ⟨-, -, -, hsame⟩ := boxing_inverse made.2
  exact ⟨hidentity, hsame made.1 l 0 hidentity rfl, hsame made.1 (.float 2.0) 0 hidentity rfl⟩

end LateBound
