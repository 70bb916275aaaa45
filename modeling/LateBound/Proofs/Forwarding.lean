import LateBound.Proofs.Dispatch
/-! A method group that crosses to the host becomes a function, and one that is invoked there
forwards its arguments to the group. What comes back is what the group itself would have given:
arguments that are unboxed, boxed and unboxed again are the payloads they were, so the same overload
is chosen for them. -/
namespace LateBound

namespace Value

theorem ofPayload_payload (n k : Nat) (v : Value) : ∃ u, ofPayload k (v.payload n).1 = (u, k) ∧
    u.isError = false ∧ ∀ m, u.payload m = ((v.payload n).1, m) := by
  cases v with
  | number x => cases x <;> exact ⟨_, rfl, rfl, fun _ => rfl⟩
  | _ => exact ⟨_, rfl, rfl, fun _ => rfl⟩

theorem ofPayloads_payloads (n k : Nat) (vs : List Value) :
    ∃ us, ofPayloads k (payloads n vs).1 = (us, k) ∧
    World.firstError? us = none ∧ ∀ m, payloads m us = ((payloads n vs).1, m) := by
  induction vs generalizing n with
  | nil => exact ⟨[], rfl, rfl, fun _ => rfl⟩
  | cons v vs ih =>
    obtain ⟨u, hu, hne, hback⟩ := ofPayload_payload n k v
    obtain ⟨us, hus, hnone, hbacks⟩ := ih (v.payload n).2
    refine ⟨u :: us, ?_, ?_, fun m => ?_⟩
    · simp only [payloads, ofPayloads, hu, hus]
    · rw [World.firstError?_cons_of_not_error hne, hnone]
    · simp only [payloads, hback, hbacks]

end Value

namespace World

def data (w : World) : World := { w with next := 0 }

variable {w : World} {g : MethodGroup} {args : List Value}

theorem passOn_spec (w : World) (args : List Value) :
    (w.passOn args).2 = { w with next := (Value.payloads w.next args).2 } ∧
      firstError? (w.passOn args).1 = none ∧
        Value.payloads (w.passOn args).2.next (w.passOn args).1 = Value.payloads w.next args := by
  obtain ⟨us, hus, hnone, hback⟩ :=
    Value.ofPayloads_payloads w.next (Value.payloads w.next args).2 args
  have hpassed : w.passOn args = (us, { w with next := (Value.payloads w.next args).2 }) := by
    simp only [passOn, boxAll, hus]
  rw [hpassed]
  exact ⟨rfl, hnone, hback _⟩

/-- The group makes the same choice for the arguments passed on as for those that came in. -/
theorem choice?_passOn (w : World) (g : MethodGroup) (args : List Value) :
    (w.passOn args).2.choice? (.method g) (w.passOn args).1 = w.choice? (.method g) args := by
  obtain ⟨hw, -, hpayloads⟩ := w.passOn_spec args
  simp only [choice?, fallback?, hpayloads]
  rw [hw]
  rfl

/-- What the group starts for the arguments passed on is what it starts for those that came in. A
choice that cannot be made fails alike, but after the numbers that passing on took. -/
theorem start_passOn (w : World) (g : MethodGroup) (he : firstError? args = none) :
    (w.passOn args).2.start (.method g) (w.passOn args).1 = w.start (.method g) args ∨
      w.choice? (.method g) args = none ∧ ∃ e, w.start (.method g) args = .answer (.error e) w ∧
        (w.passOn args).2.start (.method g) (w.passOn args).1 =
          .answer (.error e) (w.passOn args).2 := by
  obtain ⟨hw, hnone, hpayloads⟩ := w.passOn_spec args
  have hgroup : (w.passOn args).2.overloads g = w.overloads g := by rw [hw]; rfl
  cases hr : Overload.resolve (Value.payloads w.next args).2 (w.overloads g)
    (Value.payloads w.next args).1
      g.qualifiedName with
  | error e =>
    have hpassed : Overload.resolve (Value.payloads (w.passOn args).2.next (w.passOn args).1).2
        ((w.passOn args).2.overloads g) (Value.payloads (w.passOn args).2.next (w.passOn args).1).1
          g.qualifiedName = .error e := by rw [hpayloads, hgroup, hr]
    refine .inr ⟨?_, e, startOverloads_of_error he hr, startOverloads_of_error hnone hpassed⟩
    simp [choice?, candidates, calleeName, fallback?, hr]
  | ok r =>
    have hpassed : Overload.resolve (Value.payloads (w.passOn args).2.next (w.passOn args).1).2
        ((w.passOn args).2.overloads g) (Value.payloads (w.passOn args).2.next (w.passOn args).1).1
          g.qualifiedName = .ok r := by rw [hpayloads, hgroup, hr]
    refine .inl ((startOverloads_of_ok hnone hpassed).trans ?_)
    rw [hw]
    exact (startOverloads_of_ok he hr).symm

theorem invoke_congr {w w' : World} {target target' : Value} {args args' : List Value}
    (h : w'.start target' args' = w.start target args) (depth : Nat) :
    invoke (depth + 1) target' args' w' = invoke (depth + 1) target args w := by
  rw [invoke_succ, invoke_succ, h]

/-- A forwarding function either gives exactly what its group gives, or the group has no overload
for the arguments and both fail alike. -/
theorem invoke_forwarding_cases (w : World) (id : Nat) (g : MethodGroup)
    (args : List Value) (depth : Nat) :
    invoke (depth + 2) (.function (.forwarding id g)) args w =
      invoke (depth + 1) (.method g) args w ∨
      w.choice? (.method g) args = none ∧
      ∃ e n, invoke (depth + 1) (.method g) args w = some (.error e, w) ∧
        invoke (depth + 2) (.function (.forwarding id g)) args w =
          some (.error e, { w with next := n }) := by
  cases he : firstError? args with
  | some e =>
    have hfunction : w.start (.function (.forwarding id g)) args = .answer e w :=
      start_error_argument w rfl he
    have hgroup : w.start (.method g) args = .answer e w := start_error_argument w rfl he
    exact .inl ((invoke_of_answer hfunction (depth + 1)).trans (invoke_of_answer hgroup depth).symm)
  | none =>
    have hpass : invoke (depth + 2) (.function (.forwarding id g)) args w =
        invoke (depth + 1) (.method g) (w.passOn args).1 (w.passOn args).2 :=
      invokeWith_forwarding (evaluator (depth + 1)) w id g he
    rcases w.start_passOn g he with hs | ⟨hnone, e, hs, hs'⟩
    · exact .inl (hpass.trans (invoke_congr hs depth))
    · right
      refine ⟨hnone, e, (Value.payloads w.next args).2, invoke_of_answer hs depth, ?_⟩
      rw [hpass, invoke_of_answer hs' depth, (w.passOn_spec args).1]

end World

open World in
/-- A method group is unboxed to a function, and invoking that function is invoking the group. The
same overload is chosen; when one is, everything is the same, and when none is, the same failure
comes back and nothing has changed but which numbers are still unused. -/
theorem invoke_forwarding (w : World) (id : Nat) (g : MethodGroup)
    (args : List Value) (depth : Nat) :
    (Value.method g).payload id = (.callable (.forwarding id g), id + 1) ∧
    (w.passOn args).2.choice? (.method g) (w.passOn args).1 = w.choice? (.method g) args ∧
    ((w.choice? (.method g) args).isSome = true →
      invoke (depth + 2) (.function (.forwarding id g)) args w =
        invoke (depth + 1) (.method g) args w) ∧
    (invoke (depth + 2) (.function (.forwarding id g)) args w).map (fun r => (r.1, r.2.data)) =
      (invoke (depth + 1) (.method g) args w).map fun r => (r.1, r.2.data) := by
  have hcases := w.invoke_forwarding_cases id g args depth
  refine ⟨rfl, w.choice?_passOn g args, fun hc => ?_, ?_⟩
  · rcases hcases with h | ⟨hnone, -⟩
    · exact h
    · simp [hnone] at hc
  · rcases hcases with h | ⟨-, e, n, hgroup, hfunction⟩
    · rw [h]
    · rw [hgroup, hfunction]
      rfl

open World in
/-- A method that notes down what it is given and gives nothing back, handed itself through
a function. -/
theorem invoke_forwarding_void :
    let code : List Payload → Program :=
      fun ps => .ask (.writeSlot "last" (ps.headD .null)) fun _ => .done .null
    let s : Signature :=
      { name := "note", parameters := [{ name := "item", type := .any }], returns := .void
        body := .method "Node" code }
    let r : Registration := { name := "Node", methods := [s] }
    let o : ObjectRef := ⟨1, ⟨.declared 0, "Node"⟩⟩
    let w : World := { next := 2, catalogs := OrderedMap.insert ∅ 0 (r.freeze (.declared 0)) }
    let g : MethodGroup := .bound (.object o) o.type "note" [0]
    ∃ w', invoke 2 (.function (.forwarding 9 g)) [.method g] w = some (.void, w') ∧
      invoke 1 (.method g) [.method g] w = some (.void, w') ∧
      w'.slot o "last" .null = .callable (.forwarding 2 g) := by
  intro code s r o w g
  obtain ⟨-, -, hsame, -⟩ := invoke_forwarding w 9 g [.method g] 0
  obtain ⟨w', hw, hslot⟩ : ∃ w', invoke 1 (.method g) [.method g] w = some (.void, w') ∧
      w'.slot o "last" .null = .callable (.forwarding 2 g) := ⟨_, rfl, rfl⟩
  exact ⟨w', (hsame rfl).trans hw, hw, hslot⟩

end LateBound
