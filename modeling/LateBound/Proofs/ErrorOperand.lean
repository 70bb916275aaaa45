import LateBound.Proofs.Invocation
/-! Errors among the operands of an operation. The first of them is the result, except that a target
without the protocol and a symbol that names no operator are reported before the other operands are
looked at. Nothing runs and the world stays as it was. -/
namespace LateBound

namespace World

theorem firstError?_cons_of_not_error {v : Value} (h : v.isError = false) (vs : List Value) :
    firstError? (v :: vs) = firstError? vs := by
  simp [firstError?, h]

theorem firstError?_cons {v e : Value} {vs : List Value} (h : firstError? (v :: vs) = some e) :
    (v = e ∧ ∃ f, e = .error f) ∨ (v.isError = false ∧ firstError? vs = some e) := by
  cases hv : v.isError with
  | true =>
    obtain ⟨f, rfl⟩ := Value.isError_iff.1 hv
    obtain rfl : Value.error f = e := Option.some.inj h
    exact .inl ⟨rfl, f, rfl⟩
  | false => exact .inr ⟨rfl, by rwa [firstError?_cons_of_not_error hv] at h⟩

theorem firstError?_single {v e : Value} (h : firstError? [v] = some e) :
    v = e ∧ ∃ f, e = .error f := by
  rcases firstError?_cons h with h | ⟨_, h⟩
  · exact h
  · contradiction

theorem getAt_error_index (w : World) (target : Value) (f : Failure) (ht : target.isError = false) :
    w.getAt target (.error f) =
      (if .indexable ∈ target.capabilities then .error f else .error
        (.notIndexable target.typeName), w) := by
  cases target with
  | error e => contradiction
  | _ => rfl

theorem setAt_error_value (w : World) (target index : Value) (f : Failure) :
    w.setAt target index (.error f) = (false, w) := by
  cases target with
  | dict d => simp [setAt, setEntry?, Value.isError]
  | _ => rfl

theorem setAt_error_index (w : World) (target v : Value) (f : Failure) :
    w.setAt target (.error f) v = (false, w) := by
  cases target with
  | list l =>
    have hi : w.setListItem? l (.error f) v = none := by
      unfold setListItem?
      split <;> rfl
    simp [setAt, hi]
  | _ => rfl

theorem setNamed_error_value (call : Caller) (w : World) (target : Value)
    (name : String) (f : Failure) :
    w.setNamed call target name (.error f) = some (false, w) := by
  unfold setNamed
  cases target.memberType? with
  | none => rfl
  | some t => simp [setMember, Value.isError]

theorem start_error_argument (w : World) {target e : Value} {args : List Value}
    (ht : target.isError = false) (h : firstError? args = some e) :
    w.start target args = .answer (if .invocable ∈ target.capabilities then e
      else .error (.notInvocable target.typeName)) w := by
  have ho (candidates : List Signature) (receiver : Option Value) (callee : String) :
      w.startOverloads candidates receiver args callee = .answer e w := by
    simp [startOverloads, h]
  have hc (t : TypeRef) : w.startConstruct t args = .answer e w := by
    simp [startConstruct, h]
  cases target with
  | error e => contradiction
  | type t => exact hc t
  | method g => exact ho _ _ _
  | function f => exact ho _ _ _
  | _ => rfl

theorem invoke_of_answer {w w' : World} {target v : Value} {args : List Value}
    (h : w.start target args = .answer v w') (depth : Nat) :
    invoke (depth + 1) target args w = some (v, w') := by
  rw [invoke_succ, h, Start.run]

end World

theorem Operator.evaluate_error_left (op : Operator) (f : Failure) (right : Value) :
    op.evaluate (.error f) right = .error f := rfl

theorem Operator.evaluate_error_right (op : Operator) {left : Value} (hl : left.isError = false)
    (f : Failure) : op.evaluate left (.error f) = .error f := by
  cases left with
  | error e => contradiction
  | _ => rfl

theorem Environment.binary_of_error {left right e : Value} (symbol : String)
    (h : World.firstError? [left, right] = some e) :
    binary symbol left right =
      if (Operator.ofSymbol? symbol).isSome then e else .error (.unknownOperator symbol) := by
  unfold binary Operator.evaluateSymbol
  cases Operator.ofSymbol? symbol with
  | none => rfl
  | some op =>
    rcases World.firstError?_cons h with ⟨rfl, f, rfl⟩ | ⟨hl, h⟩
    · exact op.evaluate_error_left f right
    · obtain ⟨rfl, f, rfl⟩ := World.firstError?_single h
      exact op.evaluate_error_right hl f

open World in
/-- What every operation does with errors among its operands: a read gives the first of them unless
the target or the operator is at fault, a write is refused, nothing runs, the world stays. -/
theorem error_operand_outcome (w : World) (target index value left right e : Value)
    (args : List Value) (name symbol : String) :
    (firstError? [target] = some e → ∀ call, w.getNamed call target name = some (e, w)) ∧
    (firstError? [target, index] = some e →
      w.getAt target index = (if target.isError ∨ .indexable ∈ target.capabilities then e
        else .error (.notIndexable target.typeName), w)) ∧
    (firstError? (target :: args) = some e →
      ∃ v, v = (if target.isError ∨ .invocable ∈ target.capabilities then e
          else .error (.notInvocable target.typeName)) ∧
        w.start target args = .answer v w ∧
        ∀ depth, invoke (depth + 1) target args w = some (v, w)) ∧
    (firstError? [left, right] = some e →
      Environment.binary symbol left right =
        if (Operator.ofSymbol? symbol).isSome then e else .error (.unknownOperator symbol)) ∧
    (firstError? [target, value] = some e →
      ∀ call, w.setNamed call target name value = some (false, w)) ∧
    (firstError? [target, index, value] = some e → w.setAt target index value = (false, w)) := by
  refine ⟨?_, ?_, ?_, Environment.binary_of_error symbol, ?_, ?_⟩
  · intro h
    obtain ⟨rfl, f, rfl⟩ := firstError?_single h
    exact fun call => rfl
  · intro h
    rcases firstError?_cons h with ⟨rfl, f, rfl⟩ | ⟨ht, h⟩
    · rfl
    · obtain ⟨rfl, f, rfl⟩ := firstError?_single h
      simp [w.getAt_error_index target f ht, ht]
  · intro h
    refine ⟨_, rfl, ?_⟩
    have hs : w.start target args = .answer (if target.isError ∨ .invocable ∈ target.capabilities
        then e else .error (.notInvocable target.typeName)) w := by
      rcases firstError?_cons h with ⟨rfl, f, rfl⟩ | ⟨ht, h⟩
      · rfl
      · simp [w.start_error_argument ht h, ht]
    exact ⟨hs, invoke_of_answer hs⟩
  · intro h
    rcases firstError?_cons h with ⟨rfl, f, rfl⟩ | ⟨_, h⟩
    · exact fun call => rfl
    · obtain ⟨rfl, f, rfl⟩ := firstError?_single h
      exact fun call => w.setNamed_error_value call target name f
  · intro h
    rcases firstError?_cons h with ⟨rfl, f, rfl⟩ | ⟨_, h⟩
    · rfl
    · rcases firstError?_cons h with ⟨rfl, f, rfl⟩ | ⟨_, h⟩
      · exact w.setAt_error_index target value f
      · obtain ⟨rfl, f, rfl⟩ := firstError?_single h
        exact w.setAt_error_value target index f

open World in
/-- On a target and an operator that are not at fault, the first of the errors comes back. -/
theorem error_operand_outcome_first (w : World) :
    let e : Value := .error .divideByZero
    let l : Value := .list ⟨0, .any⟩
    let f : Value := .function (.declared 0)
    w.getNamed (evaluator 0) e "count" = some (e, w) ∧ w.getAt l e = (e, w) ∧
      invoke 1 f [.int 1, e, l] w = some (e, w) ∧ Environment.binary "+" (.int 1) e = e ∧
      w.setNamed (evaluator 0) l "count" e = some (false, w) ∧
        w.setAt l (.int 0) e = (false, w) := by
  intro e l f
  obtain ⟨hm, -⟩ := error_operand_outcome w e l l l l e [] "count" "+"
  obtain ⟨-, hi, -, hb, hs, -⟩ := error_operand_outcome w l e e (.int 1) e e [] "count" "+"
  obtain ⟨-, -, hv, -⟩ := error_operand_outcome w f l l l l e [.int 1, e, l] "count" "+"
  obtain ⟨-, -, -, -, -, hw⟩ := error_operand_outcome w l (.int 0) e l l e [] "count" "+"
  obtain ⟨v, rfl, -, hv⟩ := hv rfl
  refine ⟨hm rfl _, ?_, ?_, hb rfl, hs rfl _, hw rfl⟩
  · simpa [l, e, Value.capabilities] using hi rfl
  · simpa [f, Value.capabilities] using hv 0

/-- An operator that does not exist, a target that has no positions and one that cannot be invoked
are reported in place of an error among the operands. -/
theorem error_operand_hidden :
    Environment.binary "**" (.error .divideByZero) (.int 1) ≠ .error .divideByZero ∧
      ((default : World).getAt (.int 1) (.error .divideByZero)).1 ≠ .error .divideByZero ∧
      (World.invoke 1 (.int 1) [.error .divideByZero] default).map (·.1) ≠
        some (.error .divideByZero) := by
  refine ⟨?_, ?_, ?_⟩ <;> decide

end LateBound
