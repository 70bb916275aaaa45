import LateBound.Proofs.BuiltinCall
import LateBound.Proofs.TypedWrite
/-! Calls of the methods of a dictionary. All their parameters take anything, so a call without an
error among its arguments runs the method on their payloads. -/
namespace LateBound

namespace DictMethod

def signature : DictMethod → Signature
  | .containsKey =>
    BuiltinKind.instanceMethod "contains_key" [{ name := "key", type := .any }]
      .bool (.dict .containsKey)
  | .remove =>
    BuiltinKind.instanceMethod "remove" [{ name := "key", type := .any }] .bool (.dict .remove)
  | .get =>
    BuiltinKind.instanceMethod "get"
      [{ name := "key", type := .any }, { name := "fallback", type := .any, default := some .null }]
      .any (.dict .get)
  | .clear => BuiltinKind.instanceMethod "clear" [] .void (.dict .clear)

theorem signature_mem (m : DictMethod) : m.signature ∈ BuiltinKind.dictMethods := by
  cases m <;> simp [signature, BuiltinKind.dictMethods]

theorem body_signature (m : DictMethod) : m.signature.body = .builtin (.dict m) := by
  cases m <;> rfl

theorem type_eq_any (m : DictMethod) : ∀ p ∈ m.signature.parameters, p.type = .any := by
  cases m <;> simp [signature, BuiltinKind.instanceMethod]

end DictMethod

namespace World

variable {w : World}

def afterDictMethod (s : Signature) (w : World) : Computed → Value × World
  | .ok (p, w) => if s.returnsVoid then (.void, w) else w.box p
  | .error m => (.error (.unknown s!"{s.name}: {m}"), w)

theorem callNamed_dictMethod (d : DictRef) (m : DictMethod) {args : List Value}
    (ha : m.signature.acceptsArity args.length = true)
    (hv : firstError? args = none) (depth : Nat) :
    callNamed (depth + 1) w (.dict d) m.signature.name args =
      let (ps, n) := Value.payloads w.next args
      let w' := { w with next := n }
      some (afterDictMethod m.signature w'
        (m.run d (ps ++ (m.signature.parameters.drop args.length).map (·.default.getD .null))
          w')) := by
  have hcount := Value.length_payloads w.next args
  have hbind := Signature.bind_any m.type_eq_any (by rw [hcount]; exact ha)
    (Value.payloads_ne_boxed w.next args)
    (Value.payloads w.next args).2
  rw [hcount] at hbind
  refine (callNamed_method rfl m.signature_mem m.body_signature hv hbind depth).trans ?_
  simp only [BuiltinMethod.run]
  cases m.run d _ _ with
  | ok r => rfl
  | error e => rfl

theorem callNamed_containsKey (w : World) (d : DictRef) {v : Value} (hv : v.isError = false)
    (depth : Nat) :
    callNamed (depth + 1) w (.dict d) "contains_key" [v] =
      let w' := { w with next := (v.payload w.next).2 }
      some (.bool (d.find? w' (v.payload w.next).1).isSome, w') :=
  callNamed_dictMethod d .containsKey rfl (by simp [firstError?, hv]) depth

theorem callNamed_remove (w : World) (d : DictRef) {v : Value} (hv : v.isError = false)
    (depth : Nat) :
    callNamed (depth + 1) w (.dict d) "remove" [v] =
      let w' := { w with next := (v.payload w.next).2 }
      match (d.key? w'.next (v.payload w.next).1).bind fun k => w'.removeEntry? d k.1 with
      | some (_, w'') => some (.bool true, w'')
      | none => some (.bool false, w') := by
  have hrun (p : Payload) (w' : World) : DictMethod.remove.run d [p] w' =
      match (d.key? w'.next p).bind fun k => w'.removeEntry? d k.1 with
      | some (_, w'') => .ok (.bool true, w'')
      | none => .ok (.bool false, w') := rfl
  refine (callNamed_dictMethod d .remove rfl (by simp [firstError?, hv]) depth).trans ?_
  simp only [DictMethod.signature, Value.payloads, List.length_singleton,
    BuiltinKind.instanceMethod, List.drop_one,
    List.tail_cons, List.map_nil, List.append_nil, hrun]
  split <;> rfl

theorem callNamed_get (w : World) (d : DictRef) {v : Value} {others : List Value}
    (hv : firstError? (v :: others) = none) (ho : others.length ≤ 1) (depth : Nat) :
    callNamed (depth + 1) w (.dict d) "get" (v :: others) =
      let (p, n) := v.payload w.next
      let (qs, n) := Value.payloads n others
      let w' := { w with next := n }
      some (w'.box ((d.find? w' p).getD (qs.headD .null))) := by
  have ha : DictMethod.get.signature.acceptsArity (v :: others).length = true := by
    rw [List.length_cons]
    simpa [DictMethod.signature, Signature.acceptsArity, Signature.minArity,
      BuiltinKind.instanceMethod] using ho
  refine (callNamed_dictMethod d .get ha hv depth).trans ?_
  cases others with
  | nil => rfl
  | cons u rest =>
    obtain rfl : rest = [] := List.eq_nil_of_length_eq_zero (by simpa using ho)
    rfl

end World

end LateBound
