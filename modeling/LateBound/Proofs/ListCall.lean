import LateBound.Proofs.BuiltinCall
/-! Calls of the methods of a list. A call is refused with an error when an argument is one, or when
the arguments do not bind; else the method runs on the arguments bound, with the index as the
integer that it converts to. -/
namespace LateBound

namespace Conversion

def integer? (c : Conversion) : Option Int := c.payload.int?.map Int64.toInt

theorem blind_integer : Blind integer? :=
  ⟨fun _ _ _ _ => rfl, fun _ _ _ _ _ => rfl, fun _ _ _ _ _ => rfl⟩

end Conversion

theorem Payload.convertPlain_int {p : Payload} {n : Nat} {c : Conversion}
    (h : p.convertPlain n .int = some c) : ∃ k, c.payload = .int k ∧ c.next = n := by
  cases p with
  | int k =>
    obtain rfl := Option.some.inj h
    exact ⟨k, rfl, rfl⟩
  | float x =>
    obtain ⟨k, -, hk⟩ := Option.bind_eq_some_iff.1 h
    obtain rfl := Option.some.inj hk
    exact ⟨k, rfl, rfl⟩
  | text t =>
    obtain ⟨k, -, hk⟩ := Option.bind_eq_some_iff.1 h
    obtain rfl := Option.some.inj hk
    exact ⟨k, rfl, rfl⟩
  | _ => contradiction

namespace Value

variable {v : Value}

def integer? (v : Value) : Option Int := (v.coerce 0 .int).bind Conversion.integer?

theorem bind_integer?_payload (v : Value) (n m : Nat) :
    ((v.payload n).1.convert m .int).bind Conversion.integer? = v.integer? := by
  have hunused := Payload.map_convert Conversion.blind_integer m
    (v.payload n).2 (v.payload n).1 .int
  have hmap := hunused.trans (v.map_coerce Conversion.blind_integer n 0 .int)
  have hbind (x : Option Conversion) :
    x.bind Conversion.integer? = (x.map Conversion.integer?).join := by
    cases x <;> rfl
  rw [integer?, hbind, hmap, ← hbind]

theorem exists_int_of_convert {n m : Nat} {c : Conversion}
    (h : (v.payload n).1.convert m .int = some c) : ∃ k, c.payload = .int k ∧ c.next = m := by
  rw [Payload.convert_of_ne_boxed (v.payload_ne_boxed n)] at h
  exact Payload.convertPlain_int h

theorem convert_of_integer? {i : Int} (h : v.integer? = some i) (n m : Nat) :
    ∃ k cost, k.toInt = i ∧ (v.payload n).1.convert m .int = some ⟨.int k, cost, m⟩ := by
  rw [← v.bind_integer?_payload n m] at h
  obtain ⟨⟨p, cost, next⟩, hc, hi⟩ := Option.bind_eq_some_iff.1 h
  obtain ⟨k, rfl, rfl⟩ := exists_int_of_convert hc
  exact ⟨k, cost, Option.some.inj hi, hc⟩

theorem convert_of_integer?_none (h : v.integer? = none) (n m : Nat) :
    (v.payload n).1.convert m .int = none := by
  rw [← v.bind_integer?_payload n m] at h
  cases hc : (v.payload n).1.convert m .int with
  | none => rfl
  | some c =>
    obtain ⟨k, hk, -⟩ := exists_int_of_convert hc
    simp [hc, Conversion.integer?, hk, Payload.int?] at h

theorem isError_of_integer? {i : Int} (h : v.integer? = some i) : v.isError = false := by
  cases v with
  | error e => contradiction
  | _ => rfl

theorem payload_next_of_integer? {i : Int} (h : v.integer? = some i) (n : Nat) :
    (v.payload n).2 = n := by
  cases v with
  | method g => contradiction
  | _ => rfl

end Value

theorem HostKind.argument_word {args : List Payload} {i : Nat} {k : Int64}
    (h : args[i]? = some (.int k))
    (w : World) : ∃ hk, (HostKind.integer ⟨true, .w64⟩).argument w args i = .ok ⟨k.toInt, hk⟩ := by
  have hholds : IntKind.holds ⟨true, .w64⟩ k.toInt := ⟨k.minValue_le_toInt, k.toInt_le⟩
  have hread : (HostKind.integer ⟨true, .w64⟩).read w (.int k) = some ⟨k.toInt, hholds⟩ :=
    dif_pos hholds
  exact ⟨hholds, by simp [argument, h, hread]⟩

theorem HostKind.argument_int (w : World) (k : Int64) (rest : List Payload) :
    ∃ h, (HostKind.integer ⟨true, .w64⟩).argument w (.int k :: rest) 0 = .ok ⟨k.toInt, h⟩ :=
  argument_word List.getElem?_cons_zero w

namespace ListMethod

def signature : ListMethod → Signature
  | .add => BuiltinKind.instanceMethod "add" [{ name := "item", type := .any }] .void (.list .add)
  | .insert =>
    BuiltinKind.instanceMethod "insert"
      [{ name := "index", type := .int }, { name := "item", type := .any }]
      .void (.list .insert)
  | .removeAt =>
    BuiltinKind.instanceMethod "remove_at" [{ name := "index", type := .int }] .void
      (.list .removeAt)
  | .contains =>
    BuiltinKind.instanceMethod "contains" [{ name := "item", type := .any }] .bool (.list .contains)
  | .indexOf =>
    BuiltinKind.instanceMethod "index_of" [{ name := "item", type := .any }] .int (.list .indexOf)
  | .clear => BuiltinKind.instanceMethod "clear" [] .void (.list .clear)

theorem body_signature (m : ListMethod) : m.signature.body = .builtin (.list m) := by
  cases m <;> rfl

theorem isStatic_signature (m : ListMethod) : m.signature.isStatic = false := by
  cases m <;> rfl

theorem acceptsArity_signature (m : ListMethod) (count : Nat) :
    m.signature.acceptsArity count = decide (count = m.signature.parameters.length) := by
  have hmin : m.signature.minArity = m.signature.parameters.length := by cases m <;> rfl
  have hvariadic : m.signature.isVariadic = false := by cases m <;> rfl
  rw [Signature.acceptsArity, hmin, hvariadic, Bool.false_or, ← Bool.decide_and, decide_eq_decide]
  omega

section Bind

variable (next : Nat) {p item : Payload}

theorem bind_signature {m : ListMethod} {args : List Payload}
    (h : args.length = m.signature.parameters.length) :
    m.signature.bind next args = bindArguments next 0 m.signature.parameters args := by
  rw [Signature.bind, acceptsArity_signature, decide_eq_true h, if_pos rfl]

theorem bind_add (hi : ∀ v, item ≠ .boxed v) :
    add.signature.bind next [item] = .ok ⟨[item], Conversion.wideningCost, next⟩ := by
  have hany := Payload.convert_any hi next
  rw [bind_signature next rfl]
  simp [bindArguments, signature, BuiltinKind.instanceMethod, hany]

theorem bind_removeAt {k : Int64} {cost : UInt32}
    (hp : p.convert next .int = some ⟨.int k, cost, next⟩) :
    removeAt.signature.bind next [p] = .ok ⟨[.int k], cost, next⟩ := by
  rw [bind_signature next rfl]
  simp [bindArguments, signature, BuiltinKind.instanceMethod, hp]

theorem bind_insert {k : Int64} {cost : UInt32}
    (hp : p.convert next .int = some ⟨.int k, cost, next⟩)
    (hi : ∀ v, item ≠ .boxed v) :
    insert.signature.bind next [p, item] =
      .ok ⟨[.int k, item], cost + Conversion.wideningCost, next⟩ := by
  have hany := Payload.convert_any hi next
  rw [bind_signature next rfl]
  simp [bindArguments, signature, BuiltinKind.instanceMethod, hp, hany]

theorem bindArguments_of_index {ps : List Parameter} (ht : ps.head?.map (·.type) = some .int)
    (hp : p.convert next .int = none) (rest : List Payload) :
    bindArguments next 0 ps (p :: rest) = .error (.argumentType 0) := by
  simp only [bindArguments, ht, Option.getD_some, hp]

end Bind

/-- What a run comes to: the list holds the sequence written, or nothing is written and there is
a message. -/
inductive Ends (l : ListRef) (w : World) : Option (List Payload) → Computed → Prop
  | written {n : Nat} (hn : w.next ≤ n) (p : Payload) (s : List Payload) :
      Ends l w (some s) (.ok (p, World.setItems { w with next := n } l s))
  | refused (message : String) : Ends l w none (.error message)

section Run

variable (l : ListRef) (w : World) (item : Payload) (k : Int64)

theorem run_add : Ends l w ((item.convert w.next l.element).map fun c => w.items l ++ [c.payload])
    (add.run l [item] w) := by
  have hrun : add.run l [item] w =
      (l.storable w.next item).bind fun c =>
        .ok (.null, { w with next := c.next }.appendItem l c.payload) := rfl
  rw [hrun, ListRef.storable]
  cases hc : item.convert w.next l.element with
  | none => exact .refused _
  | some c => exact .written (Payload.convert_next_le hc) _ _

theorem run_insert : Ends l w
    ((item.convert w.next l.element).bind fun c =>
      if 0 ≤ k.toInt ∧ k.toInt ≤ (w.items l).length then
        some ((w.items l).insertIdx k.toInt.toNat c.payload)
      else none)
    (insert.run l [.int k, item] w) := by
  obtain ⟨hk, hindex⟩ := HostKind.argument_int w k [item]
  have hitem : HostKind.payload.argument w [.int k, item] 1 = .ok item := rfl
  rw [run, hindex, hitem]
  dsimp only [bind, Except.bind]
  rw [ListRef.storable]
  cases hc : item.convert w.next l.element with
  | none => exact .refused _
  | some c =>
    have hinsert : World.insertItem? { w with next := c.next } l k.toInt c.payload =
      if 0 ≤ k.toInt ∧ k.toInt ≤ (w.items l).length then
        some (World.setItems { w with next := c.next } l
          ((w.items l).insertIdx k.toInt.toNat c.payload))
      else none := rfl
    dsimp only [Option.bind_some]
    rw [hinsert]
    by_cases hin : 0 ≤ k.toInt ∧ k.toInt ≤ (w.items l).length
    · rw [if_pos hin, if_pos hin]
      exact .written (Payload.convert_next_le hc) _ _
    · rw [if_neg hin, if_neg hin]
      exact .refused _

theorem run_removeAt : Ends l w
    (if 0 ≤ k.toInt ∧ k.toInt <
      (w.items l).length then some ((w.items l).eraseIdx k.toInt.toNat) else none)
    (removeAt.run l [.int k] w) := by
  obtain ⟨hk, hindex⟩ := HostKind.argument_int w k []
  rw [run, hindex]
  dsimp only [bind, Except.bind]
  rw [World.removeItem?]
  by_cases hin : 0 ≤ k.toInt ∧ k.toInt < (w.items l).length
  · have hlt : k.toInt.toNat < (w.items l).length := by omega
    rw [if_pos hin, if_pos hin.1, List.getElem?_eq_getElem hlt]
    exact .written (Nat.le_refl _) _ _
  · rw [if_neg hin]
    by_cases hpos : 0 ≤ k.toInt
    · have hmiss : (w.items l)[k.toInt.toNat]? = none := by
        apply List.getElem?_eq_none
        omega
      rw [if_pos hpos, hmiss]
      exact .refused _
    · rw [if_neg hpos]
      exact .refused _

theorem run_clear : Ends l w (some []) (clear.run l [] w) := .written (Nat.le_refl _) _ _

end Run

end ListMethod

namespace World

variable {l : ListRef} {w : World} {m : ListMethod} {args : List Value}

/-- What a call comes to: the list holds the sequence written and nothing is given back, or there is
an error and no change but in the numbers in use. -/
inductive CallEnds (l : ListRef) (w : World) : Option (List Payload) → Option (Value × World) → Prop
  | written {n : Nat} (hn : w.next ≤ n) (s : List Payload) :
      CallEnds l w (some s) (some (.void, World.setItems { w with next := n } l s))
  | refused {n : Nat} (hn : w.next ≤ n) (e : Failure) :
      CallEnds l w none (some (.error e, { w with next := n }))

theorem getNamed_listMethod (w : World) (l : ListRef) (m : ListMethod) :
    (∀ call, w.getNamed call (.list l) m.signature.name =
        some (.method (.bound (.list l) (.builtin .list) m.signature.name [0]), w)) ∧
      w.overloads (.bound (.list l) (.builtin .list) m.signature.name [0]) = [m.signature] := by
  cases m <;> exact ⟨fun _ => rfl, rfl⟩

theorem callEnds_of_bind {b : Binding} {written : Option (List Payload)}
    (hm : m.signature.returnsVoid = true)
    (hv : firstError? args = none)
    (hb : m.signature.bind (Value.payloads w.next args).2 (Value.payloads w.next args).1 = .ok b)
    (hrun : ListMethod.Ends l { w with next := b.next } written
      (m.run l b.arguments { w with next := b.next })) (depth : Nat) :
    CallEnds l w written (callNamed (depth + 1) w (.list l) m.signature.name args) := by
  obtain ⟨hget, hover⟩ := w.getNamed_listMethod l m
  have hn : w.next ≤ b.next :=
    Nat.le_trans (Value.payloads_next_le w.next args) (Signature.bind_next_le hb)
  rw [callNamed_of_getNamed hget, invoke_of_bind hover rfl rfl m.isStatic_signature hv hb,
    Start.run_body_of_method rfl,
    m.body_signature]
  simp only [Body.run, BuiltinMethod.run]
  generalize m.run l b.arguments { w with next := b.next } = ended at hrun
  cases hrun with
  | written hle p s =>
    simp only [Signature.finish, hm, if_true]
    exact .written (Nat.le_trans hn hle) s
  | refused message => exact .refused hn _

theorem callEnds_of_error {e : Value} (he : firstError? args = some e) (depth : Nat) :
    CallEnds l w none (callNamed (depth + 1) w (.list l) m.signature.name args) := by
  have hcall := callNamed_of_error (w.getNamed_listMethod l m).1 he depth
  obtain ⟨f, rfl⟩ := Value.isError_iff.1 (List.find?_some he)
  rw [hcall]
  exact .refused (Nat.le_refl _) f

theorem callEnds_of_not_bind {r : Rejection} (hv : firstError? args = none)
    (hb : m.signature.bind (Value.payloads w.next args).2 (Value.payloads w.next args).1 = .error r)
    (depth : Nat) : CallEnds l w none
      (callNamed (depth + 1) w (.list l) m.signature.name args) := by
  obtain ⟨hget, hover⟩ := w.getNamed_listMethod l m
  obtain ⟨e, hcall⟩ := invoke_of_not_bind hover hv hb depth
  rw [callNamed_of_getNamed hget, hcall]
  exact .refused (Nat.le_refl _) e

theorem callEnds_of_length (ha : args.length ≠ m.signature.parameters.length) (depth : Nat) :
    CallEnds l w none (callNamed (depth + 1) w (.list l) m.signature.name args) := by
  cases he : firstError? args with
  | some e => exact callEnds_of_error he depth
  | none =>
    have harity : m.signature.acceptsArity (Value.payloads w.next args).1.length = false := by
      rw [ListMethod.acceptsArity_signature, Value.length_payloads, decide_eq_false ha]
    exact callEnds_of_not_bind he ((m.signature.bind_eq_arity_iff _ _).2 harity) depth

theorem callEnds_add {v : Value} (hv : v.isError = false) (depth : Nat) :
    CallEnds l w ((v.coerce w.next l.element).map fun c => w.items l ++ [c.payload])
      (callNamed (depth + 1) w (.list l) "add" [v]) := by
  have hargs : firstError? [v] = none := by simp [firstError?, hv]
  have hbind := ListMethod.bind_add (v.payload w.next).2 (v.payload_ne_boxed w.next)
  exact callEnds_of_bind (m := .add) rfl hargs hbind (ListMethod.run_add l _ _) depth

theorem callEnds_clear (depth : Nat) :
    CallEnds l w (some []) (callNamed (depth + 1) w (.list l) "clear" []) := by
  have hargs : firstError? [] = none := rfl
  exact callEnds_of_bind (m := .clear) rfl hargs rfl (ListMethod.run_clear l w) depth

theorem callEnds_of_index {index : Value} {rest : List Value} (hi : index.integer? = none)
    (hlength : (index :: rest).length = m.signature.parameters.length)
    (ht : m.signature.parameters.head?.map (·.type) = some .int) (depth : Nat) :
    CallEnds l w none (callNamed (depth + 1) w (.list l) m.signature.name (index :: rest)) := by
  cases he : firstError? (index :: rest) with
  | some e => exact callEnds_of_error he depth
  | none =>
    let args := Value.payloads w.next (index :: rest)
    have hcount : args.1.length = m.signature.parameters.length := by
      rw [Value.length_payloads, hlength]
    have hindex := Value.convert_of_integer?_none hi w.next args.2
    have hbind := (ListMethod.bind_signature args.2 hcount).trans
      (ListMethod.bindArguments_of_index args.2 ht hindex _)
    exact callEnds_of_not_bind he hbind depth

theorem callEnds_removeAt {index : Value} {i : Int} (hi : index.integer? = some i) (depth : Nat) :
    CallEnds l w
      (if 0 ≤ i ∧ i < (w.items l).length then some ((w.items l).eraseIdx i.toNat) else none)
      (callNamed (depth + 1) w (.list l) "remove_at" [index]) := by
  obtain ⟨k, cost, rfl, hindex⟩ := Value.convert_of_integer? hi w.next (index.payload w.next).2
  have hargs : firstError? [index] = none := by simp [firstError?, Value.isError_of_integer? hi]
  have hbind := ListMethod.bind_removeAt _ hindex
  exact callEnds_of_bind (m := .removeAt) rfl hargs hbind (ListMethod.run_removeAt l _ k) depth

theorem callEnds_insert {index v : Value} {i : Int} (hi : index.integer? = some i)
    (hv : v.isError = false) (depth : Nat) :
    CallEnds l w
      ((v.coerce w.next l.element).bind fun c =>
        if 0 ≤ i ∧ i ≤ (w.items l).length then some ((w.items l).insertIdx i.toNat c.payload) else
          none)
      (callNamed (depth + 1) w (.list l) "insert" [index, v]) := by
  obtain ⟨k, cost, rfl, hindex⟩ := Value.convert_of_integer? hi w.next (v.payload w.next).2
  have hargs : firstError? [index, v] = none := by
    simp [firstError?, Value.isError_of_integer? hi, hv]
  have hpayloads : Value.payloads w.next [index, v] =
      ([(index.payload w.next).1, (v.payload w.next).1], (v.payload w.next).2) := by
    simp only [Value.payloads, Value.payload_next_of_integer? hi]
  have hbind := ListMethod.bind_insert _ hindex (v.payload_ne_boxed w.next)
  exact callEnds_of_bind (m := .insert) rfl hargs (by rw [hpayloads]; exact hbind)
    (ListMethod.run_insert l _ _ k) depth

end World

end LateBound
