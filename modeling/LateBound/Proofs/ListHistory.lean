import LateBound.Proofs.ContainerTyping
import LateBound.Proofs.ListCall
/-! The runs of a list. Whatever is read from it, written to it and called on it, the list holds the
sequence that the operations write one after the other, and an operation that is refused leaves that
sequence as it is. -/
namespace LateBound

namespace Value

def reading? : Value → Option Int
  | .number n => some n.toInt.toInt
  | _ => none

theorem positionWithin_of_reading? {index : Value} {i : Int}
    (h : index.reading? = some i) (length : Nat) :
    index.positionWithin length =
      if 0 ≤ i ∧ i < length then .ok i.toNat else .error (.indexOutOfRange i length) := by
  cases index with
  | number n =>
    obtain rfl := Option.some.inj h
    rfl
  | _ => contradiction

theorem positionWithin_of_reading?_none {index : Value} (h : index.reading? = none) (length : Nat) :
    ∃ e, index.positionWithin length = .error e := by
  cases index with
  | number n => contradiction
  | _ => exact ⟨_, rfl⟩

/-- The conversion under which a list of the element type stores a value. An error is not stored. -/
def storable? (next : Nat) (element : DeclaredType) (v : Value) : Option Conversion :=
  if v.isError then none else v.coerce next element

theorem storable?_next_le {next : Nat} {element : DeclaredType} {v : Value} {c : Conversion}
    (h : v.storable? next element = some c) : next ≤ c.next := by
  obtain ⟨-, hc⟩ := Option.ite_none_left_eq_some.1 h
  exact coerce_next_le hc

/-- What a sequence gives at an index: the element there as a value, or what is wrong with
the index. -/
def itemAt (next : Nat) (s : List Payload) : Value → Value
  | .error e => .error e
  | .number n =>
    let i := n.toInt.toInt
    if 0 ≤ i ∧ i < s.length then (ofPayload next (s.getD i.toNat .null)).1
    else .error (.indexOutOfRange i s.length)
  | v => .error (.nonNumericIndex v.typeName)

end Value

/-- What can be done to a list. A method is called with any arguments. -/
inductive ListOperation
  | getAt (index : Value)
  | count
  | setAt (index v : Value)
  | add (args : List Value)
  | insert (args : List Value)
  | removeAt (args : List Value)
  | clear (args : List Value)

namespace ListOperation

/-- The operation on the list itself, and its answer. -/
def perform (depth : Nat) (l : ListRef) (w : World) : ListOperation → Option (Value × World)
  | .getAt index => some (w.getAt (.list l) index)
  | .count => w.getNamed (evaluator depth) (.list l) "count"
  | .setAt index v =>
    let (written, w) := w.setAt (.list l) index v
    some (.bool written, w)
  | .add args => World.callNamed (depth + 1) w (.list l) "add" args
  | .insert args => World.callNamed (depth + 1) w (.list l) "insert" args
  | .removeAt args => World.callNamed (depth + 1) w (.list l) "remove_at" args
  | .clear args => World.callNamed (depth + 1) w (.list l) "clear" args

/-- The sequence that an operation makes of a sequence, if it writes and is not refused. -/
def written? (element : DeclaredType) (next : Nat) (s : List Payload) :
    ListOperation → Option (List Payload)
  | .setAt index v =>
    index.reading?.bind fun i =>
      (v.storable? next element).bind fun c =>
        if 0 ≤ i ∧ i < s.length then some (s.set i.toNat c.payload) else none
  | .add [v] => (v.storable? next element).map fun c => s ++ [c.payload]
  | .insert [index, v] =>
    index.integer?.bind fun i =>
      (v.storable? next element).bind fun c =>
        if 0 ≤ i ∧ i ≤ s.length then some (s.insertIdx i.toNat c.payload) else none
  | .removeAt [index] =>
    index.integer?.bind fun i =>
      if 0 ≤ i ∧ i < s.length then some (s.eraseIdx i.toNat) else none
  | .clear [] => some []
  | _ => none

/-- What an operation answers on a sequence. A method gives nothing back when it writes, and else an
error. -/
def Answers (element : DeclaredType) (next : Nat) (s : List Payload) (op : ListOperation)
    (a : Value) : Prop :=
  match op with
  | .getAt index => a = index.itemAt next s
  | .count => a = (Value.ofPayload next (HostKind.ofInt s.length)).1
  | .setAt _ _ => a = .bool (op.written? element next s).isSome
  | _ => if (op.written? element next s).isSome then a = .void else a.isError = true

def performAll (depth : Nat) (l : ListRef) :
    World → List ListOperation → Option (List Value × World)
  | w, [] => some ([], w)
  | w, op :: ops =>
    (op.perform depth l w).bind fun (a, w) =>
      (performAll depth l w ops).map fun (answers, w) => (a :: answers, w)

/-- The runs of a sequence, with the first unused number before and after. An operation finds
the sequence that those before it left, and what it makes is numbered from the first number they
left unused. -/
inductive Run (element : DeclaredType) :
    Nat → List Payload → List ListOperation → List Value → Nat → List Payload → Prop
  | nil (n : Nat) (s : List Payload) : Run element n s [] [] n s
  | cons {n m k : Nat} {s s' : List Payload} {op : ListOperation}
      {ops : List ListOperation} {a : Value}
      {answers : List Value} (ha : op.Answers element n s a) (hn : n ≤ m)
      (hr : Run element m ((op.written? element n s).getD s) ops answers k s') :
      Run element n s (op :: ops) (a :: answers) k s'

end ListOperation

/-- The list holds the sequence written, if one was. Nothing else changes but the numbers in use. -/
inductive ListRef.Holds (l : ListRef) (w : World) : Option (List Payload) → World → Prop
  | written {n : Nat} (hn : w.next ≤ n) (s : List Payload) :
      Holds l w (some s) (World.setItems { w with next := n } l s)
  | kept {n : Nat} (hn : w.next ≤ n) : Holds l w none { w with next := n }

namespace ListRef.Holds

variable {l : ListRef} {w w' : World} {written : Option (List Payload)}

theorem next_le (h : l.Holds w written w') : w.next ≤ w'.next := by
  cases h with
  | written hn s => exact hn
  | kept hn => exact hn

theorem items_eq (h : l.Holds w written w') : w'.items l = written.getD (w.items l) := by
  cases h with
  | written hn s => rw [World.items_setItems, if_pos rfl]; rfl
  | kept hn => rfl

end ListRef.Holds

namespace World

variable (w : World) (l : ListRef)

theorem holds_box (p : Payload) : l.Holds w none (w.box p).2 :=
  .kept (Value.ofPayload_next_le w.next p)

theorem getNamed_count (call : Caller) :
    w.getNamed call (.list l) "count" = some (w.box (HostKind.ofInt (w.items l).length)) := rfl

theorem getAt_itemAt (index : Value) :
    ∃ w', w.getAt (.list l) index = (index.itemAt w.next (w.items l), w') ∧ l.Holds w none w' := by
  have hget : w.getAt (.list l) index = w.getListItem l index := rfl
  rw [hget, getListItem]
  cases index with
  | number n =>
    rw [Value.positionWithin_of_reading? rfl, Value.itemAt]
    by_cases hin : 0 ≤ n.toInt.toInt ∧ n.toInt.toInt < (w.items l).length
    · have hlt : n.toInt.toInt.toNat < (w.items l).length := by omega
      rw [if_pos hin, if_pos hin, List.getD_eq_getElem?_getD]
      dsimp only
      rw [List.getElem?_eq_getElem hlt]
      exact ⟨_, rfl, w.holds_box l _⟩
    · rw [if_neg hin, if_neg hin]
      exact ⟨w, rfl, .kept (Nat.le_refl _)⟩
  | _ => exact ⟨w, rfl, .kept (Nat.le_refl _)⟩

theorem setListItem?_eq (index v : Value) :
    w.setListItem? l index v =
      index.reading?.bind fun i =>
        (v.storable? w.next l.element).bind fun c =>
          if 0 ≤ i ∧ i < (w.items l).length then
            some (World.setItems { w with next := c.next } l ((w.items l).set i.toNat c.payload))
          else none := by
  unfold setListItem? Value.storable?
  cases hv : v.isError with
  | true => cases index.reading? <;> rfl
  | false =>
    cases hr : index.reading? with
    | none =>
      obtain ⟨e, he⟩ := Value.positionWithin_of_reading?_none hr (w.items l).length
      rw [he]
      rfl
    | some i =>
      rw [Value.positionWithin_of_reading? hr]
      by_cases hin : 0 ≤ i ∧ i < (w.items l).length
      · have hplace : 0 ≤ (i.toNat : Int) ∧ (i.toNat : Int) < (w.items l).length := by omega
        rw [if_pos hin]
        cases v.coerce w.next l.element with
        | none => rfl
        | some c => exact (if_pos hplace).trans (if_pos hin).symm
      · rw [if_neg hin]
        cases v.coerce w.next l.element with
        | none => rfl
        | some c => exact (if_neg hin).symm

theorem setAt_written (index v : Value) :
    let written := (ListOperation.setAt index v).written? l.element w.next (w.items l)
    ∃ w', w.setAt (.list l) index v = (written.isSome, w') ∧ l.Holds w written w' := by
  have hkept : l.Holds w none w := .kept (Nat.le_refl _)
  unfold setAt ListOperation.written?
  dsimp only
  rw [setListItem?_eq]
  cases index.reading? with
  | none => exact ⟨w, rfl, hkept⟩
  | some i =>
    cases hs : v.storable? w.next l.element with
    | none => exact ⟨w, rfl, hkept⟩
    | some c =>
      dsimp only [Option.bind_some]
      by_cases hin : 0 ≤ i ∧ i < (w.items l).length
      · rw [if_pos hin, if_pos hin]
        exact ⟨_, rfl, .written (Value.storable?_next_le hs) _⟩
      · rw [if_neg hin, if_neg hin]
        exact ⟨w, rfl, hkept⟩

end World

namespace ListOperation

open World

section Call

variable {l : ListRef} {w : World} (args : List Value) (depth : Nat)

theorem add_ends : CallEnds l w ((add args).written? l.element w.next (w.items l))
    (callNamed (depth + 1) w (.list l) "add" args) := by
  match args with
  | [] | _ :: _ :: _ =>
    exact callEnds_of_length (m := .add)
      (by simp [ListMethod.signature, BuiltinKind.instanceMethod]) depth
  | [v] =>
    have hwritten : (add [v]).written? l.element w.next (w.items l) =
      (v.storable? w.next l.element).map fun c => w.items l ++ [c.payload] := rfl
    rw [hwritten, Value.storable?]
    cases hv : v.isError with
    | true => exact callEnds_of_error (m := .add) (e := v) (List.find?_cons_of_pos hv) depth
    | false => exact callEnds_add hv depth

theorem insert_ends : CallEnds l w ((insert args).written? l.element w.next (w.items l))
    (callNamed (depth + 1) w (.list l) "insert" args) := by
  match args with
  | [] | [_] | _ :: _ :: _ :: _ =>
    exact callEnds_of_length (m := .insert)
      (by simp [ListMethod.signature, BuiltinKind.instanceMethod]) depth
  | [index, v] =>
    have hwritten : (insert [index, v]).written? l.element w.next (w.items l) =
      index.integer?.bind fun i =>
        (v.storable? w.next l.element).bind fun c =>
          if 0 ≤ i ∧ i ≤ (w.items l).length then some ((w.items l).insertIdx i.toNat c.payload)
          else none := rfl
    rw [hwritten]
    cases hi : index.integer? with
    | none => exact callEnds_of_index (m := .insert) hi rfl rfl depth
    | some i =>
      rw [Option.bind_some, Value.storable?]
      cases hv : v.isError with
      | true =>
        have herror : firstError? [index, v] = some v := by
          simp [firstError?, Value.isError_of_integer? hi, hv]
        exact callEnds_of_error (m := .insert) herror depth
      | false => exact callEnds_insert hi hv depth

theorem removeAt_ends : CallEnds l w ((removeAt args).written? l.element w.next (w.items l))
    (callNamed (depth + 1) w (.list l) "remove_at" args) := by
  match args with
  | [] | _ :: _ :: _ =>
    exact callEnds_of_length (m := .removeAt)
      (by simp [ListMethod.signature, BuiltinKind.instanceMethod])
      depth
  | [index] =>
    have hwritten : (removeAt [index]).written? l.element w.next (w.items l) =
      index.integer?.bind fun i =>
        if 0 ≤ i ∧ i < (w.items l).length then some ((w.items l).eraseIdx i.toNat) else none := rfl
    rw [hwritten]
    cases hi : index.integer? with
    | none => exact callEnds_of_index (m := .removeAt) hi rfl rfl depth
    | some i => exact callEnds_removeAt hi depth

theorem clear_ends : CallEnds l w ((clear args).written? l.element w.next (w.items l))
    (callNamed (depth + 1) w (.list l) "clear" args) := by
  match args with
  | [] => exact callEnds_clear depth
  | _ :: _ =>
    exact callEnds_of_length (m := .clear)
      (by simp [ListMethod.signature, BuiltinKind.instanceMethod]) depth

end Call

theorem holds_of_callEnds {l : ListRef} {w : World} {written : Option (List Payload)}
    {r : Option (Value × World)} (h : CallEnds l w written r) :
    ∃ a w', r = some (a, w') ∧ (if written.isSome then a = .void else a.isError = true) ∧
      l.Holds w written w' := by
  cases h with
  | written hn s => exact ⟨_, _, rfl, rfl, .written hn s⟩
  | refused hn e => exact ⟨_, _, rfl, rfl, .kept hn⟩

/-- One operation writes the sequence that it makes of what the list holds, and answers as
on that. -/
theorem perform_step (depth : Nat) (l : ListRef) (w : World) (op : ListOperation) :
    ∃ a w', op.perform depth l w = some (a, w') ∧ op.Answers l.element w.next (w.items l) a ∧
      l.Holds w (op.written? l.element w.next (w.items l)) w' := by
  cases op with
  | getAt index =>
    obtain ⟨w', hget, hw⟩ := w.getAt_itemAt l index
    exact ⟨_, w', congrArg some hget, rfl, hw⟩
  | count => exact ⟨_, _, w.getNamed_count l (evaluator depth), rfl, w.holds_box l _⟩
  | setAt index v =>
    obtain ⟨w', hset, hw⟩ := w.setAt_written l index v
    refine ⟨_, w', ?_, rfl, hw⟩
    rw [perform, hset]
  | add args => exact holds_of_callEnds (add_ends args depth)
  | insert args => exact holds_of_callEnds (insert_ends args depth)
  | removeAt args => exact holds_of_callEnds (removeAt_ends args depth)
  | clear args => exact holds_of_callEnds (clear_ends args depth)

theorem step_of_callNamed {l : ListRef} {m : ListMethod} {args : List Value} {depth : Nat}
    {w w' : World} {a : Value}
    (h : callNamed depth w (.list l) m.signature.name args = some (a, w')) :
    (Value.list l).Step w w' := by
  obtain ⟨hget, -⟩ := w.getNamed_listMethod l m
  rw [callNamed_of_getNamed hget] at h
  exact .call (hget (evaluator depth)) h

/-- What is done to a list is a step, as on any container. -/
theorem step_of_perform {op : ListOperation} {l : ListRef} {depth : Nat} {w w' : World} {a : Value}
    (h : op.perform depth l w = some (a, w')) : (Value.list l).Step w w' := by
  cases op with
  | getAt index =>
    obtain ⟨-, rfl⟩ := Prod.mk.inj (Option.some.inj h)
    exact .getAt index
  | count =>
    have hget : w.getNamed (evaluator depth) (.list l) "count" = some (a, w') := h
    exact .get hget
  | setAt index v =>
    obtain ⟨-, rfl⟩ := Prod.mk.inj (Option.some.inj h)
    exact .setAt index v
  | add args => exact step_of_callNamed (m := .add) h
  | insert args => exact step_of_callNamed (m := .insert) h
  | removeAt args => exact step_of_callNamed (m := .removeAt) h
  | clear args => exact step_of_callNamed (m := .clear) h

/-- The runs of a list are among those of every scene that follows it. -/
theorem reachable_performAll {l : ListRef} {depth : Nat} {w : World} {ops : List ListOperation}
    {answers : List Value} {s : Scene} (hs : s.Reachable) (hl : l ∈ s.lists)
    (h : performAll depth l s.world ops = some (answers, w)) :
    Scene.Reachable ⟨w, s.lists, s.dicts⟩ := by
  induction ops generalizing s answers with
  | nil =>
    obtain ⟨-, rfl⟩ := Prod.mk.inj (Option.some.inj h)
    exact hs
  | cons op ops ih =>
    obtain ⟨⟨a, w₁⟩, hop, h⟩ := Option.bind_eq_some_iff.1 h
    obtain ⟨⟨answers, w'⟩, hops, h⟩ := Option.map_eq_some_iff.1 h
    obtain ⟨-, rfl⟩ := Prod.mk.inj h
    have hfollows : s.Follows (.list l) := hl
    have hstep : Scene.Step s ⟨w₁, s.lists, s.dicts⟩ := .operation hfollows (step_of_perform hop)
    exact ih (s := ⟨w₁, s.lists, s.dicts⟩) (.step hs hstep) hl hops

theorem written?_of_refused {op : ListOperation} {element : DeclaredType}
    {next : Nat} {s : List Payload}
    {a : Value} (ha : op.Answers element next s a) (hr : a = .bool false ∨ a.isError = true) :
    op.written? element next s = none := by
  cases hw : op.written? element next s with
  | none => rfl
  | some s' =>
    exfalso
    cases op with
    | getAt index => contradiction
    | count => contradiction
    | setAt index v =>
      simp only [Answers, hw, Option.isSome_some] at ha
      simp [ha, Value.isError] at hr
    | _ =>
      simp only [Answers, hw, Option.isSome_some, if_true] at ha
      simp [ha, Value.isError] at hr

theorem performAll_run (depth : Nat) (l : ListRef) (w : World) (ops : List ListOperation) :
    ∃ answers w', performAll depth l w ops = some (answers, w') ∧
      Run l.element w.next (w.items l) ops answers w'.next (w'.items l) := by
  induction ops generalizing w with
  | nil => exact ⟨[], w, rfl, .nil _ _⟩
  | cons op ops ih =>
    obtain ⟨a, w₁, hop, ha, hw⟩ := op.perform_step depth l w
    obtain ⟨answers, w', hops, hrun⟩ := ih w₁
    refine ⟨a :: answers, w', by simp [performAll, hop, hops], .cons ha hw.next_le ?_⟩
    rwa [← hw.items_eq]

end ListOperation

open ListOperation in
/-- A list holds a sequence. One operation answers as on that sequence and makes what `written?`
says of it, with nothing else changed, and one that is refused leaves the sequence as it is; so the
operations of any run, one after the other, answer and write as on a sequence of their own. -/
theorem list_refines_sequence (l : ListRef) (w : World) (depth : Nat) :
    (∀ op : ListOperation, ∃ a w', op.perform depth l w = some (a, w') ∧
      op.Answers l.element w.next (w.items l) a ∧
      l.Holds w (op.written? l.element w.next (w.items l)) w' ∧
      (a = .bool false ∨ a.isError = true → w'.items l = w.items l)) ∧
    ∀ ops : List ListOperation, ∃ answers w', performAll depth l w ops = some (answers, w') ∧
      Run l.element w.next (w.items l) ops answers w'.next (w'.items l) := by
  refine ⟨fun op => ?_, performAll_run depth l w⟩
  obtain ⟨a, w', hop, ha, hw⟩ := op.perform_step depth l w
  refine ⟨a, w', hop, ha, hw, fun hr => ?_⟩
  rw [hw.items_eq, written?_of_refused ha hr]
  rfl

end LateBound
