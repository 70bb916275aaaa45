import LateBound.Proofs.DictCall
import LateBound.Proofs.DictRun
/-! Enumerating a dictionary and looking up in it. A key taken from the list of keys finds the
entry it was taken from, and no other: reading gives the value at its place, removing takes
that entry out. The exception is a character in a dictionary keyed by `any`, since a value has
no characters. -/
namespace LateBound

namespace Value

def Alike (u v : Value) : Prop :=
  u = v ∨ ∃ s t : Text, u = .text s ∧ v = .text t ∧ s.content = t.content

end Value

namespace World

variable {w : World}

theorem box_alike (w w' : World) (p : Payload) : (w.box p).1.Alike (w'.box p).1 := by
  cases p with
  | char c => exact .inr ⟨_, _, rfl, rfl, rfl⟩
  | _ => exact .inl rfl

theorem getAt_list {l : ListRef} {index : Value} {i : Nat} {p : Payload}
    (hpos : index.position = .ok (i : Int)) (hi : (w.items l)[i]? = some p) :
    w.getAt (.list l) index = w.box p := by
  obtain ⟨hlt, _⟩ := List.getElem?_eq_some_iff.1 hi
  have hwithin : index.positionWithin (w.items l).length = .ok i := by
    simp [Value.positionWithin, hpos, hlt, bind, Except.bind, pure, Except.pure]
  simp [getAt, getAt?, getListItem, hwithin, hi]

theorem getNamed_keys (call : Caller) (w : World) (d : DictRef) :
    w.getNamed call (.dict d) "keys" =
      let (l, w) := w.newList d.key ((w.entries d).keys.map Key.toPayload)
      some (.list l, w) := rfl

theorem getNamed_values (call : Caller) (w : World) (d : DictRef) :
    w.getNamed call (.dict d) "values" =
      let (l, w) := w.newList d.value (w.entries d).values
      some (.list l, w) := rfl

theorem getEntry_of_key? {d : DictRef} {v : Value} {k : Key} {n : Nat} {item : Payload}
    (hv : v.isError = false)
    (hk : d.key? (v.payload w.next).2 (v.payload w.next).1 = some (k, n))
    (hitem : (w.entries d).get? k = some item) : w.getAt (.dict d) v = w.box item := by
  simp [getAt, getAt?, getEntry, hv, DictRef.readKey?, hk, hitem]

end World

namespace DictRef

theorem key?_toPayload {d : DictRef} {k : Key} (hk : d.Admits k) (next : Nat) :
    d.key? next k.toPayload = some (k, next) := by
  have hconv : ∃ cost, k.toPayload.convert next d.key = some ⟨k.toPayload, cost, next⟩ := by
    rcases hk with hany | hnat
    · have hp : ∀ v, k.toPayload ≠ .boxed v := by cases k <;> simp [Key.toPayload]
      rw [hany]
      exact ⟨_, Payload.convert_any hp next⟩
    · rw [← hnat]
      cases k <;> exact ⟨_, rfl⟩
  obtain ⟨cost, hconv⟩ := hconv
  simp [key?, hconv]

theorem key?_box {d : DictRef} {k : Key} (hk : d.Admits k)
    (hc : d.key = .any → k.naturalType ≠ .char) (w : World) (next : Nat) :
    ∃ k' n, d.key? (((w.box k.toPayload).1).payload next).2
      (((w.box k.toPayload).1).payload next).1 =
      some (k', n) ∧ k == k' := by
  cases k with
  | char c =>
    have hkey : d.key = .char := by
      rcases hk with hany | hchar
      · exact absurd rfl (hc hany)
      · exact hchar.symm
    refine ⟨.char c, next, ?_, beq_self_eq_true _⟩
    simp [key?, hkey, World.box, Value.ofPayload, Key.toPayload, Value.payload, Payload.convert,
      Payload.convertPlain, Text.chars, Text.singleChar?, Conversion.widening, Key.ofPayload?]
  | bool b => exact ⟨.bool b, next, key?_toPayload hk next, beq_self_eq_true _⟩
  | int n => exact ⟨.int n, next, key?_toPayload hk next, beq_self_eq_true _⟩
  | text t => exact ⟨.text t, next, key?_toPayload hk next, beq_self_eq_true _⟩

end DictRef

theorem Key.isError_box (w : World) (k : Key) : (w.box k.toPayload).1.isError = false := by
  cases k <;> rfl

/-- An entry that its key finds again once boxed: not a character in a dictionary keyed by `any`. -/
structure World.Addressable (w : World) (d : DictRef) (i : Nat) (key : Key) (item : Payload) :
    Prop where
  entry : (w.entries d).entries[i]? = some (key, item)
  distinct : (w.entries d).Distinct
  admits : d.Admits key
  plain : d.key = .any → key.naturalType ≠ .char

namespace World.Addressable

variable {w : World} {d : DictRef} {i : Nat} {key : Key} {item : Payload}

theorem key?_boxed (h : w.Addressable d i key item) (w₀ : World) (next : Nat) :
    ∃ k n, d.key? ((w₀.box key.toPayload).1.payload next).2
      ((w₀.box key.toPayload).1.payload next).1 =
        some (k, n) ∧ (w.entries d).get? k = some item ∧
      ((w.entries d).erase k).entries = (w.entries d).entries.eraseIdx i := by
  obtain ⟨k, n, hk, hsame⟩ := d.key?_box h.admits h.plain w₀ next
  exact ⟨k, n, hk, h.distinct.get?_of_getElem? h.entry hsame,
    h.distinct.entries_erase h.entry hsame⟩

theorem getAt_boxed (h : w.Addressable d i key item) (w₀ : World) :
    w.getAt (.dict d) (w₀.box key.toPayload).1 = w.box item := by
  obtain ⟨k, n, hk, hitem, _⟩ := h.key?_boxed w₀ w.next
  exact getEntry_of_key? (key.isError_box w₀) hk hitem

theorem containsKey_boxed (h : w.Addressable d i key item) (w₀ : World) (depth : Nat) :
    ∃ w', callNamed (depth + 1) w (.dict d) "contains_key" [(w₀.box key.toPayload).1] =
      some (.bool true, w') := by
  obtain ⟨k, n, hk, hitem, _⟩ := h.key?_boxed w₀ w.next
  refine ⟨{ w with next := ((w₀.box key.toPayload).1.payload w.next).2 }, ?_⟩
  have hfind : d.find? { w with next := ((w₀.box key.toPayload).1.payload w.next).2 }
      ((w₀.box key.toPayload).1.payload w.next).1 = some item := by
    rw [DictRef.find?, hk]
    exact hitem
  simp [callNamed_containsKey w d (key.isError_box w₀), hfind]

theorem remove_boxed (h : w.Addressable d i key item) (w₀ : World) (depth : Nat) :
    ∃ w', callNamed (depth + 1) w (.dict d) "remove" [(w₀.box key.toPayload).1] =
        some (.bool true, w') ∧ (w'.entries d).entries = (w.entries d).entries.eraseIdx i := by
  obtain ⟨k, n, hk, hitem, herase⟩ := h.key?_boxed w₀ w.next
  refine ⟨World.setEntries { w with next := ((w₀.box key.toPayload).1.payload w.next).2 } d
    ((w.entries d).erase k), ?_, ?_⟩
  · rw [callNamed_remove w d (key.isError_box w₀)]
    dsimp only
    have hremove : World.removeEntry? { w with next := ((w₀.box key.toPayload).1.payload w.next).2 }
      d k =
        some (item, World.setEntries { w with next := ((w₀.box key.toPayload).1.payload w.next).2 }
          d
          ((w.entries d).erase k)) := congrArg (Option.map _) hitem
    simp [hk, hremove]
  · rw [entries_setEntries, if_pos rfl]
    exact herase

end World.Addressable

namespace World

/-- What the lists of keys and of values give at a position. -/
theorem getAt_enumerated {w : World} {d : DictRef} {i : Nat} {key : Key} {item : Payload}
    (hi : (w.entries d).entries[i]? = some (key, item)) {index : Value}
    (hindex : index.position = .ok (i : Int)) :
    ∃ keys values w₁ w₂, (∀ call, w.getNamed call (.dict d) "keys" = some (keys, w₁)) ∧
      (∀ call, w₁.getNamed call (.dict d) "values" = some (values, w₂)) ∧
      w₂.entries d = w.entries d ∧
      w₂.getAt keys index = w₂.box key.toPayload ∧
      (w₂.box key.toPayload).2.getAt values index = (w₂.box key.toPayload).2.box item := by
  let ps := (w.entries d).keys.map Key.toPayload
  let w₁ := (w.newList d.key ps).2
  let w₂ := (w₁.newList d.value (w.entries d).values).2
  have hkeys : (w₂.items (w.newList d.key ps).1)[i]? = some key.toPayload := by
    rw [(w₁.extends_newList _ _).items_eq _ (Nat.lt_succ_self _), w.items_newList]
    simp [ps, OrderedMap.keys, hi]
  have hvalues : (w₂.items (w₁.newList d.value (w.entries d).values).1)[i]? = some item := by
    rw [w₁.items_newList]
    simp [OrderedMap.values, hi]
  exact ⟨_, _, w₁, w₂, fun call => getNamed_keys call w d, fun call =>
    getNamed_values call w₁ d, rfl, getAt_list hindex hkeys,
    getAt_list hindex hvalues⟩

end World

open World in
/-- The key at a place of the key list, unless it is a character in a dictionary keyed by `any`,
reads the value at that place, is found, and removes the entry at that place. -/
theorem enumerated_key_finds_entry {d : DictRef} {w : World} (h : d.History w) {i : Nat} {key : Key}
    {item : Payload} (hi : (w.entries d).entries[i]? = some (key, item))
    (hc : d.key = .any → key.naturalType ≠ .char) {index : Value}
    (hindex : index.position = .ok (i : Int)) (depth : Nat) :
    ∃ keys values k v w₁ w₂ w₃ w₄ w₅ w₆,
      (∀ call, w.getNamed call (.dict d) "keys" = some (keys, w₁)) ∧
      (∀ call, w₁.getNamed call (.dict d) "values" = some (values, w₂)) ∧
      w₂.getAt keys index = (k, w₃) ∧ w₃.getAt values index = (v, w₄) ∧
      (w₄.getAt (.dict d) k).1.Alike v ∧
      callNamed (depth + 1) w₄ (.dict d) "contains_key" [k] = some (.bool true, w₅) ∧
      callNamed (depth + 1) w₄ (.dict d) "remove" [k] = some (.bool true, w₆) ∧
      (w₆.entries d).entries = (w.entries d).entries.eraseIdx i := by
  have ho : d.Ordered w := h.ordered
  obtain ⟨keys, values, w₁, w₂, hkeys, hvalues, hw₂, hk, hv⟩ := getAt_enumerated hi hindex
  let w₃ := (w₂.box key.toPayload).2
  let w₄ := (w₃.box item).2
  have hw₄ : w₄.entries d = w.entries d := hw₂
  have ha : w₄.Addressable d i key item :=
    { entry := by rw [hw₄]; exact hi
      distinct := by rw [hw₄]; exact ho.distinct
      admits := (ho.admits _ (List.mem_of_getElem? hi)).1
      plain := hc }
  obtain ⟨w₅, hcontains⟩ := ha.containsKey_boxed w₂ depth
  obtain ⟨w₆, hremove, herase⟩ := ha.remove_boxed w₂ depth
  refine ⟨keys, values, (w₂.box key.toPayload).1, (w₃.box item).1, w₁, w₂, w₃, w₄, w₅, w₆, hkeys,
    hvalues, hk, hv, ?_, hcontains, hremove, ?_⟩
  · rw [ha.getAt_boxed w₂]
    exact w₄.box_alike w₃ item
  · rw [herase, hw₄]

open World in
/-- With characters alone the key type is that of characters, and each finds its entry. -/
theorem enumerated_key_finds_entry_char :
    let made := newUntypedDict [(.char 'a', .int 10), (.char 'b', .null)] default
    made.1.key = .char ∧ ∃ k v w w', (w.getAt (.dict made.1) k).1.Alike v ∧
      callNamed 1 w (.dict made.1) "remove" [k] = some (.bool true, w') ∧
      (w'.entries made.1).entries = [(.char 'a', .int 10)] := by
  intro made
  have hr : made.1.History made.2 :=
    .made (.untyped [(.char 'a', .int 10), (.char 'b', .null)] default)
  have hi : (made.2.entries made.1).entries[1]? = some (.char 'b', .null) := by decide
  have hindex : (Value.int 1).position = .ok ((1 : Nat) : Int) := by decide
  obtain ⟨_, _, k, v, _, _, _, w, _, w', _, _, _, _, hv, _, hw, he⟩ :=
    enumerated_key_finds_entry hr hi (by decide) hindex 0
  exact ⟨by decide, k, v, w, w', hv, hw, he⟩

open World in
/-- Beside other keys a character does not: its text is another key. -/
theorem enumerated_char_not_found :
    let made := newUntypedDict [(.char 'a', .int 10), (.int 1, .int 20)] default
    ∃ keys values w₁ w₂, (∀ call, made.2.getNamed call (.dict made.1) "keys" = some (keys, w₁)) ∧
      (∀ call, w₁.getNamed call (.dict made.1) "values" = some (values, w₂)) ∧
      let (k, w₃) := w₂.getAt keys (.int 0)
      let (v, w₄) := w₃.getAt values (.int 0)
      v = .int 10 ∧ (w₄.getAt (.dict made.1) k).1 ≠ v ∧
        (callNamed 1 w₄ (.dict made.1) "contains_key" [k]).map (·.1) = some (.bool false) ∧
        (callNamed 1 w₄ (.dict made.1) "remove" [k]).map (·.1) = some (.bool false) := by
  intro made
  exact ⟨_, _, _, _, fun call => getNamed_keys call made.2 made.1,
    fun call => getNamed_values call (made.2.newList made.1.key [.char 'a', .int 1]).2 made.1,
    by decide⟩

end LateBound
