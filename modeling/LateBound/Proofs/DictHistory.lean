import LateBound.Proofs.DictLookup
/-! Writes in the runs of a dictionary. A write goes to the place of the key it addresses, or goes
last; removing takes one entry out; a write that is not made changes nothing. -/
namespace LateBound

namespace Key

@[simp] theorem bare_bare (k : Key) : k.bare.bare = k.bare := by
  cases k <;> rfl

end Key

namespace DictRef

variable {d : DictRef} {w w' : World}

theorem Ordered.wellKeyed (h : d.Ordered w) : d.WellKeyed w := by
  intro k hk
  obtain ⟨e, he, rfl⟩ := List.mem_map.1 hk
  exact (h.admits e he).1

theorem address?_eq_bare {v : Value} {a : Key} (h : d.address? v = some a) : a.bare = a := by
  obtain ⟨k, -, rfl⟩ := Option.map_eq_some_iff.1 h
  exact k.1.bare_bare

theorem Ordered.place?_eq_some_iff (h : d.Ordered w) {v : Value} {i : Nat} :
    w.place? d v = some i ↔ ∃ e, (w.entries d).entries[i]? = some e ∧
    d.address? v = some e.1.bare := by
  constructor
  · intro hplace
    obtain ⟨a, ha, hi⟩ := Option.bind_eq_some_iff.1 hplace
    obtain ⟨hlt, hsame, -⟩ := List.findIdx?_eq_some_iff_getElem.1 hi
    refine ⟨_, List.getElem?_eq_getElem hlt, ?_⟩
    rw [ha, (Key.beq_iff_bare _ a).1 hsame, address?_eq_bare ha]
  · rintro ⟨e, he, ha⟩
    have hsame : e.1 == e.1.bare := (Key.beq_iff_bare _ _).2 e.1.bare_bare.symm
    rw [World.place?, ha]
    exact h.distinct.place?_of_getElem? he hsame

/-- What a write of an item under a key comes to. -/
structure Wrote (d : DictRef) (w w' : World) (k : Key) (item : Payload) : Prop where
  entries : (w'.entries d).entries =
    match (w.entries d).place? k with
    | some i => (w.entries d).entries.modify i fun e => (e.1, item)
    | none => (w.entries d).entries ++ [(k, item)]
  reads : ∀ key, d.address? key = some k.bare → w'.getAt (.dict d) key = w'.box item
  kept : ∀ key, key.isError = false → d.address? key ≠ some k.bare →
    w.getAt (.dict d) key = w.readAs key (w.stored? d key) ∧
      w'.getAt (.dict d) key = w'.readAs key (w.stored? d key)

end DictRef

namespace World

variable {d : DictRef} {w w' : World} {key v : Value}

theorem setEntry?_eq_some (h : w.setEntry? d key v = some w') :
    ∃ k n c, d.address? key = some k.bare ∧ w.next ≤ n ∧ v.coerce n d.value = some c ∧
      w' = World.insertEntry { w with next := c.next } d k c.payload := by
  unfold setEntry? at h
  split at h
  · contradiction
  · obtain ⟨⟨k, n⟩, hk, h⟩ := Option.bind_eq_some_iff.1 h
    obtain ⟨c, hc, rfl⟩ := Option.map_eq_some_iff.1 h
    have hk : d.key? (key.payload w.next).2 (key.payload w.next).1 = some (k, n) := hk
    have haddress := d.map_bare_key?_payload w.next (key.payload w.next).2 key
    rw [hk] at haddress
    have hn := (DictRef.key?_eq_some hk).2
    exact ⟨k, n, c, haddress.symm, Nat.le_trans (key.payload_next_le w.next) hn, hc, rfl⟩

/-- A write is made exactly when neither operand is an error and both convert. -/
theorem isSome_setEntry? (w : World) (d : DictRef) (key v : Value) :
    (w.setEntry? d key v).isSome = true ↔ key.isError = false ∧ v.isError = false ∧
      (d.address? key).isSome = true ∧ (v.coerce w.next d.value).isSome = true := by
  unfold setEntry?
  cases hkey : key.isError with
  | true => simp
  | false =>
    cases hv : v.isError with
    | true => simp
    | false =>
      cases ha : d.address? key with
      | none =>
        have hk := DictRef.key?_of_address?_none ha w.next (key.payload w.next).2
        simp [hk]
      | some a =>
        obtain ⟨k, n, hk, -⟩ := DictRef.key?_of_address? ha w.next (key.payload w.next).2
        simp [hk, Value.isSome_coerce n w.next v]

theorem wrote_insertEntry (h : d.Ordered w) {k : Key} {item : Payload} {n : Nat}
    (h' : d.Ordered (World.insertEntry { w with next := n } d k item)) :
    d.Wrote w (World.insertEntry { w with next := n } d k item) k item := by
  have hentries : (World.insertEntry { w with next := n } d k item).entries d =
      (w.entries d).insert k item := by
    rw [insertEntry, entries_setEntries, if_pos rfl]
    rfl
  have hstored (u : Value) : (World.insertEntry { w with next := n } d k item).stored? d u =
      if d.address? u = some k.bare then some item else w.stored? d u := by
    rw [stored?_eq_bind_get?, stored?_eq_bind_get?, hentries]
    cases ha : d.address? u with
    | none => simp
    | some a =>
      have hsame : (k == a) = true ↔ a = k.bare := by
        rw [Key.beq_iff_bare, DictRef.address?_eq_bare ha, eq_comm]
      simp only [Option.bind_some, OrderedMap.get?_insert, hsame, Option.some.injEq]
  refine ⟨?_, ?_, ?_⟩
  · rw [hentries]
    exact (w.entries d).entries_insert k item
  · intro u hu
    rw [getAt_dict h'.wellKeyed (DictRef.isError_of_address? hu), hstored, if_pos hu]
    rfl
  · intro u hu hne
    refine ⟨getAt_dict h.wellKeyed hu, ?_⟩
    rw [getAt_dict h'.wellKeyed hu, hstored, if_neg hne]

theorem setAt_dict_true (h : d.Ordered w) (hw : w.setAt (.dict d) key v = (true, w')) :
    ∃ k n c, d.address? key = some k.bare ∧ w.next ≤ n ∧ v.coerce n d.value = some c ∧
      d.Wrote w w' k c.payload := by
  have h' : d.Ordered (w.setAt (.dict d) key v).2 :=
    (DictRef.Step.operation (.setAt key v)).ordered h
  rw [hw] at h'
  unfold setAt at hw
  dsimp only at hw
  cases hset : w.setEntry? d key v with
  | none => simp [hset] at hw
  | some w₁ =>
    obtain rfl : w₁ = w' := by simpa [hset] using hw
    obtain ⟨k, n, c, ha, hn, hc, rfl⟩ := setEntry?_eq_some hset
    exact ⟨k, n, c, ha, hn, hc, wrote_insertEntry h h'⟩

theorem setAt_dict_false (hw : w.setAt (.dict d) key v = (false, w')) : w' = w := by
  unfold setAt at hw
  dsimp only at hw
  cases hset : w.setEntry? d key v with
  | none => simpa [hset] using hw.symm
  | some w₁ => simp [hset] at hw

theorem setAt_dict_written (w : World) (d : DictRef) (key v : Value) :
    (w.setAt (.dict d) key v).1 = (w.setEntry? d key v).isSome := by
  unfold setAt
  dsimp only
  cases w.setEntry? d key v <;> rfl

theorem callNamed_clear (w : World) (d : DictRef) (depth : Nat) :
    callNamed (depth + 1) w (.dict d) "clear" [] = some (.void, w.setEntries d ∅) :=
  callNamed_dictMethod d .clear rfl rfl depth

end World

open World in
/-- In every run the keys differ, and a key has the place of the entry it addresses. A write that is
made goes to that place or last, is read by every key that addresses it and by no other; one that is
not made, which is one with an error or a part that does not convert, changes nothing. Removing
takes out the entry at the place of the key, clearing all. -/
theorem dict_history_ordered {d : DictRef} {w : World} (h : d.History w) (depth : Nat) :
    (w.entries d).Distinct ∧
    (∀ key i, w.place? d key = some i ↔
      ∃ e, (w.entries d).entries[i]? = some e ∧ d.address? key = some e.1.bare) ∧
    (∀ key v w', w.setAt (.dict d) key v = (true, w') →
      ∃ k n c, d.address? key = some k.bare ∧ w.next ≤ n ∧ v.coerce n d.value = some c ∧
        d.Wrote w w' k c.payload) ∧
    (∀ key v, (w.setAt (.dict d) key v).1 = true ↔ key.isError = false ∧ v.isError = false ∧
      (d.address? key).isSome = true ∧ (v.coerce w.next d.value).isSome = true) ∧
    (∀ key v w', w.setAt (.dict d) key v = (false, w') → w' = w) ∧
    (∀ key, key.isError = false →
      ∃ w', callNamed (depth + 1) w (.dict d) "remove" [key] =
        some (.bool (w.place? d key).isSome, w') ∧
        (w'.entries d).entries =
          match w.place? d key with
          | some i => (w.entries d).entries.eraseIdx i
          | none => (w.entries d).entries) ∧
    (∀ e, callNamed (depth + 1) w (.dict d) "remove" [.error e] = some (.error e, w)) ∧
    ∃ w', callNamed (depth + 1) w (.dict d) "clear" [] = some (.void, w') ∧ w'.entries d = ∅ := by
  have ho := h.ordered
  refine ⟨ho.distinct, fun key i => ho.place?_eq_some_iff, fun key v w' => setAt_dict_true ho,
    fun key v => ?_, fun key v w' => setAt_dict_false, fun key hkey =>
      w.callNamed_remove_place d hkey depth,
    fun e => ?_, ?_⟩
  · rw [setAt_dict_written]
    exact w.isSome_setEntry? d key v
  · have hs : BuiltinKind.instanceMethod "remove"
      [{ name := "key", type := .any }] .bool (.dict .remove) ∈
        BuiltinKind.dictMethods := by simp [BuiltinKind.dictMethods]
    exact w.callNamed_error_argument d hs rfl depth
  · exact ⟨_, w.callNamed_clear d depth, by rw [entries_setEntries, if_pos rfl]⟩

open World in
/-- A text writes to the entry of the integer it converts to, which keeps its place. -/
theorem dict_history_ordered_alias :
    let made := newUntypedDict [(.int 3, .bool true), (.int 5, .null)] default
    let d := made.1
    let w := (made.2.setAt (.dict d) (.text ⟨9, " 3"⟩) (.text ⟨8, "FALSE"⟩)).2
    d.History w ∧ (w.entries d).entries = [(.int 3, .bool false), (.int 5, .null)] ∧
      w.getAt (.dict d) (.int 3) = w.box (.bool false) ∧
      ∃ w', callNamed 1 w (.dict d) "remove" [.text ⟨7, "5"⟩] = some (.bool true, w') ∧
        (w'.entries d).entries = [(.int 3, .bool false)] := by
  intro made d w
  have hmade : d.History made.2 := .made (.untyped [(.int 3, .bool true), (.int 5, .null)] default)
  have hw : d.History w := hmade.step (.operation (.setAt (.text ⟨9, " 3"⟩) (.text ⟨8, "FALSE"⟩)))
  have hset : made.2.setAt (.dict d) (.text ⟨9, " 3"⟩) (.text ⟨8, "FALSE"⟩) = (true, w) :=
    Prod.ext (by decide) rfl
  obtain ⟨k, n, c, hk, -, hc, hwrote⟩ := (dict_history_ordered hmade 0).2.2.1 _ _ _ hset
  have hkey : d.address? (.int 3) = some k.bare := by
    rw [← hk]
    decide
  have hitem : c.payload = .bool false := by
    have hconv : (Value.text ⟨8, "FALSE"⟩).coerce n d.value = some ⟨.bool false, 2, n⟩ := rfl
    obtain rfl := Option.some.inj (hconv.symm.trans hc)
    rfl
  have hread := hwrote.reads (.int 3) hkey
  rw [hitem] at hread
  obtain ⟨w', hremove, hentries⟩ := (dict_history_ordered hw 0).2.2.2.2.2.1 (.text ⟨7, "5"⟩) rfl
  have hplace : w.place? d (.text ⟨7, "5"⟩) = some 1 := by decide
  rw [hplace] at hremove hentries
  exact ⟨hw, by decide, hread, w', hremove, hentries⟩

end LateBound
