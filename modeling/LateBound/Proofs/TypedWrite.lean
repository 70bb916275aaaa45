import Mathlib.Data.List.InsertIdx
import LateBound.BuiltinMembers
import LateBound.Index
import LateBound.Proofs.HostData
/-! Writes of the evaluator to lists and dictionaries. Indexed writes and the methods of the
built-in kinds convert before they store, so a container takes in only what inhabits its types. -/
namespace LateBound

theorem bind_eq_ok_iff {ε α β : Type} {x : Except ε α} {f : α → Except ε β} {b : β} :
    x >>= f = .ok b ↔ ∃ a, x = .ok a ∧ f a = .ok b := by
  cases x <;> simp [bind, Except.bind]

namespace Key

theorem ofPayload?_eq_some_iff {p : Payload} {k : Key} :
    ofPayload? p = some k ↔ p = k.toPayload := by
  constructor
  · intro h
    cases p <;> simp only [ofPayload?, reduceCtorEq, Option.some.injEq] at h <;> subst h <;> rfl
  · rintro rfl
    exact ofPayload?_toPayload k

theorem inhabits_toPayload {k : Key} {t : DeclaredType} (h : k.toPayload.Inhabits t) :
    t = .any ∨ k.naturalType = t := by
  rcases h with h | h | h | ⟨l, h, _⟩ | ⟨d, _, _, h, _⟩
  · cases k <;> simp [toPayload] at h
  · exact .inl h
  · exact .inr (by rwa [naturalType_toPayload] at h)
  · cases k <;> simp [toPayload] at h
  · cases k <;> simp [toPayload] at h

end Key

namespace ListRef

/-- At most the numbers in use and the items of the list differ, and an item is an old one or
inhabits the element type. -/
def TypedWrite (l : ListRef) (w w' : World) : Prop :=
  ∃ (n : Nat) (ps : List Payload), w.next ≤ n ∧ w' = World.setItems { w with next := n } l ps ∧
    ∀ p ∈ ps, p ∈ w.items l ∨ p.Inhabits l.element

theorem storable_eq_ok {l : ListRef} {next : Nat} {item : Payload} {c : Conversion}
    (h : l.storable next item = .ok c) : item.convert next l.element = some c := by
  unfold storable at h
  split at h
  · rename_i hc
    rw [hc, Except.ok.inj h]
  · contradiction

end ListRef

namespace DictRef

/-- What writes make of the entries: one more or one changed, one less, or none left. -/
inductive Edit (d : DictRef) (m : Entries) : Entries → Prop
  | insert {k : Key} {p : Payload} (hk : d.Admits k) (hp : p.Inhabits d.value) :
      Edit d m (m.insert k p)
  | erase (k : Key) : Edit d m (m.erase k)
  | clear : Edit d m ∅

theorem Edit.typed {d : DictRef} {m m' : Entries} (h : d.Edit m m')
    (hm : m.Forall d.Admits (·.Inhabits d.value)) : m'.Forall d.Admits (·.Inhabits d.value) := by
  cases h with
  | insert hk hp => exact hm.insert hk hp
  | erase k => exact hm.erase k
  | clear => exact OrderedMap.forall_empty

theorem Edit.distinct {d : DictRef} {m m' : Entries} (h : d.Edit m m') (hm : m.Distinct) :
    m'.Distinct := by
  cases h with
  | insert _ _ => exact hm.insert
  | erase k => exact hm.erase k
  | clear => exact OrderedMap.distinct_empty

/-- At most the numbers in use and the entries of the dictionary differ, the entries by an edit. -/
def TypedWrite (d : DictRef) (w w' : World) : Prop :=
  ∃ (n : Nat) (m : Entries), w.next ≤ n ∧ w' = World.setEntries { w with next := n } d m ∧
    d.Edit (w.entries d) m

theorem key?_eq_some {d : DictRef} {next n : Nat} {p : Payload} {k : Key}
    (h : d.key? next p = some (k, n)) : d.Admits k ∧ next ≤ n := by
  obtain ⟨c, hc, h⟩ := Option.bind_eq_some_iff.1 h
  obtain ⟨k', hk, he⟩ := Option.map_eq_some_iff.1 h
  obtain ⟨rfl, rfl⟩ := Prod.mk.inj he
  have hp : k'.toPayload.Inhabits d.key := by
    rw [← Key.ofPayload?_eq_some_iff.1 hk]
    exact Payload.convert_inhabits hc
  exact ⟨Key.inhabits_toPayload hp, Payload.convert_next_le hc⟩

end DictRef

namespace Scene

variable {w w' : World} {ls : List ListRef} {ds : List DictRef}

theorem Sound.of_listWrite (h : Sound ⟨w, ls, ds⟩) {l : ListRef} (hl : l ∈ ls)
    (hw : l.TypedWrite w w') : Sound ⟨w', ls, ds⟩ := by
  obtain ⟨n, ps, hn, rfl, hps⟩ := hw
  refine (h.extend (World.extends_advance hn)).setItems hl fun p hp => ?_
  rcases hps p hp with hold | hnew
  · exact h.lists_typed l hl p hold
  · exact hnew

theorem Sound.of_dictWrite (h : Sound ⟨w, ls, ds⟩) {d : DictRef} (hd : d ∈ ds)
    (hw : d.TypedWrite w w') : Sound ⟨w', ls, ds⟩ := by
  obtain ⟨n, m, hn, rfl, hm⟩ := hw
  exact (h.extend (World.extends_advance hn)).setEntries hd (hm.typed (h.dicts_typed d hd))
    (hm.distinct (h.keys_distinct d hd))

end Scene

namespace World

theorem setListItem?_typed {w w' : World} {l : ListRef} {index v : Value}
    (h : w.setListItem? l index v = some w') : l.TypedWrite w w' := by
  unfold setListItem? at h
  split at h
  · contradiction
  · split at h
    · contradiction
    · rename_i i _
      obtain ⟨c, hc, h⟩ := Option.bind_eq_some_iff.1 h
      obtain ⟨_, h⟩ := Option.ite_none_right_eq_some.1 h
      refine ⟨c.next, _, Value.coerce_next_le hc, (Option.some.inj h).symm, fun p hp => ?_⟩
      rcases List.mem_or_eq_of_mem_set hp with hold | rfl
      · exact .inl hold
      · exact .inr (Value.coerce_inhabits hc)

theorem setEntry?_typed {w w' : World} {d : DictRef} {key v : Value}
    (h : w.setEntry? d key v = some w') : d.TypedWrite w w' := by
  unfold setEntry? at h
  split at h
  · contradiction
  · obtain ⟨⟨k, n⟩, hk, h⟩ := Option.bind_eq_some_iff.1 h
    obtain ⟨c, hc, rfl⟩ := Option.map_eq_some_iff.1 h
    obtain ⟨hadmits, hn⟩ := DictRef.key?_eq_some hk
    have hkey := key.payload_next_le w.next
    have hnext := Value.coerce_next_le hc
    exact ⟨c.next, _, Nat.le_trans hkey (Nat.le_trans hn hnext), rfl,
      .insert hadmits (Value.coerce_inhabits hc)⟩

end World

theorem ListMethod.run_typed {m : ListMethod} {l : ListRef} {args : List Payload} {w w' : World}
    {p : Payload} (h : m.run l args w = .ok (p, w')) : w' = w ∨ l.TypedWrite w w' := by
  cases m with
  | add =>
    obtain ⟨item, _, h⟩ := bind_eq_ok_iff.1 h
    obtain ⟨c, hc, h⟩ := bind_eq_ok_iff.1 h
    obtain ⟨_, rfl⟩ := Prod.mk.inj (Except.ok.inj h)
    have hc := ListRef.storable_eq_ok hc
    refine .inr ⟨c.next, _, Payload.convert_next_le hc, rfl, fun q hq => ?_⟩
    rcases List.mem_append.1 hq with hold | hnew
    · exact .inl hold
    · obtain rfl := List.mem_singleton.1 hnew
      exact .inr (Payload.convert_inhabits hc)
  | insert =>
    obtain ⟨index, _, h⟩ := bind_eq_ok_iff.1 h
    obtain ⟨item, _, h⟩ := bind_eq_ok_iff.1 h
    obtain ⟨c, hc, h⟩ := bind_eq_ok_iff.1 h
    have hc := ListRef.storable_eq_ok hc
    split at h
    · rename_i w₁ hw
      obtain ⟨_, rfl⟩ := Prod.mk.inj (Except.ok.inj h)
      obtain ⟨_, hw⟩ := Option.ite_none_right_eq_some.1 hw
      refine .inr ⟨c.next, _, Payload.convert_next_le hc, (Option.some.inj hw).symm, fun q hq => ?_⟩
      rcases List.eq_or_mem_of_mem_insertIdx hq with rfl | hold
      · exact .inr (Payload.convert_inhabits hc)
      · exact .inl hold
    · contradiction
  | removeAt =>
    obtain ⟨index, _, h⟩ := bind_eq_ok_iff.1 h
    split at h
    · rename_i q w₁ hw
      obtain ⟨_, rfl⟩ := Prod.mk.inj (Except.ok.inj h)
      obtain ⟨_, hw⟩ := Option.ite_none_right_eq_some.1 hw
      obtain ⟨_, _, he⟩ := Option.map_eq_some_iff.1 hw
      obtain ⟨_, rfl⟩ := Prod.mk.inj he
      exact .inr ⟨w.next, _, Nat.le_refl _, rfl, fun q hq => .inl (List.mem_of_mem_eraseIdx hq)⟩
    · contradiction
  | contains =>
    obtain ⟨item, _, h⟩ := bind_eq_ok_iff.1 h
    exact .inl (Prod.mk.inj (Except.ok.inj h)).2.symm
  | indexOf =>
    obtain ⟨item, _, h⟩ := bind_eq_ok_iff.1 h
    exact .inl (Prod.mk.inj (Except.ok.inj h)).2.symm
  | clear =>
    obtain ⟨_, rfl⟩ := Prod.mk.inj (Except.ok.inj h)
    exact .inr ⟨w.next, [], Nat.le_refl _, rfl, fun q hq => absurd hq List.not_mem_nil⟩

theorem DictMethod.run_typed {m : DictMethod} {d : DictRef} {args : List Payload} {w w' : World}
    {p : Payload} (h : m.run d args w = .ok (p, w')) : w' = w ∨ d.TypedWrite w w' := by
  cases m with
  | containsKey =>
    obtain ⟨key, _, h⟩ := bind_eq_ok_iff.1 h
    exact .inl (Prod.mk.inj (Except.ok.inj h)).2.symm
  | remove =>
    obtain ⟨key, _, h⟩ := bind_eq_ok_iff.1 h
    split at h
    · rename_i q w₁ hw
      obtain ⟨_, rfl⟩ := Prod.mk.inj (Except.ok.inj h)
      obtain ⟨k, _, hw⟩ := Option.bind_eq_some_iff.1 hw
      obtain ⟨_, _, he⟩ := Option.map_eq_some_iff.1 hw
      obtain ⟨_, rfl⟩ := Prod.mk.inj he
      exact .inr ⟨w.next, _, Nat.le_refl _, rfl, .erase k.1⟩
    · exact .inl (Prod.mk.inj (Except.ok.inj h)).2.symm
  | get =>
    obtain ⟨key, _, h⟩ := bind_eq_ok_iff.1 h
    obtain ⟨fallback, _, h⟩ := bind_eq_ok_iff.1 h
    exact .inl (Prod.mk.inj (Except.ok.inj h)).2.symm
  | clear =>
    obtain ⟨_, rfl⟩ := Prod.mk.inj (Except.ok.inj h)
    exact .inr ⟨w.next, ∅, Nat.le_refl _, rfl, .clear⟩

end LateBound
