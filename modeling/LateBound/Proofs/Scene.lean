import LateBound.Proofs.Conversion
import LateBound.Proofs.OrderedMap
import LateBound.World
/-! Shared lists and dictionaries that hold what their types declare. A scene is a world with
the containers in it that are followed; what holds of it survives growth of the world and
typed writes. -/
namespace LateBound

namespace World

/-- Nothing that was there has changed, and new numbers were used for what is new. -/
structure Extends (w w' : World) : Prop where
  next_le : w.next ≤ w'.next
  items_eq : ∀ l : ListRef, l.id < w.next → w'.items l = w.items l
  entries_eq : ∀ d : DictRef, d.id < w.next → w'.entries d = w.entries d

theorem Extends.refl (w : World) : w.Extends w :=
  ⟨Nat.le_refl _, fun _ _ => rfl, fun _ _ => rfl⟩

theorem Extends.trans {w w₁ w₂ : World} (h : w.Extends w₁) (h' : w₁.Extends w₂) : w.Extends w₂ where
  next_le := Nat.le_trans h.next_le h'.next_le
  items_eq l hl := by
    rw [h'.items_eq l (Nat.lt_of_lt_of_le hl h.next_le), h.items_eq l hl]
  entries_eq d hd := by
    rw [h'.entries_eq d (Nat.lt_of_lt_of_le hd h.next_le), h.entries_eq d hd]

theorem extends_advance {w : World} {n : Nat} (h : w.next ≤ n) : w.Extends { w with next := n } :=
  ⟨h, fun _ _ => rfl, fun _ _ => rfl⟩

theorem extends_newText (w : World) (s : String) : w.Extends (w.newText s).2 :=
  extends_advance (Nat.le_succ _)

theorem extends_box (w : World) (p : Payload) : w.Extends (w.box p).2 :=
  extends_advance (Value.ofPayload_next_le w.next p)

theorem extends_newList (w : World) (t : DeclaredType) (ps : List Payload) :
    w.Extends (w.newList t ps).2 where
  next_le := Nat.le_succ _
  items_eq l hl := by
    simp only [newList, fresh, items_setItems]
    rw [if_neg (Nat.ne_of_gt hl)]
    rfl
  entries_eq _ _ := rfl

theorem extends_newDict (w : World) (key value : DeclaredType) (m : Entries) :
    w.Extends (w.newDict key value m).2 where
  next_le := Nat.le_succ _
  items_eq _ _ := rfl
  entries_eq d hd := by
    simp only [newDict, fresh, entries_setEntries]
    rw [if_neg (Nat.ne_of_gt hd)]
    rfl

/-- Nothing is different but for numbers and containers that have joined the world. -/
structure Grows (w w' : World) : Prop where
  extended : w.Extends w'
  object_eq : ∀ o : ObjectRef, w'.object o = w.object o
  statics_eq : w'.statics = w.statics
  catalogs_eq : w'.catalogs = w.catalogs
  functions_eq : w'.functions = w.functions

theorem Grows.refl (w : World) : w.Grows w := ⟨.refl w, fun _ => rfl, rfl, rfl, rfl⟩

theorem Grows.trans {w w₁ w₂ : World} (h : w.Grows w₁) (h' : w₁.Grows w₂) : w.Grows w₂ where
  extended := h.extended.trans h'.extended
  object_eq o := (h'.object_eq o).trans (h.object_eq o)
  statics_eq := h'.statics_eq.trans h.statics_eq
  catalogs_eq := h'.catalogs_eq.trans h.catalogs_eq
  functions_eq := h'.functions_eq.trans h.functions_eq

theorem grows_advance {w : World} {n : Nat} (h : w.next ≤ n) : w.Grows { w with next := n } :=
  ⟨extends_advance h, fun _ => rfl, rfl, rfl, rfl⟩

theorem grows_newText (w : World) (s : String) : w.Grows (w.newText s).2 :=
  grows_advance (Nat.le_succ _)

theorem grows_box (w : World) (p : Payload) : w.Grows (w.box p).2 :=
  grows_advance (Value.ofPayload_next_le w.next p)

theorem grows_newList (w : World) (t : DeclaredType) (ps : List Payload) :
    w.Grows (w.newList t ps).2 :=
  ⟨w.extends_newList t ps, fun _ => rfl, rfl, rfl, rfl⟩

theorem items_newList (w : World) (t : DeclaredType) (ps : List Payload) :
    (w.newList t ps).2.items (w.newList t ps).1 = ps := by
  simp [newList, fresh, items_setItems]

theorem entries_newDict (w : World) (key value : DeclaredType) (m : Entries) :
    (w.newDict key value m).2.entries (w.newDict key value m).1 = m := by
  simp [newDict, fresh, entries_setEntries]

end World

theorem DeclaredType.common_of_mem {t : DeclaredType} {ts : List DeclaredType} (h : t ∈ ts) :
    common ts = .any ∨ t = common ts := by
  cases ts with
  | nil => exact absurd h List.not_mem_nil
  | cons u rest =>
    by_cases hu : rest.all (· == u) = true
    · rw [common, if_pos hu]
      rcases List.mem_cons.1 h with rfl | h
      · exact .inr rfl
      · exact .inr (beq_iff_eq.1 (List.all_eq_true.1 hu t h))
    · rw [common, if_neg hu]
      exact .inl rfl

theorem Payload.inhabits_commonType {p : Payload} {ps : List Payload} (h : p ∈ ps) :
    p.Inhabits (commonType ps) := by
  by_cases hp : p.isNull = true
  · obtain rfl : p = .null := by cases p <;> simp_all [isNull]
    exact inhabits_null _
  · have hm : p.naturalType ∈ (ps.filter (!·.isNull)).map naturalType :=
      List.mem_map_of_mem (List.mem_filter.2 ⟨h, by simp [hp]⟩)
    rcases DeclaredType.common_of_mem hm with ht | ht
    · rw [commonType, ht]
      exact inhabits_any p
    · exact inhabits_of_naturalType ht

def ListRef.Typed (w : World) (l : ListRef) : Prop := ∀ p ∈ w.items l, p.Inhabits l.element

namespace DictRef

/-- A key may stand in a dictionary of its natural type, or of `any`. -/
def Admits (d : DictRef) (k : Key) : Prop := d.key = .any ∨ k.naturalType = d.key

def Typed (w : World) (d : DictRef) : Prop :=
  (w.entries d).Forall d.Admits (·.Inhabits d.value)

end DictRef

/-- A world, and the shared lists and dictionaries in it that are followed. -/
structure Scene where
  world : World
  lists : List ListRef
  dicts : List DictRef

theorem injective_cons {α : Type} {f : α → Nat} {x : α} {xs : List α} (hx : ∀ y ∈ xs, f y ≠ f x)
    (h : ∀ y ∈ xs, ∀ z ∈ xs, f y = f z → y = z) :
    ∀ y ∈ x :: xs, ∀ z ∈ x :: xs, f y = f z → y = z := by
  intro y hy z hz he
  rcases List.mem_cons.1 hy with rfl | hy' <;> rcases List.mem_cons.1 hz with rfl | hz'
  · rfl
  · exact absurd he.symm (hx z hz')
  · exact absurd he (hx y hy')
  · exact h y hy' z hz' he

namespace Scene

/-- The containers followed are there, are told apart by their numbers, and hold what their types
declare. -/
structure Sound (s : Scene) : Prop where
  lists_below : ∀ l ∈ s.lists, l.id < s.world.next
  dicts_below : ∀ d ∈ s.dicts, d.id < s.world.next
  lists_inj : ∀ l ∈ s.lists, ∀ l' ∈ s.lists, l.id = l'.id → l = l'
  dicts_inj : ∀ d ∈ s.dicts, ∀ d' ∈ s.dicts, d.id = d'.id → d = d'
  lists_typed : ∀ l ∈ s.lists, l.Typed s.world
  dicts_typed : ∀ d ∈ s.dicts, d.Typed s.world
  keys_distinct : ∀ d ∈ s.dicts, (s.world.entries d).Distinct

variable {w w' : World} {ls ls' : List ListRef} {ds : List DictRef}

theorem sound_nil (w : World) : Sound ⟨w, [], []⟩ := by
  constructor <;> intro _ h <;> exact absurd h List.not_mem_nil

theorem Sound.of_subset (h : Sound ⟨w, ls, ds⟩) (hl : ∀ l ∈ ls', l ∈ ls) : Sound ⟨w, ls', ds⟩ where
  lists_below l hm := h.lists_below l (hl l hm)
  dicts_below := h.dicts_below
  lists_inj l hm l' hm' := h.lists_inj l (hl l hm) l' (hl l' hm')
  dicts_inj := h.dicts_inj
  lists_typed l hm := h.lists_typed l (hl l hm)
  dicts_typed := h.dicts_typed
  keys_distinct := h.keys_distinct

/-- Whatever happens elsewhere, a scene whose containers keep their contents stays sound. -/
theorem Sound.of_kept (h : Sound ⟨w, ls, ds⟩) (hn : w.next ≤ w'.next)
    (hl : ∀ l ∈ ls, w'.items l = w.items l) (hd : ∀ d ∈ ds, w'.entries d = w.entries d) :
    Sound ⟨w', ls, ds⟩ where
  lists_below l hm := Nat.lt_of_lt_of_le (h.lists_below l hm) hn
  dicts_below d hm := Nat.lt_of_lt_of_le (h.dicts_below d hm) hn
  lists_inj := h.lists_inj
  dicts_inj := h.dicts_inj
  lists_typed l hm := by
    rw [ListRef.Typed, hl l hm]
    exact h.lists_typed l hm
  dicts_typed d hm := by
    rw [DictRef.Typed, hd d hm]
    exact h.dicts_typed d hm
  keys_distinct d hm := by
    rw [hd d hm]
    exact h.keys_distinct d hm

theorem Sound.extend (h : Sound ⟨w, ls, ds⟩) (hw : w.Extends w') : Sound ⟨w', ls, ds⟩ :=
  h.of_kept hw.next_le (fun l hl => hw.items_eq l (h.lists_below l hl))
    fun d hd => hw.entries_eq d (h.dicts_below d hd)

theorem Sound.newList (h : Sound ⟨w, ls, ds⟩) {t : DeclaredType} {ps : List Payload}
    (hp : ∀ p ∈ ps, p.Inhabits t) :
    Sound ⟨(w.newList t ps).2, (w.newList t ps).1 :: ls, ds⟩ := by
  have hs := h.extend (w.extends_newList t ps)
  have hnew : ∀ l ∈ ls, l.id ≠ (w.newList t ps).1.id := fun l hl =>
    Nat.ne_of_lt (h.lists_below l hl)
  refine ⟨?_, hs.dicts_below, injective_cons hnew hs.lists_inj, hs.dicts_inj, ?_, hs.dicts_typed,
    hs.keys_distinct⟩
  · exact List.forall_mem_cons.2 ⟨Nat.lt_succ_self _, hs.lists_below⟩
  · refine List.forall_mem_cons.2 ⟨?_, hs.lists_typed⟩
    rw [ListRef.Typed, w.items_newList]
    exact hp

theorem Sound.newDict (h : Sound ⟨w, ls, ds⟩) {key value : DeclaredType} {m : Entries}
    (hm : m.Forall (DictRef.Admits ⟨w.next, key, value⟩) (·.Inhabits value)) (hd : m.Distinct) :
    Sound ⟨(w.newDict key value m).2, ls, (w.newDict key value m).1 :: ds⟩ := by
  have hs := h.extend (w.extends_newDict key value m)
  have hnew : ∀ d ∈ ds, d.id ≠ (w.newDict key value m).1.id :=
    fun d hd => Nat.ne_of_lt (h.dicts_below d hd)
  refine ⟨hs.lists_below, ?_, hs.lists_inj, injective_cons hnew hs.dicts_inj, hs.lists_typed, ?_,
    ?_⟩
  · exact List.forall_mem_cons.2 ⟨Nat.lt_succ_self _, hs.dicts_below⟩
  · refine List.forall_mem_cons.2 ⟨?_, hs.dicts_typed⟩
    rw [DictRef.Typed, w.entries_newDict]
    exact hm
  · refine List.forall_mem_cons.2 ⟨?_, hs.keys_distinct⟩
    rw [w.entries_newDict]
    exact hd

theorem Sound.newUntypedList (h : Sound ⟨w, ls, ds⟩) (ps : List Payload) :
    Sound ⟨(w.newUntypedList ps).2, (w.newUntypedList ps).1 :: ls, ds⟩ :=
  h.newList fun _ hp => Payload.inhabits_commonType hp

theorem Sound.newUntypedDict (h : Sound ⟨w, ls, ds⟩) (pairs : List (Key × Payload)) :
    Sound ⟨(w.newUntypedDict pairs).2, ls, (w.newUntypedDict pairs).1 :: ds⟩ := by
  refine h.newDict (OrderedMap.forall_ofPairs fun e he => ⟨?_, ?_⟩)
    (OrderedMap.distinct_ofPairs pairs)
  · exact DeclaredType.common_of_mem (List.mem_map.2 ⟨e, he, rfl⟩)
  · exact Payload.inhabits_commonType (List.mem_map_of_mem he)

theorem Sound.setItems (h : Sound ⟨w, ls, ds⟩) {l : ListRef} (hl : l ∈ ls) {ps : List Payload}
    (hp : ∀ p ∈ ps, p.Inhabits l.element) : Sound ⟨w.setItems l ps, ls, ds⟩ where
  lists_below := h.lists_below
  dicts_below := h.dicts_below
  lists_inj := h.lists_inj
  dicts_inj := h.dicts_inj
  lists_typed l' hl' := by
    rw [ListRef.Typed, World.items_setItems]
    split
    · rename_i he
      rwa [← h.lists_inj l hl l' hl' he]
    · exact h.lists_typed l' hl'
  dicts_typed := h.dicts_typed
  keys_distinct := h.keys_distinct

theorem Sound.setEntries (h : Sound ⟨w, ls, ds⟩) {d : DictRef} (hd : d ∈ ds) {m : Entries}
    (hm : m.Forall d.Admits (·.Inhabits d.value)) (hk : m.Distinct) :
    Sound ⟨w.setEntries d m, ls, ds⟩ where
  lists_below := h.lists_below
  dicts_below := h.dicts_below
  lists_inj := h.lists_inj
  dicts_inj := h.dicts_inj
  lists_typed := h.lists_typed
  dicts_typed d' hd' := by
    rw [DictRef.Typed, World.entries_setEntries]
    split
    · rename_i he
      rwa [← h.dicts_inj d hd d' hd' he]
    · exact h.dicts_typed d' hd'
  keys_distinct d' hd' := by
    rw [World.entries_setEntries]
    split
    · exact hk
    · exact h.keys_distinct d' hd'

end Scene

end LateBound
