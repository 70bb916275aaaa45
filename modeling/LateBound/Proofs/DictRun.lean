import LateBound.Proofs.ContainerStep
/-! The runs of a dictionary. However it was made, and whatever was then written to it or called on
it, no two entries have the same key, and all keys are of the key type. -/
namespace LateBound

namespace DictRef

/-- A dictionary as the host makes it: empty, with the types its entries have, or from typed
data. -/
inductive Made : DictRef → World → Prop
  | new (key value : DeclaredType) (w : World) :
      Made (w.newDict key value ∅).1 (w.newDict key value ∅).2
  | untyped (pairs : List (Key × Payload)) (w : World) :
      Made (w.newUntypedDict pairs).1 (w.newUntypedDict pairs).2
  | fromPairs (key value : HostKind) (pairs : List (key.Carrier × value.Carrier)) (w : World) :
      Made (HostKind.newDict key value pairs w).1 (HostKind.newDict key value pairs w).2

/-- One step of a run: an operation on the dictionary, or anything that leaves it alone. -/
inductive Step (d : DictRef) (w : World) : World → Prop
  | operation {w' : World} (h : (Value.dict d).Step w w') : Step d w w'
  | elsewhere {w' : World} (hn : w.next ≤ w'.next) (he : w'.entries d = w.entries d) : Step d w w'

/-- The worlds of the runs of a dictionary. -/
inductive History (d : DictRef) : World → Prop
  | made {w : World} (h : d.Made w) : History d w
  | step {w w' : World} (h : History d w) (hs : d.Step w w') : History d w'

/-- What every run keeps: the dictionary is there, and its keys differ and are of its key type. -/
structure Ordered (d : DictRef) (w : World) : Prop where
  below : d.id < w.next
  distinct : (w.entries d).Distinct
  admits : (w.entries d).Forall d.Admits fun _ => True

variable {d : DictRef} {w w' : World}

theorem Ordered.of_entries (h : d.Ordered w) (hn : w.next ≤ w'.next)
    (he : w'.entries d = w.entries d) :
    d.Ordered w' where
  below := Nat.lt_of_lt_of_le h.below hn
  distinct := by rw [he]; exact h.distinct
  admits := by rw [he]; exact h.admits

theorem Ordered.extend (h : d.Ordered w) (hw : w.Extends w') : d.Ordered w' :=
  h.of_entries hw.next_le (hw.entries_eq d h.below)

theorem Edit.admits {m m' : Entries} (h : d.Edit m m') (hm : m.Forall d.Admits fun _ => True) :
    m'.Forall d.Admits fun _ => True := by
  cases h with
  | insert hk _ => exact hm.insert hk trivial
  | erase k => exact hm.erase k
  | clear => exact OrderedMap.forall_empty

theorem Ordered.of_write (h : d.Ordered w) (hw : d.TypedWrite w w') : d.Ordered w' := by
  obtain ⟨n, m, hn, rfl, hm⟩ := hw
  have hentries : (World.setEntries { w with next := n } d m).entries d = m := by
    rw [World.entries_setEntries, if_pos rfl]
  refine ⟨Nat.lt_of_lt_of_le h.below hn, ?_, ?_⟩
  · rw [hentries]
    exact hm.distinct h.distinct
  · rw [hentries]
    exact hm.admits h.admits

theorem ordered_newDict {key value : DeclaredType} {m : Entries} (w : World) (hd : m.Distinct)
    (hm : ∀ e ∈ m.entries, key = .any ∨ e.1.naturalType = key) :
    (w.newDict key value m).1.Ordered (w.newDict key value m).2 where
  below := Nat.lt_succ_self _
  distinct := by rw [w.entries_newDict]; exact hd
  admits := by
    rw [w.entries_newDict]
    exact fun e he => ⟨hm e he, trivial⟩

theorem Made.ordered (h : d.Made w) : d.Ordered w := by
  cases h with
  | new key value w => exact ordered_newDict w OrderedMap.distinct_empty nofun
  | untyped pairs w =>
    have hkeys : (OrderedMap.ofPairs pairs).Forall
        (fun k => DeclaredType.common (pairs.map (·.1.naturalType)) = .any ∨
          k.naturalType = DeclaredType.common (pairs.map (·.1.naturalType))) fun _ => True :=
      OrderedMap.forall_ofPairs fun e he =>
        ⟨DeclaredType.common_of_mem (List.mem_map.2 ⟨e, he, rfl⟩), trivial⟩
    exact ordered_newDict w (OrderedMap.distinct_ofPairs pairs) fun e he => (hkeys e he).1
  | fromPairs key value pairs w =>
    have hkeys : (OrderedMap.ofPairs (HostKind.dictEntries key value pairs w).1).Forall
        (fun k => key.declaredType = .any ∨ k.naturalType = key.declaredType) fun _ => True :=
      OrderedMap.forall_ofPairs fun e he => ⟨HostKind.admits_dictEntries key value pairs w e he,
        trivial⟩
    exact ordered_newDict _ (OrderedMap.distinct_ofPairs _) fun e he => (hkeys e he).1

theorem Step.ordered (hs : d.Step w w') (h : d.Ordered w) : d.Ordered w' := by
  cases hs with
  | operation hw =>
    obtain ⟨w₁, w₂, hw₁, hwrite, hw₂⟩ := hw.effect trivial
    have h₁ : d.Ordered w₁ := h.extend hw₁
    rcases hwrite with rfl | hwrite
    · exact h₁.extend hw₂
    · exact (h₁.of_write hwrite).extend hw₂
  | elsewhere hn he => exact h.of_entries hn he

theorem History.ordered (h : d.History w) : d.Ordered w := by
  induction h with
  | made h => exact h.ordered
  | step _ hs ih => exact hs.ordered ih

end DictRef

end LateBound
