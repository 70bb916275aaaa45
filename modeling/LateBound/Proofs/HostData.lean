import Mathlib.Data.List.Basic
import LateBound.Host.Exchange
import LateBound.Proofs.Scene
/-! Containers made of host data. Integers within 64 signed bits leave the host as integers, so what
is written inhabits the type it was declared with, at every depth of nesting. -/
namespace LateBound

namespace Integer64

def Fits (n : Int) : Prop := Int64.minValue.toInt ≤ n ∧ n ≤ Int64.maxValue.toInt

theorem ofInt?_of_fits {n : Int} (h : Fits n) : ofInt? n = some (Int64.ofInt n) := if_pos h

end Integer64

namespace HostKind

open Scene

/-- The integers among the data, at any depth, are within 64 signed bits. -/
def Within : (k : HostKind) → k.Carrier → Prop
  | .integer _, n => Integer64.Fits n.1
  | .sequence item, xs => ∀ x ∈ xs, item.Within x
  | .optional item, x => ∀ y ∈ x, item.Within y
  | _, _ => True

/-- The lists that data of a kind was written to, the outer one first. -/
def lists (items : ListRef → List Payload) : HostKind → Payload → List ListRef
  | .sequence item, .list l => l :: (items l).flatMap (item.lists items)
  | .optional item, p => item.lists items p
  | _, _ => []

theorem lists_null (items : ListRef → List Payload) (k : HostKind) : k.lists items .null = [] := by
  induction k with
  | optional item ih => exact ih
  | _ => rfl

theorem lists_congr {items items' : ListRef → List Payload} {k : HostKind} {p : Payload}
    (h : ∀ l ∈ k.lists items p, items' l = items l) : k.lists items' p = k.lists items p := by
  induction k generalizing p with
  | sequence item ih =>
    cases p with
    | list l =>
      obtain ⟨hl, hi⟩ := List.forall_mem_cons.1 h
      have hnested : (items l).flatMap (item.lists items') = (items l).flatMap (item.lists items) :=
        List.flatMap_congr fun q hq => ih fun m hm => hi m (List.mem_flatMap.2 ⟨q, hq, hm⟩)
      simp only [lists, hl, hnested]
    | _ => rfl
  | optional item ih => exact ih h
  | _ => rfl

theorem writeAll_grows {α : Type} {f : α → World → Payload × World}
    (h : ∀ (x : α) (w : World), w.Grows (f x w).2) (xs : List α) (w : World) :
    w.Grows (writeAll f xs w).2 := by
  induction xs generalizing w with
  | nil => exact .refl w
  | cons x xs ih => exact (h x w).trans (ih _)

theorem write_grows (k : HostKind) (x : k.Carrier) (w : World) : w.Grows (k.write x w).2 := by
  induction k generalizing w with
  | string => exact w.grows_newText x
  | sequence item ih => exact (writeAll_grows ih x w).trans (World.grows_newList _ _ _)
  | optional item ih =>
    cases x with
    | none => exact .refl w
    | some y => exact ih y w
  | _ => exact .refl w

theorem write_extends (k : HostKind) (x : k.Carrier) (w : World) : w.Extends (k.write x w).2 :=
  (k.write_grows x w).extended

theorem naturalType_ofInt {n : Int} (h : Integer64.Fits n) : (ofInt n).naturalType = .int := by
  rw [ofInt, Integer64.ofInt?_of_fits h]
  rfl

/-- What `k` writes of `x` is of the declared type, and the lists made for it join a sound scene. -/
def Writes (k : HostKind) (x : k.Carrier) : Prop :=
  ∀ {w : World} {ls : List ListRef} {ds : List DictRef}, Sound ⟨w, ls, ds⟩ →
    (k.write x w).1.Inhabits k.declaredType ∧
      Sound ⟨(k.write x w).2, k.lists (k.write x w).2.items (k.write x w).1 ++ ls, ds⟩

theorem sound_cons {k : HostKind} {p : Payload} {ps : List Payload} {w w' : World}
    {ls : List ListRef} {ds : List DictRef} (hw : w.Extends w')
    (hs : Sound ⟨w, k.lists w.items p ++ ls, ds⟩)
    (hs' : Sound ⟨w', ps.flatMap (k.lists w'.items) ++ (k.lists w.items p ++ ls), ds⟩) :
    Sound ⟨w', (p :: ps).flatMap (k.lists w'.items) ++ ls, ds⟩ := by
  have hkept : k.lists w'.items p = k.lists w.items p :=
    lists_congr fun l hl => hw.items_eq l (hs.lists_below l (List.mem_append_left ls hl))
  refine hs'.of_subset fun l hl => ?_
  rw [List.flatMap_cons, hkept, List.append_assoc] at hl
  rcases List.mem_append.1 hl with hp | hl
  · exact List.mem_append_right _ (List.mem_append_left _ hp)
  · rcases List.mem_append.1 hl with hps | hls
    · exact List.mem_append_left _ hps
    · exact List.mem_append_right _ (List.mem_append_right _ hls)

theorem writeAll_typed {k : HostKind} {xs : List k.Carrier} (h : ∀ x ∈ xs, k.Writes x) {w : World}
    {ls : List ListRef} {ds : List DictRef} (hs : Sound ⟨w, ls, ds⟩) :
    (∀ p ∈ (writeAll k.write xs w).1, p.Inhabits k.declaredType) ∧
      Sound ⟨(writeAll k.write xs w).2,
        (writeAll k.write xs w).1.flatMap (k.lists (writeAll k.write xs w).2.items) ++ ls, ds⟩ := by
  induction xs generalizing w ls with
  | nil => exact ⟨by simp [writeAll], hs⟩
  | cons x xs ih =>
    obtain ⟨hx, hxs⟩ := List.forall_mem_cons.1 h
    obtain ⟨hp, hs₁⟩ := hx hs
    obtain ⟨hps, hs₂⟩ := ih hxs hs₁
    have hext := (writeAll_grows k.write_grows xs (k.write x w).2).extended
    exact ⟨List.forall_mem_cons.2 ⟨hp, hps⟩, sound_cons hext hs₁ hs₂⟩

theorem write_typed (k : HostKind) {x : k.Carrier} (hx : k.Within x) : k.Writes x := by
  induction k with
  | integer i =>
    intro w ls ds hs
    exact ⟨Payload.inhabits_of_naturalType (naturalType_ofInt hx), hs⟩
  | payload =>
    intro w ls ds hs
    exact ⟨Payload.inhabits_any x, hs⟩
  | list =>
    intro w ls ds hs
    exact ⟨Payload.inhabits_list_any x, hs⟩
  | dict =>
    intro w ls ds hs
    exact ⟨Payload.inhabits_dict (.inr rfl) (.inr rfl), hs⟩
  | string =>
    intro w ls ds hs
    exact ⟨Payload.inhabits_of_naturalType rfl, hs.extend (w.extends_newText x)⟩
  | sequence item ih =>
    intro w ls ds hs
    obtain ⟨hps, hs₁⟩ := writeAll_typed (fun y hy => ih (hx y hy)) hs
    generalize hr : writeAll item.write x w = r at hps hs₁
    obtain ⟨ps, w₁⟩ := r
    have hw : (HostKind.sequence item).write x w =
        (.list (w₁.newList item.declaredType ps).1, (w₁.newList item.declaredType ps).2) := by
      rw [write, hr]
    have hext := w₁.extends_newList item.declaredType ps
    have hnested : ps.flatMap (item.lists (w₁.newList item.declaredType ps).2.items) =
        ps.flatMap (item.lists w₁.items) := by
      refine List.flatMap_congr fun p hp => lists_congr fun l hl => hext.items_eq l ?_
      exact hs₁.lists_below l (List.mem_append_left ls (List.mem_flatMap.2 ⟨p, hp, hl⟩))
    rw [hw]
    refine ⟨Payload.inhabits_of_naturalType rfl, ?_⟩
    simpa only [lists, World.items_newList, hnested, List.cons_append] using hs₁.newList hps
  | optional item ih =>
    intro w ls ds hs
    cases x with
    | none =>
      have hl : (HostKind.optional item).lists w.items .null = [] := lists_null w.items _
      exact ⟨Payload.inhabits_null _, by simpa [write, hl] using hs⟩
    | some y => exact ih (hx y rfl) hs
  | bool | single | double | char | function =>
    intro w ls ds hs
    exact ⟨Payload.inhabits_of_naturalType rfl, hs⟩

theorem naturalType_of_write (k : HostKind) {x : k.Carrier} {w : World} {key : Key}
    (h : Key.ofPayload? (k.write x w).1 = some key) :
    k.declaredType = .any ∨ key.naturalType = k.declaredType := by
  induction k with
  | payload => exact .inl rfl
  | bool | char | string =>
    obtain rfl := Option.some.inj h
    exact .inr rfl
  | integer i =>
    unfold write ofInt at h
    cases hn : Integer64.ofInt? x.1 with
    | none => simp [hn, Key.ofPayload?] at h
    | some n =>
      obtain rfl : Key.int n = key := by simpa [hn, Key.ofPayload?] using h
      exact .inr rfl
  | optional item ih =>
    cases x with
    | none => simp [write, Key.ofPayload?] at h
    | some y => exact ih h
  | single | double | list | dict | function | sequence _ _ => simp [write, Key.ofPayload?] at h

theorem dictEntries_extends {key value : HostKind} (pairs : List (key.Carrier × value.Carrier))
    (w : World) : w.Extends (dictEntries key value pairs w).2 := by
  induction pairs generalizing w with
  | nil => exact .refl w
  | cons e rest ih =>
    have hk := key.write_extends e.1 w
    unfold dictEntries
    dsimp only
    split
    · exact hk.trans (ih _)
    · exact (hk.trans (value.write_extends e.2 _)).trans (ih _)

theorem admits_dictEntries (key value : HostKind) (pairs : List (key.Carrier × value.Carrier))
    (w : World) : ∀ e ∈ (dictEntries key value pairs w).1,
      key.declaredType = .any ∨ e.1.naturalType = key.declaredType := by
  induction pairs generalizing w with
  | nil => exact fun e he => absurd he List.not_mem_nil
  | cons p rest ih =>
    unfold dictEntries
    dsimp only
    split
    · exact ih _
    · rename_i k hk
      exact List.forall_mem_cons.2 ⟨key.naturalType_of_write hk, ih _⟩

theorem dictEntries_typed {key value : HostKind} {pairs : List (key.Carrier × value.Carrier)}
    (h : ∀ e ∈ pairs, value.Within e.2) {w : World} {ls : List ListRef} {ds : List DictRef}
    (hs : Sound ⟨w, ls, ds⟩) :
    (∀ e ∈ (dictEntries key value pairs w).1, e.2.Inhabits value.declaredType) ∧
      Sound ⟨(dictEntries key value pairs w).2,
        ((dictEntries key value pairs w).1.map (·.2)).flatMap
        (value.lists (dictEntries key value pairs w).2.items) ++ ls, ds⟩ := by
  induction pairs generalizing w ls with
  | nil => exact ⟨by simp [dictEntries], hs⟩
  | cons e rest ih =>
    obtain ⟨he, hrest⟩ := List.forall_mem_cons.1 h
    have hs₁ := hs.extend (key.write_extends e.1 w)
    unfold dictEntries
    dsimp only
    split
    · exact ih hrest hs₁
    · obtain ⟨hp, hs₂⟩ := value.write_typed he hs₁
      obtain ⟨hes, hs₃⟩ := ih hrest hs₂
      have hext := dictEntries_extends rest (value.write e.2 (key.write e.1 w).2).2
      exact ⟨List.forall_mem_cons.2 ⟨hp, hes⟩, sound_cons hext hs₂ hs₃⟩

theorem mem_of_mem_ofPairs {pairs : List (Key × Payload)} {p : Payload}
    (h : p ∈ (OrderedMap.ofPairs pairs).values) : p ∈ pairs.map (·.2) := by
  have hv : (OrderedMap.ofPairs pairs).Forall (fun _ => True) (· ∈ pairs.map (·.2)) :=
    OrderedMap.forall_ofPairs fun e he => ⟨trivial, List.mem_map_of_mem he⟩
  obtain ⟨e, he, rfl⟩ := List.mem_map.1 h
  exact (hv e he).2

theorem newDict_typed {key value : HostKind} {pairs : List (key.Carrier × value.Carrier)}
    (h : ∀ e ∈ pairs, value.Within e.2) {w : World} {ls : List ListRef} {ds : List DictRef}
    (hs : Sound ⟨w, ls, ds⟩) :
    Sound ⟨(newDict key value pairs w).2,
      ((newDict key value pairs w).2.entries (newDict key value pairs w).1).values.flatMap
        (value.lists (newDict key value pairs w).2.items) ++ ls,
      (newDict key value pairs w).1 :: ds⟩ := by
  obtain ⟨hes, hs₁⟩ := dictEntries_typed h hs
  have hkeys := admits_dictEntries key value pairs w
  unfold newDict
  generalize dictEntries key value pairs w = r at hes hkeys hs₁
  obtain ⟨es, w₁⟩ := r
  have hm : (OrderedMap.ofPairs es).Forall
      (DictRef.Admits ⟨w₁.next, key.declaredType, value.declaredType⟩)
      (·.Inhabits value.declaredType) :=
        OrderedMap.forall_ofPairs fun e he => ⟨hkeys e he, hes e he⟩
  have hs₂ := hs₁.newDict hm (OrderedMap.distinct_ofPairs es)
  refine hs₂.of_subset fun l hl => ?_
  rcases List.mem_append.1 hl with hl | hl
  · obtain ⟨p, hp, hl⟩ := List.mem_flatMap.1 hl
    have hp : p ∈ (OrderedMap.ofPairs es).values := by
      simpa only [World.entries_newDict] using hp
    exact List.mem_append_left _ (List.mem_flatMap.2 ⟨p, mem_of_mem_ofPairs hp, hl⟩)
  · exact List.mem_append_right _ hl

end HostKind

end LateBound
