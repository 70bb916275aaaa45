import LateBound.OrderedMap
/-! Entries of an ordered map under its operations. No two entries have the same key; an entry is
found by its key wherever it stands, and erasing by the key takes out that one entry. A write
changes the entry at the place of its key, or goes last when the key has no place. -/
namespace LateBound

namespace OrderedMap

variable {κ ν : Type}

section Forall

variable {K : κ → Prop} {V : ν → Prop} {k : κ} {v : ν} {m : OrderedMap κ ν}

/-- All keys satisfy one predicate and all values another. -/
def Forall (K : κ → Prop) (V : ν → Prop) (m : OrderedMap κ ν) : Prop :=
  ∀ e ∈ m.entries, K e.1 ∧ V e.2

theorem forall_empty : (∅ : OrderedMap κ ν).Forall K V := by
  intro e he
  exact absurd he List.not_mem_nil

variable [BEq κ]

theorem Forall.insert (h : m.Forall K V) (hk : K k) (hv : V v) : (m.insert k v).Forall K V := by
  obtain ⟨l⟩ := m
  induction l with
  | nil =>
    intro e he
    obtain rfl := List.mem_singleton.1 he
    exact ⟨hk, hv⟩
  | cons a rest ih =>
    obtain ⟨ha, hr⟩ := List.forall_mem_cons.1 h
    show ∀ e ∈ write k v (a :: rest), K e.1 ∧ V e.2
    rw [write]
    split
    · exact List.forall_mem_cons.2 ⟨⟨ha.1, hv⟩, hr⟩
    · exact List.forall_mem_cons.2 ⟨ha, ih hr⟩

theorem remove_sublist (k : κ) (l : List (κ × ν)) : (remove k l).Sublist l := by
  induction l with
  | nil => exact List.Sublist.refl _
  | cons a rest ih =>
    rw [remove]
    split
    · exact List.sublist_cons_self a rest
    · exact ih.cons_cons a

theorem Forall.getD (h : m.Forall K V) (hv : V v) : V (m.getD k v) := by
  obtain ⟨l⟩ := m
  induction l with
  | nil => exact hv
  | cons a rest ih =>
    obtain ⟨ha, hr⟩ := List.forall_mem_cons.1 h
    show V ((find k (a :: rest)).getD v)
    rw [find]
    split
    · exact ha.2
    · exact ih hr

theorem Forall.erase (h : m.Forall K V) (k : κ) : (m.erase k).Forall K V :=
  fun e he => h e ((remove_sublist k m.entries).subset he)

theorem Forall.foldl_insert {pairs : List (κ × ν)} (hm : m.Forall K V)
    (h : ∀ p ∈ pairs, K p.1 ∧ V p.2) :
    (pairs.foldl (fun m p => m.insert p.1 p.2) m).Forall K V := by
  induction pairs generalizing m with
  | nil => exact hm
  | cons p rest ih =>
    obtain ⟨hp, hr⟩ := List.forall_mem_cons.1 h
    exact ih (hm.insert hp.1 hp.2) hr

theorem forall_ofPairs {pairs : List (κ × ν)} (h : ∀ p ∈ pairs, K p.1 ∧ V p.2) :
    (ofPairs pairs).Forall K V := forall_empty.foldl_insert h

end Forall

section Distinct

variable [BEq κ] {k : κ} {v : ν} {m : OrderedMap κ ν}

def Distinct (m : OrderedMap κ ν) : Prop := m.entries.Pairwise fun a b => ¬ (a.1 == b.1)

theorem distinct_empty : (∅ : OrderedMap κ ν).Distinct := List.Pairwise.nil

theorem Distinct.erase (h : m.Distinct) (k : κ) : (m.erase k).Distinct :=
  List.Pairwise.sublist (remove_sublist k m.entries) h

theorem forall_ne_write {j : κ} {l : List (κ × ν)} (hk : ¬ (j == k)) (h : ∀ e ∈ l, ¬ (j == e.1)) :
    ∀ e ∈ write k v l, ¬ (j == e.1) := by
  induction l with
  | nil =>
    intro e he
    obtain rfl := List.mem_singleton.1 he
    exact hk
  | cons a rest ih =>
    obtain ⟨ha, hr⟩ := List.forall_mem_cons.1 h
    rw [write]
    split
    · exact List.forall_mem_cons.2 ⟨ha, hr⟩
    · exact List.forall_mem_cons.2 ⟨ha, ih hr⟩

theorem Distinct.insert (h : m.Distinct) : (m.insert k v).Distinct := by
  obtain ⟨l⟩ := m
  induction l with
  | nil => exact List.pairwise_singleton _ _
  | cons a rest ih =>
    obtain ⟨ha, hr⟩ := List.pairwise_cons.1 h
    show (write k v (a :: rest)).Pairwise fun a b => ¬ (a.1 == b.1)
    rw [write]
    split
    · exact List.pairwise_cons.2 ⟨ha, hr⟩
    · rename_i hak
      exact List.pairwise_cons.2 ⟨forall_ne_write hak ha, ih hr⟩

theorem Distinct.foldl_insert {pairs : List (κ × ν)} (h : m.Distinct) :
    (pairs.foldl (fun m p => m.insert p.1 p.2) m).Distinct := by
  induction pairs generalizing m with
  | nil => exact h
  | cons p rest ih => exact ih h.insert

theorem distinct_ofPairs (pairs : List (κ × ν)) : (ofPairs pairs).Distinct :=
  distinct_empty.foldl_insert

end Distinct

section Place

variable [BEq κ] {k k' : κ} {v : ν} {m : OrderedMap κ ν}

def place? (m : OrderedMap κ ν) (k : κ) : Option Nat := m.entries.findIdx? (·.1 == k)

theorem place?_cons (e : κ × ν) (l : List (κ × ν)) (k : κ) :
    place? ⟨e :: l⟩ k = if e.1 == k then some 0 else (place? ⟨l⟩ k).map (· + 1) :=
  List.findIdx?_cons

theorem get?_eq_bind_place? (m : OrderedMap κ ν) (k : κ) :
    m.get? k = (m.place? k).bind fun i => m.values[i]? := by
  obtain ⟨l⟩ := m
  induction l with
  | nil => rfl
  | cons e rest ih =>
    rw [place?_cons, get?, find]
    by_cases he : e.1 == k
    · simp [he, values]
    · rw [if_neg he, if_neg he]
      refine ih.trans ?_
      cases place? ⟨rest⟩ k <;> rfl

theorem exists_key_of_get? (h : m.get? k = some v) : ∃ j ∈ m.keys, j == k := by
  obtain ⟨l⟩ := m
  induction l with
  | nil => contradiction
  | cons e rest ih =>
    rw [get?, find] at h
    by_cases he : e.1 == k
    · exact ⟨e.1, List.mem_cons_self, he⟩
    · rw [if_neg he] at h
      obtain ⟨j, hj, hjk⟩ := ih h
      exact ⟨j, List.mem_cons_of_mem _ hj, hjk⟩

theorem mem_keys_iff [LawfulBEq κ] : k ∈ m.keys ↔ ∃ v, m.get? k = some v := by
  constructor
  · intro h
    obtain ⟨l⟩ := m
    induction l with
    | nil => exact absurd h List.not_mem_nil
    | cons e rest ih =>
      by_cases he : e.1 = k
      · exact ⟨e.2, by simp [get?, find, he]⟩
      · obtain ⟨v, hv⟩ := ih ((List.mem_cons.1 h).resolve_left (Ne.symm he))
        exact ⟨v, by simpa [get?, find, he] using hv⟩
  · rintro ⟨v, hv⟩
    obtain ⟨j, hj, hjk⟩ := exists_key_of_get? hv
    rwa [← beq_iff_eq.1 hjk]

theorem isSome_place? (m : OrderedMap κ ν) (k : κ) : (m.place? k).isSome = (m.get? k).isSome := by
  obtain ⟨l⟩ := m
  induction l with
  | nil => rfl
  | cons e rest ih =>
    rw [place?_cons, get?, find]
    by_cases he : e.1 == k
    · rw [if_pos he, if_pos he]
      rfl
    · rw [if_neg he, if_neg he, Option.isSome_map]
      exact ih

/-- A write to a key that has a place keeps the key there, any other write goes last. -/
theorem entries_insert (m : OrderedMap κ ν) (k : κ) (v : ν) :
    (m.insert k v).entries =
      match m.place? k with
      | some i => m.entries.modify i fun e => (e.1, v)
      | none => m.entries ++ [(k, v)] := by
  obtain ⟨l⟩ := m
  induction l with
  | nil => rfl
  | cons e rest ih =>
    have hrest : write k v rest = _ := ih
    rw [place?_cons, insert, write]
    by_cases he : e.1 == k
    · rw [if_pos he, if_pos he]
      rfl
    · rw [if_neg he, if_neg he, hrest]
      cases place? ⟨rest⟩ k <;> rfl

theorem entries_erase_place (m : OrderedMap κ ν) (k : κ) :
    (m.erase k).entries =
      match m.place? k with
      | some i => m.entries.eraseIdx i
      | none => m.entries := by
  obtain ⟨l⟩ := m
  induction l with
  | nil => rfl
  | cons e rest ih =>
    have hrest : remove k rest = _ := ih
    rw [place?_cons, erase, remove]
    by_cases he : e.1 == k
    · rw [if_pos he, if_pos he]
      rfl
    · rw [if_neg he, if_neg he, hrest]
      cases place? ⟨rest⟩ k <;> rfl

variable [PartialEquivBEq κ]

theorem place?_congr (m : OrderedMap κ ν) (h : k == k') : m.place? k = m.place? k' := by
  have he : (fun e : κ × ν => e.1 == k) = fun e => e.1 == k' := by
    funext e
    rw [Bool.eq_iff_iff]
    exact ⟨fun ha => BEq.trans ha h, fun ha => BEq.trans ha (BEq.symm h)⟩
  rw [place?, place?, he]

theorem Distinct.place?_of_getElem? {i : Nat} {j : κ} (h : m.Distinct)
    (hi : m.entries[i]? = some (j, v))
    (hk : j == k) : m.place? k = some i := by
  obtain ⟨l⟩ := m
  induction l generalizing i with
  | nil => simp at hi
  | cons a rest ih =>
    obtain ⟨ha, hr⟩ := List.pairwise_cons.1 h
    rw [place?_cons]
    cases i with
    | zero =>
      obtain rfl : a = (j, v) := by simpa using hi
      rw [if_pos hk]
    | succ i =>
      have hi : rest[i]? = some (j, v) := by simpa using hi
      have hak : ¬ (a.1 == k) := fun he =>
        ha _ (List.mem_of_getElem? hi) (BEq.trans he (BEq.symm hk))
      rw [if_neg hak, ih hr hi]
      rfl

theorem Distinct.get?_of_getElem? {i : Nat} {j : κ} (h : m.Distinct)
    (hi : m.entries[i]? = some (j, v))
    (hk : j == k) : m.get? k = some v := by
  rw [get?_eq_bind_place?, h.place?_of_getElem? hi hk]
  simp [values, hi]

/-- Erasing by the key of an entry takes out that entry and no other. -/
theorem Distinct.entries_erase {i : Nat} {j : κ} (h : m.Distinct)
    (hi : m.entries[i]? = some (j, v)) (hk : j == k) :
    (m.erase k).entries = m.entries.eraseIdx i := by
  rw [entries_erase_place, h.place?_of_getElem? hi hk]

end Place

end OrderedMap

end LateBound
