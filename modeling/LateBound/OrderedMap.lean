/-! Finite maps that remember insertion order. A write to a key already present keeps that key and
its place, any other write goes last. Keys are compared by `==`, which may identify keys that are
not equal, such as two texts of the same content in different storage. -/
namespace LateBound

structure OrderedMap (κ ν : Type) where
  entries : List (κ × ν)
  deriving DecidableEq

namespace OrderedMap

variable {κ ν : Type}

instance : EmptyCollection (OrderedMap κ ν) := ⟨⟨[]⟩⟩

instance : Inhabited (OrderedMap κ ν) := ⟨∅⟩

def keys (m : OrderedMap κ ν) : List κ := m.entries.map (·.1)

def values (m : OrderedMap κ ν) : List ν := m.entries.map (·.2)

def size (m : OrderedMap κ ν) : Nat := m.entries.length

variable [BEq κ]

def find (k : κ) : List (κ × ν) → Option ν
  | [] => none
  | e :: rest => if e.1 == k then some e.2 else find k rest

def write (k : κ) (v : ν) : List (κ × ν) → List (κ × ν)
  | [] => [(k, v)]
  | e :: rest => if e.1 == k then (e.1, v) :: rest else e :: write k v rest

def remove (k : κ) : List (κ × ν) → List (κ × ν)
  | [] => []
  | e :: rest => if e.1 == k then rest else e :: remove k rest

def get? (m : OrderedMap κ ν) (k : κ) : Option ν := find k m.entries

def getD (m : OrderedMap κ ν) (k : κ) (v : ν) : ν := (m.get? k).getD v

def contains (m : OrderedMap κ ν) (k : κ) : Bool := (m.get? k).isSome

def insert (m : OrderedMap κ ν) (k : κ) (v : ν) : OrderedMap κ ν := ⟨write k v m.entries⟩

def erase (m : OrderedMap κ ν) (k : κ) : OrderedMap κ ν := ⟨remove k m.entries⟩

/-- Later pairs overwrite earlier ones. -/
def ofPairs (pairs : List (κ × ν)) : OrderedMap κ ν :=
  pairs.foldl (fun m p => m.insert p.1 p.2) ∅

@[simp] theorem get?_empty (k : κ) : (∅ : OrderedMap κ ν).get? k = none := rfl

section Laws

variable [PartialEquivBEq κ] {m : OrderedMap κ ν} {k k' : κ} {v : ν}

theorem find_congr (h : k == k') (l : List (κ × ν)) : find k l = find k' l := by
  induction l with
  | nil => rfl
  | cons e rest ih =>
    have he : (e.1 == k) = (e.1 == k') := by
      rw [Bool.eq_iff_iff]
      exact ⟨fun ha => BEq.trans ha h, fun ha => BEq.trans ha (BEq.symm h)⟩
    simp [find, he, ih]

theorem find_write (l : List (κ × ν)) :
    find k' (write k v l) = if k == k' then some v else find k' l := by
  induction l with
  | nil => simp [write, find]
  | cons e rest ih =>
    by_cases he : e.1 == k
    · by_cases hk : k == k'
      · simp [write, find, he, hk, BEq.trans he hk]
      · have hn : ¬ (e.1 == k') := fun ha => hk (BEq.trans (BEq.symm he) ha)
        simp [write, find, he, hk, hn]
    · by_cases hk : k == k'
      · have hn : ¬ (e.1 == k') := fun ha => he (BEq.trans ha (BEq.symm hk))
        simp [write, find, he, hk, hn, ih]
      · simp [write, find, he, hk, ih]

theorem get?_congr (h : k == k') : m.get? k = m.get? k' := find_congr h m.entries

theorem get?_insert :
    (m.insert k v).get? k' = if k == k' then some v else m.get? k' := find_write m.entries

end Laws

end OrderedMap

end LateBound
