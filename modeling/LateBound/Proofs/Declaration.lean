import Mathlib.Data.List.Nodup
import LateBound.Proofs.BuiltinCall
/-! What a declared type exposes. The check of names leaves each name to one accessor or to methods,
and grouping keeps every overload under its name, in the order of declaration. -/
namespace LateBound

namespace Registration

variable {r : Registration} {key : TypeKey} {c : Catalog}

theorem firstRepeat?_eq_none_iff {seen names : List String} :
    firstRepeat? seen names = none ↔ names.Nodup ∧ ∀ n ∈ names, n ∉ seen := by
  induction names generalizing seen with
  | nil => simp [firstRepeat?]
  | cons n rest ih =>
    rw [firstRepeat?]
    split
    · rename_i hn
      simp [hn]
    · rename_i hn
      rw [ih, List.nodup_cons, List.forall_mem_cons]
      constructor
      · rintro ⟨hrest, hnew⟩
        refine ⟨⟨fun h => hnew n h (by simp), hrest⟩, hn, fun m hm hs => hnew m hm (by simp [hs])⟩
      · rintro ⟨⟨hfirst, hrest⟩, -, hnew⟩
        refine ⟨hrest, fun m hm h => ?_⟩
        rcases List.mem_append.1 h with h | h
        · exact hnew m hm h
        · obtain rfl := List.mem_singleton.1 h
          exact hfirst hm

theorem nameProblem?_eq_none_iff :
    r.nameProblem? = none ↔ r.accessorNames.Nodup ∧ ∀ s ∈ r.methods, s.name ∉ r.accessorNames := by
  unfold nameProblem?
  cases hf : firstRepeat? [] r.accessorNames with
  | some n =>
    have hn : ¬ r.accessorNames.Nodup := by
      intro h
      have hnone : firstRepeat? [] r.accessorNames = none := firstRepeat?_eq_none_iff.2 ⟨h, by simp⟩
      rw [hf] at hnone
      contradiction
    simp [hn]
  | none => simp [(firstRepeat?_eq_none_iff.1 hf).1]

theorem names_of_build (h : r.build key = .ok c) :
    r.accessorNames.Nodup ∧ ∀ s ∈ r.methods, s.name ∉ r.accessorNames := by
  obtain ⟨hp, -⟩ := (r.build_eq_ok_iff key c).1 h
  rw [problem?, Option.or_eq_none_iff, Option.or_eq_none_iff] at hp
  exact nameProblem?_eq_none_iff.1 hp.1.1

theorem eq_freeze_of_build (h : r.build key = .ok c) : c = r.freeze key :=
  ((r.build_eq_ok_iff key c).1 h).2

theorem getD_group (methods : List Signature) (name : String) :
    (group methods).getD name [] = methods.filter (·.name == name) := by
  have hfold : ∀ (l : List Signature) (m : OrderedMap String (List Signature)),
      (l.foldl (fun m s => m.insert s.name (m.getD s.name [] ++ [s])) m).getD name [] =
        m.getD name [] ++ l.filter (·.name == name) := by
    intro l
    induction l with
    | nil => simp
    | cons s rest ih =>
      intro m
      have hone : (m.insert s.name (m.getD s.name [] ++ [s])).getD name [] =
          m.getD name [] ++ [s].filter (·.name == name) := by
        by_cases hs : s.name = name
        · subst hs
          simp [OrderedMap.getD, OrderedMap.get?_insert]
        · simp [OrderedMap.getD, OrderedMap.get?_insert, hs]
      rw [List.foldl_cons, ih, hone, List.append_assoc, ← List.filter_append]
      rfl
  exact hfold methods ∅

theorem overloads_of_build (h : r.build key = .ok c) (name : String) :
    c.overloads name = r.methods.filter (·.name == name) := by
  rw [eq_freeze_of_build h]
  exact getD_group r.methods name

/-- At most one member has a name, be it an accessor or all the methods of that name. -/
theorem members_of_build (h : r.build key = .ok c) (name : String) :
    ((r.properties ++ r.fields).filter (·.name == name)).length +
      (if r.methods.any (·.name == name) then 1 else 0) ≤ 1 := by
  obtain ⟨hnodup, hmethods⟩ := names_of_build h
  have hcount : ((r.properties ++ r.fields).filter (·.name == name)).length =
      r.accessorNames.count name := by
    rw [accessorNames, List.count_eq_length_filter, List.filter_map, List.length_map]
    rfl
  rw [hcount]
  split
  · rename_i hm
    obtain ⟨s, hs, hn⟩ := List.any_eq_true.1 hm
    obtain rfl := beq_iff_eq.1 hn
    rw [List.count_eq_zero_of_not_mem (hmethods s hs)]
  · exact List.nodup_iff_count_le_one.1 hnodup name

theorem accessor?_of_build (h : r.build key = .ok c) {a : Accessor}
    (ha : a ∈ r.properties ++ r.fields) :
    c.accessor? a.name = some a := by
  obtain ⟨hnodup, -⟩ := names_of_build h
  rw [eq_freeze_of_build h]
  show (r.properties ++ r.fields).find? (·.name == a.name) = some a
  rw [accessorNames] at hnodup
  generalize r.properties ++ r.fields = as at ha hnodup
  induction as with
  | nil => exact absurd ha List.not_mem_nil
  | cons b rest ih =>
    obtain ⟨hb, hrest⟩ := List.nodup_cons.1 hnodup
    rcases List.mem_cons.1 ha with rfl | ha
    · simp
    · have hne : ¬ b.name = a.name := fun he => hb (List.mem_map.2 ⟨a, ha, he.symm⟩)
      rw [List.find?_cons_of_neg (by simpa using hne)]
      exact ih ha hrest

end Registration

end LateBound
