import Mathlib.Order.Bounds.Basic
import LateBound.Text.Search
/-! Occurrences of a pattern in a text. A search ends at the first one, and splitting and
replacing go from there to the first one in what follows. So the parts of a text hold no
occurrence, and joining them gives the text back, or with another text in the place of the pattern
the text replaced. -/
namespace LateBound
namespace Text

variable {p s t : List Char} {i : Nat}

def OccursAt (p s : List Char) (i : Nat) : Prop :=
  ∃ before after, s = before ++ (p ++ after) ∧ before.length = i

theorem occursAt_zero : OccursAt p s 0 ↔ p.isPrefixOf s = true := by
  rw [List.isPrefixOf_iff_prefix]
  constructor
  · rintro ⟨before, after, rfl, hlength⟩
    obtain rfl := List.length_eq_zero_iff.1 hlength
    exact List.prefix_append p after
  · rintro ⟨after, rfl⟩
    exact ⟨[], after, rfl, rfl⟩

theorem occursAt_succ {c : Char} : OccursAt p (c :: s) (i + 1) ↔ OccursAt p s i := by
  constructor
  · rintro ⟨before, after, hs, hlength⟩
    cases before with
    | nil => contradiction
    | cons b before =>
      obtain ⟨rfl, rfl⟩ := List.cons.inj hs
      exact ⟨before, after, rfl, Nat.succ.inj hlength⟩
  · rintro ⟨before, after, rfl, rfl⟩
    exact ⟨c :: before, after, rfl, rfl⟩

theorem not_occursAt_nil_succ : ¬ OccursAt p [] (i + 1) := by
  rintro ⟨before, after, hs, hlength⟩
  simp_all

theorem occursAt_iff_take : OccursAt p s i ↔ i ≤ s.length ∧ (s.drop i).take p.length = p := by
  constructor
  · rintro ⟨before, after, rfl, rfl⟩
    simp
  · rintro ⟨hi, htake⟩
    refine ⟨s.take i, (s.drop i).drop p.length, ?_, List.length_take_of_le hi⟩
    calc s = s.take i ++ s.drop i := (List.take_append_drop i s).symm
      _ = s.take i ++ ((s.drop i).take p.length ++ (s.drop i).drop p.length) := by
        rw [List.take_append_drop p.length]
      _ = s.take i ++ (p ++ (s.drop i).drop p.length) := by rw [htake]

theorem OccursAt.eq_append (h : OccursAt p s i) : s = s.take i ++ (p ++ s.drop (i + p.length)) := by
  obtain ⟨before, after, rfl, rfl⟩ := h
  simp [← List.drop_drop]

theorem OccursAt.length_le (h : OccursAt p s i) : i + p.length ≤ s.length := by
  obtain ⟨before, after, rfl, rfl⟩ := h
  simp

theorem isInfix_iff_occursAt : p <:+: s ↔ ∃ i, OccursAt p s i := by
  constructor
  · rintro ⟨before, after, rfl⟩
    exact ⟨before.length, before, after, by simp, rfl⟩
  · rintro ⟨i, before, after, rfl, -⟩
    exact ⟨before, after, by simp⟩

theorem OccursAt.of_take {n : Nat} (h : OccursAt p (s.take n) i) : OccursAt p s i := by
  obtain ⟨before, after, hs, hlength⟩ := h
  refine ⟨before, after ++ s.drop n, ?_, hlength⟩
  calc s = s.take n ++ s.drop n := (List.take_append_drop n s).symm
    _ = before ++ (p ++ (after ++ s.drop n)) := by simp [hs]

theorem indexOf?_spec (p s : List Char) :
    (∀ i, indexOf? p s = some i → IsLeast {i | OccursAt p s i} i) ∧
      (indexOf? p s = none → ∀ i, ¬ OccursAt p s i) := by
  induction s with
  | nil =>
    by_cases hp : p = []
    · subst hp
      simp only [indexOf?_nil, Option.some.injEq, reduceCtorEq, false_implies, and_true]
      rintro i rfl
      exact ⟨occursAt_zero.2 rfl, fun _ _ => Nat.zero_le _⟩
    · simp only [indexOf?, hp, if_false, reduceCtorEq, false_implies, implies_true, true_and]
      rintro - (_ | i) h
      · exact hp (List.prefix_nil.1 (List.isPrefixOf_iff_prefix.1 (occursAt_zero.1 h)))
      · exact not_occursAt_nil_succ h
  | cons c s ih =>
    obtain ⟨hfound, hmissed⟩ := ih
    by_cases hhere : p.isPrefixOf (c :: s) = true
    · simp only [indexOf?, hhere, if_true, Option.some.injEq, reduceCtorEq, false_implies, and_true]
      rintro i rfl
      exact ⟨occursAt_zero.2 hhere, fun _ _ => Nat.zero_le _⟩
    · simp only [indexOf?, hhere, Bool.false_eq_true, if_false, Option.map_eq_some_iff,
        Option.map_eq_none_iff]
      constructor
      · rintro i ⟨j, hj, rfl⟩
        obtain ⟨hoccurs, hleast⟩ := hfound j hj
        refine ⟨occursAt_succ.2 hoccurs, fun k hk => ?_⟩
        cases k with
        | zero => exact absurd (occursAt_zero.1 hk) hhere
        | succ k => exact Nat.succ_le_succ (hleast (occursAt_succ.1 hk))
      · rintro hnone (_ | k) hk
        · exact hhere (occursAt_zero.1 hk)
        · exact hmissed hnone k (occursAt_succ.1 hk)

theorem indexOf?_eq_none_iff : indexOf? p s = none ↔ ¬ p <:+: s := by
  rw [isInfix_iff_occursAt, not_exists]
  refine ⟨(indexOf?_spec p s).2, fun h => ?_⟩
  cases hi : indexOf? p s with
  | none => rfl
  | some i => exact absurd ((indexOf?_spec p s).1 i hi).1 (h i)

/-- A search ends at the first occurrence. -/
theorem indexOf?_eq_some_iff : indexOf? p s = some i ↔ IsLeast {i | OccursAt p s i} i := by
  refine ⟨(indexOf?_spec p s).1 i, fun h => ?_⟩
  cases hj : indexOf? p s with
  | none => exact absurd h.1 ((indexOf?_spec p s).2 hj i)
  | some j => rw [((indexOf?_spec p s).1 j hj).unique h]

theorem splitOn_of_indexOf?_none (h : indexOf? p s = none) : splitOn p s = [s] := by
  induction s with
  | nil => simp [splitOn]
  | cons c s ih =>
    by_cases hhere : p.isPrefixOf (c :: s) = true
    · simp [indexOf?, hhere] at h
    · simp only [indexOf?, hhere, Bool.false_eq_true, if_false, Option.map_eq_none_iff] at h
      rw [splitOn, if_neg hhere, ih h]
      rfl

theorem replaceAll_of_indexOf?_none (h : indexOf? p s = none) : replaceAll p t s = s := by
  induction s with
  | nil => simp [replaceAll]
  | cons c s ih =>
    by_cases hhere : p.isPrefixOf (c :: s) = true
    · simp [indexOf?, hhere] at h
    · simp only [indexOf?, hhere, Bool.false_eq_true, if_false, Option.map_eq_none_iff] at h
      rw [replaceAll, if_neg hhere, ih h]

section Pattern

variable (hp : p ≠ [])
include hp

/-- A property of texts holds of all, if it holds of those without an occurrence, and of the others
when it holds of what follows their first occurrence. -/
theorem occurrence_induction {motive : List Char → Prop} (none : ∀ s, indexOf? p s = none →
    motive s)
    (some : ∀ s i, indexOf? p s = some i → motive (s.drop (i + p.length)) →
      motive s) (s : List Char) :
    motive s := by
  induction hn : s.length using Nat.strong_induction_on generalizing s with
  | h n ih =>
    cases hi : indexOf? p s with
    | none => exact none s hi
    | some i =>
      have hlength := (indexOf?_eq_some_iff.1 hi).1.length_le
      have hpos : 0 < p.length := List.length_pos_iff.2 hp
      refine some s i hi (ih _ ?_ (s.drop (i + p.length)) rfl)
      rw [List.length_drop]
      omega

theorem drop_cons_length (c : Char) (s : List Char) : (c :: s).drop p.length =
    s.drop (p.length - 1) := by
  rw [← Nat.sub_add_cancel (List.length_pos_iff.2 hp), List.drop_succ_cons, Nat.add_sub_cancel]

theorem splitOn_of_indexOf?_some (h : indexOf? p s = some i) :
    splitOn p s = s.take i :: splitOn p (s.drop (i + p.length)) := by
  induction s generalizing i with
  | nil => simp [indexOf?, hp] at h
  | cons c s ih =>
    by_cases hhere : p.isPrefixOf (c :: s) = true
    · simp only [indexOf?, hhere, if_true, Option.some.injEq] at h
      subst h
      rw [splitOn, if_pos hhere, Nat.zero_add, drop_cons_length hp]
      rfl
    · simp only [indexOf?, hhere, Bool.false_eq_true, if_false, Option.map_eq_some_iff] at h
      obtain ⟨j, hj, rfl⟩ := h
      rw [splitOn, if_neg hhere, ih hj, Nat.add_right_comm]
      rfl

theorem replaceAll_of_indexOf?_some (h : indexOf? p s = some i) :
    replaceAll p t s = s.take i ++ (t ++ replaceAll p t (s.drop (i + p.length))) := by
  induction s generalizing i with
  | nil => simp [indexOf?, hp] at h
  | cons c s ih =>
    by_cases hhere : p.isPrefixOf (c :: s) = true
    · simp only [indexOf?, hhere, if_true, Option.some.injEq] at h
      subst h
      rw [replaceAll, if_pos hhere, Nat.zero_add, drop_cons_length hp]
      rfl
    · simp only [indexOf?, hhere, Bool.false_eq_true, if_false, Option.map_eq_some_iff] at h
      obtain ⟨j, hj, rfl⟩ := h
      rw [replaceAll, if_neg hhere, ih hj, Nat.add_right_comm]
      rfl

theorem intercalate_splitOn (s : List Char) : p.intercalate (splitOn p s) = s := by
  induction s using occurrence_induction hp with
  | none s h => rw [splitOn_of_indexOf?_none h, List.intercalate_singleton]
  | some s i h ih =>
    rw [splitOn_of_indexOf?_some hp h, List.intercalate_cons_of_ne_nil (splitOn_ne_nil p _), ih,
      List.append_assoc]
    exact (indexOf?_eq_some_iff.1 h).1.eq_append.symm

theorem replaceAll_eq_intercalate (t s : List Char) :
    replaceAll p t s = t.intercalate (splitOn p s) := by
  induction s using occurrence_induction hp with
  | none s h =>
    rw [replaceAll_of_indexOf?_none h, splitOn_of_indexOf?_none h, List.intercalate_singleton]
  | some s i h ih =>
    rw [replaceAll_of_indexOf?_some hp h, ih, splitOn_of_indexOf?_some hp h,
      List.intercalate_cons_of_ne_nil (splitOn_ne_nil p _), List.append_assoc]

theorem not_isInfix_of_mem_splitOn (s : List Char) : ∀ part ∈ splitOn p s, ¬ p <:+: part := by
  induction s using occurrence_induction hp with
  | none s h =>
    rw [splitOn_of_indexOf?_none h]
    simpa using indexOf?_eq_none_iff.1 h
  | some s i h ih =>
    rw [splitOn_of_indexOf?_some hp h, List.forall_mem_cons]
    refine ⟨fun hinfix => ?_, ih⟩
    -- an occurrence in the first part would be an earlier one in the text
    obtain ⟨k, hk⟩ := isInfix_iff_occursAt.1 hinfix
    have hle : i ≤ k := (indexOf?_eq_some_iff.1 h).2 hk.of_take
    have hlength := hk.length_le
    have hpos : 0 < p.length := List.length_pos_iff.2 hp
    rw [List.length_take] at hlength
    omega

theorem isLeast_of_mem_dropLast_splitOn (s : List Char) :
    ∀ part ∈ (splitOn p s).dropLast, IsLeast {i | OccursAt p (part ++ p) i} part.length := by
  induction s using occurrence_induction hp with
  | none s h =>
    rw [splitOn_of_indexOf?_none h]
    simp
  | some s i h ih =>
    have hleast := indexOf?_eq_some_iff.1 h
    have hlength := hleast.1.length_le
    have hfirst : (s.take i).length = i := List.length_take_of_le (by omega)
    have hends : s.take i ++ p = s.take (i + p.length) := by
      rw [List.take_add, (occursAt_iff_take.1 hleast.1).2]
    rw [splitOn_of_indexOf?_some hp h, List.dropLast_cons_of_ne_nil (splitOn_ne_nil p _),
      List.forall_mem_cons]
    refine ⟨⟨⟨s.take i, [], by simp, rfl⟩, fun k (hk : OccursAt p (s.take i ++ p) k) => ?_⟩, ih⟩
    rw [hends] at hk
    rw [hfirst]
    exact hleast.2 hk.of_take

end Pattern

theorem intercalate_nil_singletons (s : List Char) : List.intercalate [] (s.map ([·])) = s := by
  induction s with
  | nil => rfl
  | cons c s ih =>
    cases s with
    | nil => rfl
    | cons d s => simpa using ih

/-- Joining the parts by the pattern gives the text back. -/
theorem intercalate_split (p s : List Char) : p.intercalate (split p s) = s := by
  rw [split]
  split
  · rename_i hp
    rw [hp, intercalate_nil_singletons]
  · rename_i hp
    exact intercalate_splitOn hp s

theorem replace_eq_intercalate (p t s : List Char) :
    replace p t s = if p = [] then s else t.intercalate (split p s) := by
  rw [replace, split]
  split
  · rfl
  · rename_i hp
    exact replaceAll_eq_intercalate hp t s

end Text

end LateBound
