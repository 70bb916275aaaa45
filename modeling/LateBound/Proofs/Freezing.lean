import Mathlib.Data.List.Basic
import Mathlib.Data.List.Induction
import LateBound.Proofs.Validation
/-! What freezing keeps of the members that were declared. Methods are put into groups one after
another, so each name has a place in the order it is first declared in, and under it are the
overloads of that name in order. No method is lost or kept twice. -/
namespace LateBound

theorem eraseDups_concat (names : List String) (n : String) :
    (names ++ [n]).eraseDups = if n ∈ names then names.eraseDups else names.eraseDups ++ [n] := by
  rw [List.eraseDups_append]
  split
  · rename_i hn
    simp [List.removeAll, hn]
  · rename_i hn
    simp [List.removeAll, hn, List.eraseDups_cons]

theorem eraseDups_pairwise (names : List String) :
    names.eraseDups.Pairwise fun m n => names.idxOf m < names.idxOf n := by
  induction names using List.reverseRecOn with
  | nil => exact .nil
  | append_singleton names n ih =>
    have hkept : names.eraseDups.Pairwise fun l m => (names ++ [n]).idxOf l <
      (names ++ [n]).idxOf m := by
      refine ih.imp_of_mem fun hl hm hlt => ?_
      rwa [List.idxOf_append_of_mem (List.mem_eraseDups.1 hl),
        List.idxOf_append_of_mem (List.mem_eraseDups.1 hm)]
    rw [eraseDups_concat]
    split
    · exact hkept
    · rename_i hn
      refine List.pairwise_append.2 ⟨hkept, List.pairwise_singleton _ n, fun m hm l hl => ?_⟩
      obtain rfl := List.mem_singleton.1 hl
      have hm : m ∈ names := List.mem_eraseDups.1 hm
      rw [List.idxOf_append_of_mem hm, List.idxOf_append_of_notMem hn]
      exact Nat.lt_add_right _ (List.idxOf_lt_length_of_mem hm)

theorem nodup_eraseDups (names : List String) : names.eraseDups.Nodup :=
  (eraseDups_pairwise names).imp fun hlt heq => absurd hlt (by simp [heq])

namespace Registration

variable {methods : List Signature} {names : List String}

def overloadsOf (methods : List Signature) (names : List String) : List (String × List Signature) :=
  names.map fun n => (n, methods.filter (·.name == n))

theorem group_concat (methods : List Signature) (s : Signature) :
    group (methods ++ [s]) = (group methods).insert s.name
      (methods.filter (·.name == s.name) ++ [s]) := by
  rw [← getD_group, group, List.foldl_append]
  rfl

theorem filter_concat_of_ne {s : Signature} {n : String} (h : s.name ≠ n) :
    (methods ++ [s]).filter (·.name == n) = methods.filter (·.name == n) := by
  simp [h]

theorem overloadsOf_concat {s : Signature} (h : s.name ∉ names) :
    overloadsOf (methods ++ [s]) names = overloadsOf methods names := by
  refine List.map_congr_left fun n hn => ?_
  rw [filter_concat_of_ne fun hs => h (hs ▸ hn)]

theorem write_overloadsOf (hnames : names.Nodup) (s : Signature) :
    OrderedMap.write s.name (methods.filter (·.name == s.name) ++ [s]) (overloadsOf methods names) =
      overloadsOf (methods ++ [s]) (if s.name ∈ names then names else names ++ [s.name]) := by
  have hgrown : (methods ++ [s]).filter (·.name == s.name) =
    methods.filter (·.name == s.name) ++ [s] := by simp
  induction names with
  | nil => simp [overloadsOf, OrderedMap.write]
  | cons n names ih =>
    obtain ⟨hn, hrest⟩ := List.nodup_cons.1 hnames
    have hcons (ms : List Signature) (ns : List String) :
        overloadsOf ms (n :: ns) = (n, ms.filter (·.name == n)) :: overloadsOf ms ns := rfl
    rw [hcons, OrderedMap.write]
    by_cases hs : n = s.name
    · subst hs
      rw [if_pos (beq_self_eq_true _), if_pos List.mem_cons_self, hcons, overloadsOf_concat hn,
        hgrown]
    · have hplace : (if s.name ∈ n :: names then n :: names else n :: names ++ [s.name]) =
          n :: if s.name ∈ names then names else names ++ [s.name] := by
        simp only [List.mem_cons, Ne.symm hs, false_or]
        split <;> rfl
      rw [if_neg (by simpa using hs), ih hrest, hplace, hcons, filter_concat_of_ne (Ne.symm hs)]

/-- The groups are the overloads of each name, in the order of the first places of names. -/
theorem entries_group (methods : List Signature) :
    (group methods).entries = overloadsOf methods (methods.map (·.name)).eraseDups := by
  induction methods using List.reverseRecOn with
  | nil => rfl
  | append_singleton methods s ih =>
    rw [group_concat, OrderedMap.insert, ih, write_overloadsOf (nodup_eraseDups _), List.map_append,
      List.map_singleton, eraseDups_concat]
    simp only [List.mem_eraseDups]

theorem keys_group (methods : List Signature) : (group methods).keys =
    (methods.map (·.name)).eraseDups := by
  rw [OrderedMap.keys, entries_group, overloadsOf, List.map_map]
  exact List.map_id _

theorem get?_group (methods : List Signature) (n : String) :
    (group methods).get? n =
      if ∃ s ∈ methods, s.name = n then some (methods.filter (·.name == n)) else none := by
  have hkey : n ∈ (group methods).keys ↔ ∃ s ∈ methods, s.name = n := by
    rw [keys_group, List.mem_eraseDups, List.mem_map]
  rw [OrderedMap.mem_keys_iff] at hkey
  have hall := getD_group methods n
  rw [OrderedMap.getD] at hall
  cases hget : (group methods).get? n with
  | none => simp [← hkey, hget]
  | some overloads =>
    rw [hget, Option.getD_some] at hall
    rw [if_pos (hkey.1 ⟨overloads, hget⟩), hall]

/-- Overloads taken name by name are all the methods, each of them once. -/
theorem flatMap_filter_perm (hnames : names.Nodup) (hall : ∀ s ∈ methods, s.name ∈ names) :
    (names.flatMap fun n => methods.filter (·.name == n)).Perm methods := by
  induction names generalizing methods with
  | nil =>
    have hnone : methods = [] := List.eq_nil_iff_forall_not_mem.2 fun s hs =>
      List.not_mem_nil (hall s hs)
    rw [hnone]
    exact .nil
  | cons n names ih =>
    obtain ⟨hn, hrest⟩ := List.nodup_cons.1 hnames
    let others := methods.filter fun s => !(s.name == n)
    have hothers : (names.flatMap fun m => methods.filter (·.name == m)) =
        names.flatMap fun m => others.filter (·.name == m) := by
      refine List.flatMap_congr fun m hm => ?_
      rw [List.filter_filter]
      refine List.filter_congr fun s _ => ?_
      have hne : m ≠ n := fun h => hn (h ▸ hm)
      by_cases hs : s.name = m <;> simp [hs, hne]
    have hperm : (names.flatMap fun m => others.filter (·.name == m)).Perm others := by
      refine ih hrest fun s hs => ?_
      obtain ⟨hs, hne⟩ := List.mem_filter.1 hs
      exact (List.mem_cons.1 (hall s hs)).resolve_left (by simpa using hne)
    rw [List.flatMap_cons, hothers]
    exact (hperm.append_left _).trans (List.filter_append_perm (·.name == n) methods)

theorem flatten_group_perm (methods : List Signature) :
    (group methods).values.flatten.Perm methods := by
  have hvalues : (group methods).values.flatten =
      (methods.map (·.name)).eraseDups.flatMap fun n => methods.filter (·.name == n) := by
    rw [OrderedMap.values, entries_group, overloadsOf, List.map_map, List.flatMap_def]
    rfl
  rw [hvalues]
  exact flatMap_filter_perm (nodup_eraseDups _) fun s hs =>
    List.mem_eraseDups.2 (List.mem_map_of_mem hs)

end Registration

open Registration in
/-- Freezing loses and reorders nothing. Under each name are the methods declared by it, in order,
so that all groups together hold every method once, and the names are listed once in the order of
their first declarations. Constructors are kept in order as static methods named after the type that
give instances of it, properties and fields as they were declared, and a type that is accepted is
frozen so. -/
theorem frozen_in_order (name : String) (representation : Representation)
    (ds : List Declaration) (key : TypeKey) :
    let r := ofDeclarations name representation ds
    let c := r.freeze key
    let methods := ds.filterMap Declaration.method?
    (∀ n, c.methods.get? n = if ∃ s ∈ methods,
      s.name = n then some (methods.filter (·.name == n)) else none) ∧
    c.methods.values.flatten.Perm methods ∧
    c.methodNames.Nodup ∧ (∀ n, n ∈ c.methodNames ↔ ∃ s ∈ methods, s.name = n) ∧
    (c.methodNames.Pairwise fun m n => (methods.map (·.name)).idxOf m <
      (methods.map (·.name)).idxOf n) ∧
    c.constructors = (ds.filterMap Declaration.constructor?).map (fun k =>
      { name := name ++ ".new", parameters := k.parameters, returns := .object name,
        isStatic := true,
        body := .construct ⟨key, name⟩ k.code }) ∧
    c.properties = ds.filterMap Declaration.property? ∧ c.fields = ds.filterMap Declaration.field? ∧
    ∀ accepted, r.build key = .ok accepted → accepted = c := by
  intro r c methods
  have hr : r.Collects name ds := collects_ofDeclarations name representation ds
  have hmethods : c.methods = group methods := congrArg group hr.methods_eq
  have hnames : c.methodNames = (methods.map (·.name)).eraseDups := by
    rw [Catalog.methodNames, hmethods, keys_group]
  have hconstructors : c.constructors = (ds.filterMap Declaration.constructor?).map
      (r.constructorSignature ⟨key, r.name⟩) := congrArg (List.map _) hr.constructors_eq
  rw [hmethods, hnames, hconstructors]
  refine ⟨get?_group methods, flatten_group_perm methods, nodup_eraseDups _, fun n =>
    ?_, eraseDups_pairwise _, ?_,
    hr.properties_eq, hr.fields_eq, fun accepted h => eq_freeze_of_build h⟩
  · rw [List.mem_eraseDups, List.mem_map]
  · refine List.map_congr_left fun k _ => ?_
    rw [constructorSignature, constructorName, hr.name_eq]

open Registration in
/-- Overloads declared apart come together under their name, which stands where the first of them
was declared. -/
theorem frozen_in_order_interleaved :
    let move (ps : List Parameter) : Signature :=
      { name := "move", parameters := ps, returns := .void, body := .free fun _ => .done .null }
    let stop : Signature :=
      { name := "stop", parameters := [], returns := .void, body := .free fun _ => .done .null }
    let speed : Parameter := { name := "speed", type := .int }
    let r := ofDeclarations "Robot" .slots
      [.method (move []), .method stop, .constructor ⟨[speed], fun _ => .done .null⟩,
        .method (move [speed])]
    ∃ accepted, r.build (.declared 0) = .ok accepted ∧
      accepted.methods.get? "move" = some [move [], move [speed]] ∧
        accepted.methods.get? "turn" = none ∧
      accepted.methodNames = ["move", "stop"] ∧
      accepted.constructors.map (fun s => (s.name, s.isStatic, s.parameters)) =
        [("Robot.new", true, [speed])] := by
  intro move stop speed r
  obtain ⟨hget, -, -, -, -, hconstructors, -, -, haccepted⟩ := frozen_in_order "Robot" .slots
    [.method (move []), .method stop, .constructor ⟨[speed], fun _ => .done .null⟩,
      .method (move [speed])]
    (.declared 0)
  obtain ⟨accepted, hbuild⟩ : ∃ accepted, r.build (.declared 0) = .ok accepted := ⟨_, rfl⟩
  have hfrozen : accepted = r.freeze (.declared 0) := haccepted accepted hbuild
  subst hfrozen
  refine ⟨_, hbuild, ?_, ?_, rfl, by rw [hconstructors]; rfl⟩
  · rw [hget]
    rfl
  · rw [hget]
    rfl

end LateBound
