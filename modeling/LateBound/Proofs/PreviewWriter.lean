import Mathlib.Tactic.Choose
import LateBound.Proofs.Preview
/-! Writing a preview call by call. Collections may hold themselves, so nothing in them gets smaller
from one call to the next; what ends the writing is that a call for an item is given one more than
the depth of its collection, and that the depth is looked at before a collection is opened. Main
statement: one call for each collection that may be opened, and one more, are enough within each
other, and no more brackets than that are open at a time. -/
namespace LateBound

namespace Piece

def isOpening : Piece → Bool
  | .opening _ => true
  | _ => false

def isClosing : Piece → Bool
  | .closing _ => true
  | _ => false

/-- Brackets are closed as often as they are opened, and nowhere are more than `n` of them open. -/
structure NestsWithin (n : Nat) (ps : List Piece) : Prop where
  balanced : ps.countP isOpening = ps.countP isClosing
  open_le : ∀ qs, qs <+: ps → qs.countP isOpening ≤ qs.countP isClosing + n

theorem nestsWithin_nil (n : Nat) : NestsWithin n [] where
  balanced := rfl
  open_le qs hqs := by
    rw [List.prefix_nil.1 hqs]
    exact Nat.zero_le _

theorem nestsWithin_word (n : Nat) (s : String) : NestsWithin n [.word s] where
  balanced := rfl
  open_le qs hqs := by
    have hzero : qs.countP isOpening ≤ 0 := hqs.sublist.countP_le
    omega

namespace NestsWithin

variable {n : Nat} {ps qs : List Piece}

theorem append (hps : NestsWithin n ps) (hqs : NestsWithin n qs) : NestsWithin n (ps ++ qs) where
  balanced := by rw [List.countP_append, List.countP_append, hps.balanced, hqs.balanced]
  open_le rs := by
    rintro ⟨rest, hrest⟩
    -- a prefix ends within the first part, or has all of it and goes on into the second
    obtain ⟨as, rfl, -⟩ | ⟨bs, rfl, hbs⟩ := List.append_eq_append_iff.1 hrest
    · exact hps.open_le rs (List.prefix_append _ _)
    · have hlater := hqs.open_le bs ⟨rest, hbs.symm⟩
      rw [List.countP_append, List.countP_append, hps.balanced]
      omega

theorem bracketed (hps : NestsWithin n ps) (b : Bracket) :
    NestsWithin (n + 1) (.opening b :: (ps ++ [.closing b])) where
  balanced := by simp [List.countP_cons, isOpening, isClosing, hps.balanced]
  open_le rs hrs := by
    obtain rfl | ⟨ts, rfl, hts⟩ := List.prefix_cons_iff.1 hrs
    · exact Nat.zero_le _
    · have hinner : ts.countP isOpening ≤ ts.countP isClosing + n := by
        obtain rfl | hts := List.prefix_concat_iff.1 hts
        · have hlast : [closing b].countP isOpening = 0 := rfl
          rw [List.countP_append, List.countP_append, hps.balanced]
          omega
        · exact hps.open_le ts hts
      have hopened : (opening b :: ts).countP isOpening = ts.countP isOpening + 1 :=
        List.countP_cons_of_pos rfl
      have hclosed : (opening b :: ts).countP isClosing = ts.countP isClosing :=
        List.countP_cons_of_neg Bool.false_ne_true
      omega

end NestsWithin

end Piece

namespace Preview

open Piece

theorem nestsWithin_following {n : Nat} {shown : List (List Piece)}
    (h : ∀ ps ∈ shown, NestsWithin n ps) :
    NestsWithin n (following shown) := by
  induction shown with
  | nil => exact nestsWithin_nil n
  | cons ps shown ih =>
    obtain ⟨hps, hshown⟩ := List.forall_mem_cons.1 h
    exact (nestsWithin_word n ", ").append (hps.append (ih hshown))

theorem nestsWithin_separated {n : Nat} {shown : List (List Piece)}
    (h : ∀ ps ∈ shown, NestsWithin n ps) :
    NestsWithin n (separated shown) := by
  cases shown with
  | nil => exact nestsWithin_nil n
  | cons ps shown =>
    obtain ⟨hps, hshown⟩ := List.forall_mem_cons.1 h
    exact hps.append (nestsWithin_following hshown)

theorem nestsWithin_enclosed {n : Nat} {shown : List (List Piece)}
    (h : ∀ ps ∈ shown, NestsWithin n ps)
    (b : Bracket) (total : Nat) : NestsWithin (n + 1) (enclosed b total shown) := by
  have hdots : NestsWithin n (if shown.length < total then
      (if shown = [] then [.word "..."] else [.word ", ", .word "..."]) else []) := by
    split
    · split
      · exact nestsWithin_word n "..."
      · exact (nestsWithin_word n ", ").append (nestsWithin_word n "...")
    · exact nestsWithin_nil n
  have htotal : NestsWithin (n + 1) (if shown.length < total then
      [.word (" (" ++ Decimal.natText total ++ " total)")] else []) := by
    split
    · exact nestsWithin_word _ _
    · exact nestsWithin_nil _
  have hbody := ((nestsWithin_separated h).append hdots).bracketed b
  have hwhole := hbody.append htotal
  simpa only [enclosed, List.append_assoc, List.cons_append, List.nil_append] using hwhole

def collapsed (b : Bracket) : List Piece := [.opening b, .word "...", .closing b]

theorem nestsWithin_collapsed (n : Nat) (b : Bracket) : NestsWithin (n + 1) (collapsed b) :=
  (nestsWithin_word n "...").bracketed b

theorem render_collapsed (b : Bracket) : render (collapsed b) = b.collapsed := by
  simp only [collapsed, render_cons, render_nil, String.append_empty, Bracket.collapsed,
    String.append_assoc]
  rfl

section

variable (limits : PreviewLimits) (display : Display) (w : World)

/-- The pieces written for a value within `depth` collections, if calls of the writer may be nested
`calls` deep, the one for the value included; none where they would go deeper. -/
def written? : (calls depth : Nat) → Value → Option (List Piece)
  | 0, _, _ => none
  | calls + 1, depth, .list l =>
    if limits.depth ≤ depth then some (collapsed .square)
    else
      (((w.items l).take limits.list).mapM fun p => written? calls (depth + 1) (itemValue w p)).map
        (enclosed .square (w.items l).length)
  | calls + 1, depth, .dict d =>
    if limits.depth ≤ depth then some (collapsed .curly)
    else
      (((w.entries d).entries.take limits.dict).mapM fun e =>
        (written? calls (depth + 1) (itemValue w e.2)).map fun ps =>
          .word e.1.display :: .word ": " :: ps).map
        (enclosed .curly (w.entries d).size)
  | _ + 1, _, v => some [.word (leaf w display v)]

variable {limits display w}

theorem mapM_some {α β : Type} {f : α → Option β} {g : α → β}
    (h : ∀ x, f x = some (g x)) (xs : List α) :
    xs.mapM f = some (xs.map g) := by
  obtain rfl : f = fun x => pure (g x) := funext h
  exact List.mapM_pure

/-- With `n` more collections to be opened, `n + 1` calls or more write these pieces. They make up
the text of the value, and a collapsed collection in them has one bracket open besides those of the
collections around it. -/
structure Writes (limits : PreviewLimits) (display : Display) (w : World)
    (n depth : Nat) (v : Value)
    (ps : List Piece) : Prop where
  written?_eq : ∀ calls, n ≤ calls → written? limits display w (calls + 1) depth v = some ps
  render_eq : render ps = textAt limits display w depth v
  nests : NestsWithin (n + 1) ps

variable {n depth : Nat}

theorem writes_leaf {v : Value} (hv : v.isCollection = false) :
    Writes limits display w n depth v [.word (leaf w display v)] where
  written?_eq calls _ := by
    cases v with
    | list l => contradiction
    | dict d => contradiction
    | _ => rfl
  render_eq := by rw [render_word, textAt_of_not_collection hv]
  nests := nestsWithin_word _ _

theorem writes_collapsed (h : limits.depth ≤ depth) {v : Value} {b : Bracket}
    (hwritten : ∀ calls, written? limits display w (calls + 1) depth v = some (collapsed b))
    (hleaf : leaf w display v = b.collapsed) : Writes limits display w n depth v (collapsed b) where
  written?_eq calls _ := hwritten calls
  render_eq := by rw [render_collapsed, textAt_of_le h, hleaf]
  nests := nestsWithin_collapsed n b

theorem writes_list (h : depth < limits.depth) {f : Value → List Piece}
    (hf : ∀ v, Writes limits display w n (depth + 1) v (f v)) (l : ListRef) :
    Writes limits display w (n + 1) depth (.list l)
      (enclosed .square (w.items l).length (((w.items l).take limits.list).map fun p =>
        f (itemValue w p))) where
  written?_eq calls hcalls := by
    obtain ⟨c, rfl⟩ := Nat.exists_eq_succ_of_ne_zero (Nat.ne_zero_of_lt hcalls)
    have hitem (p : Payload) : written? limits display w (c + 1) (depth + 1) (itemValue w p) =
        some (f (itemValue w p)) := (hf (itemValue w p)).written?_eq c
          (Nat.le_of_succ_le_succ hcalls)
    rw [written?, if_neg (Nat.not_le.2 h), mapM_some hitem]
    rfl
  render_eq := by
    rw [render_enclosed, textAt_list h, List.map_map]
    exact congrArg _ (List.map_congr_left fun p _ => (hf (itemValue w p)).render_eq)
  nests := by
    refine nestsWithin_enclosed (fun ps hps => ?_) _ _
    obtain ⟨p, -, rfl⟩ := List.mem_map.1 hps
    exact (hf (itemValue w p)).nests

theorem writes_dict (h : depth < limits.depth) {f : Value → List Piece}
    (hf : ∀ v, Writes limits display w n (depth + 1) v (f v)) (d : DictRef) :
    Writes limits display w (n + 1) depth (.dict d)
      (enclosed .curly (w.entries d).size (((w.entries d).entries.take limits.dict).map fun e =>
        .word e.1.display :: .word ": " :: f (itemValue w e.2))) where
  written?_eq calls hcalls := by
    obtain ⟨c, rfl⟩ := Nat.exists_eq_succ_of_ne_zero (Nat.ne_zero_of_lt hcalls)
    have hentry (e : Key × Payload) :
        ((written? limits display w (c + 1) (depth + 1) (itemValue w e.2)).map fun ps =>
          Piece.word e.1.display :: .word ": " :: ps) =
        some (.word e.1.display :: .word ": " :: f (itemValue w e.2)) := by
      rw [(hf (itemValue w e.2)).written?_eq c (Nat.le_of_succ_le_succ hcalls), Option.map_some]
    rw [written?, if_neg (Nat.not_le.2 h), mapM_some hentry]
    rfl
  render_eq := by
    rw [render_enclosed, textAt_dict h, List.map_map]
    refine congrArg _ (List.map_congr_left fun e _ => ?_)
    rw [Function.comp_apply, render_labelled, (hf (itemValue w e.2)).render_eq]
  nests := by
    refine nestsWithin_enclosed (fun ps hps => ?_) _ _
    obtain ⟨e, -, rfl⟩ := List.mem_map.1 hps
    have hlabel := (nestsWithin_word (n + 1) e.1.display).append (nestsWithin_word (n + 1) ": ")
    exact hlabel.append (hf (itemValue w e.2)).nests

/-- By induction on how many collections may still be opened. -/
theorem exists_writes (hn : limits.depth - depth = n) (v : Value) :
    ∃ ps, Writes limits display w n depth v ps := by
  induction n generalizing depth v with
  | zero =>
    have hdepth : limits.depth ≤ depth := Nat.le_of_sub_eq_zero hn
    cases v with
    | list l => exact ⟨_, writes_collapsed hdepth (fun _ => if_pos hdepth) rfl⟩
    | dict d => exact ⟨_, writes_collapsed hdepth (fun _ => if_pos hdepth) rfl⟩
    | _ => exact ⟨_, writes_leaf rfl⟩
  | succ n ih =>
    have hdepth : depth < limits.depth := by omega
    have hnext : limits.depth - (depth + 1) = n := by omega
    choose f hf using ih hnext
    cases v with
    | list l => exact ⟨_, writes_list hdepth hf l⟩
    | dict d => exact ⟨_, writes_dict hdepth hf d⟩
    | _ => exact ⟨_, writes_leaf rfl⟩

end

/-- However collections hold each other, a value within `depth` collections is written by calls
nested no deeper than the collections that may still be opened and one more, and no more brackets
than that are open at any point. What is written is the text of the value, which is its preview
where `depth` is zero. -/
theorem preview_finished (limits : PreviewLimits) (display : Display) (w : World)
    (depth : Nat) (v : Value) :
    ∃ ps, (∀ calls, limits.depth - depth + 1 ≤ calls →
      written? limits display w calls depth v = some ps) ∧
      render ps = textAt limits display w depth v ∧
      ∀ qs, qs <+: ps → qs.countP isOpening ≤ qs.countP isClosing + (limits.depth - depth + 1) := by
  obtain ⟨ps, hps⟩ : ∃ ps, Writes limits display w (limits.depth - depth) depth v ps :=
    exists_writes rfl v
  refine ⟨ps, fun calls hcalls => ?_, hps.render_eq, hps.nests.open_le⟩
  obtain ⟨c, rfl⟩ := Nat.exists_eq_succ_of_ne_zero (Nat.ne_zero_of_lt hcalls)
  exact hps.written?_eq c (Nat.le_of_succ_le_succ hcalls)

open World in
/-- A list that is its own only item is written in four calls, and not in three. -/
theorem preview_finished_cyclic :
    let l : ListRef := ⟨0, .any⟩
    let w := setItems default l [.list l]
    written? {} (fun _ => none) w 3 0 (.list l) = none ∧
      ∃ ps, written? {} (fun _ => none) w 4 0 (.list l) = some ps ∧ render ps = "[[[[...]]]]" := by
  intro l w
  obtain ⟨ps, hps, htext, -⟩ := preview_finished {} (fun _ => none) w 0 (.list l)
  exact ⟨by decide, ps, hps 4 (Nat.le_refl 4), htext.trans (by decide)⟩

end Preview

end LateBound
