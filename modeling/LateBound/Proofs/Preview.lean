import LateBound.Preview
/-! The text of a preview, said without the pieces it is written in: what a collection looks like at
every depth, whole or cut off or collapsed. Main statement: previews are the text so described, and
without limits nothing is left out. -/
namespace LateBound

namespace Piece

theorem render_nil : render [] = "" := rfl

theorem render_cons (p : Piece) (ps : List Piece) : render (p :: ps) = p.text ++ render ps :=
  String.join_cons

theorem render_append (ps qs : List Piece) : render (ps ++ qs) = render ps ++ render qs := by
  rw [render, List.map_append, String.join_append]
  rfl

theorem render_word (s : String) : render [.word s] = s := by
  rw [render_cons, render_nil, String.append_empty]
  rfl

theorem render_labelled (s : String) (ps : List Piece) :
    render (.word s :: .word ": " :: ps) = s ++ ": " ++ render ps := by
  rw [render_cons, render_cons, ← String.append_assoc]
  rfl

end Piece

namespace Value

def isCollection : Value → Bool
  | .list _ | .dict _ => true
  | _ => false

end Value

namespace Preview

open Piece

def listing (b : Bracket) (total : Nat) (shown : List String) : String :=
  if shown.length < total then
    b.opening ++ ", ".intercalate (shown ++ ["..."]) ++ b.closing ++ " (" ++
      Decimal.natText total ++ " total)"
  else b.opening ++ ", ".intercalate shown ++ b.closing

theorem following_append (xs ys : List (List Piece)) :
    following (xs ++ ys) = following xs ++ following ys := by
  induction xs with
  | nil => rfl
  | cons ps xs ih => simp only [List.cons_append, following, ih, List.append_assoc]

theorem separated_concat (xs : List (List Piece)) (ps : List Piece) :
    separated (xs ++ [ps]) = separated xs ++ if xs = [] then ps else .word ", " :: ps := by
  cases xs with
  | nil => exact List.append_nil ps
  | cons qs xs =>
    rw [if_neg nofun]
    simp only [List.cons_append, separated, following_append, following, List.append_nil,
      List.append_assoc]

theorem render_separated (xs : List (List Piece)) :
    render (separated xs) = ", ".intercalate (xs.map render) := by
  induction xs with
  | nil => exact String.intercalate_nil.symm
  | cons ps xs ih =>
    cases xs with
    | nil =>
      rw [List.map_singleton, String.intercalate_singleton]
      exact congrArg render (List.append_nil ps)
    | cons qs xs =>
      calc render (separated (ps :: qs :: xs))
        _ = render ps ++ ", " ++ render (separated (qs :: xs)) := by
          simp only [separated, following, render_append, render_cons, Piece.text,
            String.append_assoc]
        _ = ", ".intercalate ((ps :: qs :: xs).map render) := by
          rw [ih]
          exact String.intercalate_cons_cons.symm

theorem render_enclosed (b : Bracket) (total : Nat) (shown : List (List Piece)) :
    render (enclosed b total shown) = listing b total (shown.map render) := by
  unfold enclosed listing
  rw [List.length_map]
  split
  · have hdots : (if shown = [] then [.word "..."] else [.word ", ", .word "..."] : List Piece) =
        if shown = [] then [.word "..."] else .word ", " :: [.word "..."] := rfl
    rw [hdots, List.cons_append, ← separated_concat]
    simp only [render_cons, render_append, render_separated, render_nil, List.map_append,
      List.map_cons,
      List.map_nil, Piece.text, String.append_assoc, String.append_empty]
  · simp only [render_cons, render_append, render_separated, render_nil, List.append_nil,
      List.cons_append,
      Piece.text, String.append_assoc, String.append_empty]

section

variable (limits : PreviewLimits) (display : Display) (w : World)

/-- The text of a value within `depth` collections. -/
def textAt (depth : Nat) (v : Value) : String :=
  render (pieces limits display w (limits.depth - depth) v)

/-- The text of a value within `depth` collections, put together from the texts of its items. -/
def described (depth : Nat) : Value → String
  | .list l =>
    if depth < limits.depth then
      listing .square (w.items l).length
        (((w.items l).take limits.list).map fun p => described (depth + 1) (itemValue w p))
    else "[...]"
  | .dict d =>
    if depth < limits.depth then
      listing .curly (w.entries d).size
        (((w.entries d).entries.take limits.dict).map fun e =>
          e.1.display ++ ": " ++ described (depth + 1) (itemValue w e.2))
    else "\x7b...\x7d"
  | v => leaf w display v
termination_by limits.depth - depth

variable {limits display w} {depth : Nat}

theorem textAt_list (h : depth < limits.depth) (l : ListRef) :
    textAt limits display w depth (.list l) = listing .square (w.items l).length
      (((w.items l).take limits.list).map fun p =>
        textAt limits display w (depth + 1) (itemValue w p)) := by
  have hdepth : limits.depth - depth = limits.depth - (depth + 1) + 1 := by omega
  rw [textAt, hdepth, pieces, render_enclosed, List.map_map]
  rfl

theorem textAt_dict (h : depth < limits.depth) (d : DictRef) :
    textAt limits display w depth (.dict d) = listing .curly (w.entries d).size
      (((w.entries d).entries.take limits.dict).map fun e =>
        e.1.display ++ ": " ++ textAt limits display w (depth + 1) (itemValue w e.2)) := by
  have hdepth : limits.depth - depth = limits.depth - (depth + 1) + 1 := by omega
  rw [textAt, hdepth, pieces, render_enclosed, List.map_map]
  exact congrArg _ (List.map_congr_left fun e _ => render_labelled e.1.display _)

theorem pieces_zero (v : Value) : pieces limits display w 0 v = [.word (leaf w display v)] := rfl

theorem textAt_of_le (h : limits.depth ≤ depth) (v : Value) :
    textAt limits display w depth v = leaf w display v := by
  rw [textAt, Nat.sub_eq_zero_of_le h, pieces_zero, render_word]

theorem pieces_of_not_collection {v : Value} (hv : v.isCollection = false) (n : Nat) :
    pieces limits display w n v = [.word (leaf w display v)] := by
  cases n with
  | zero => exact pieces_zero v
  | succ n =>
    cases v with
    | list l => contradiction
    | dict d => contradiction
    | _ => rfl

theorem textAt_of_not_collection {v : Value} (hv : v.isCollection = false) :
    textAt limits display w depth v = leaf w display v := by
  rw [textAt, pieces_of_not_collection hv, render_word]

theorem textAt_eq_described (depth : Nat) (v : Value) :
    textAt limits display w depth v = described limits display w depth v := by
  fun_induction described limits display w depth v with
  | case1 depth l h ih => simp only [textAt_list h, ih]
  | case2 depth l h => exact textAt_of_le (Nat.not_lt.1 h) _
  | case3 depth d h ih => simp only [textAt_dict h, ih]
  | case4 depth d h => exact textAt_of_le (Nat.not_lt.1 h) _
  | case5 depth v hlist hdict =>
    have hv : v.isCollection = false := by
      cases v with
      | list l => exact absurd rfl (hlist l)
      | dict d => exact absurd rfl (hdict d)
      | _ => rfl
    exact textAt_of_not_collection hv

end

def itemValues (w : World) : Value → List Value
  | .list l => (w.items l).map (itemValue w)
  | .dict d => (w.entries d).values.map (itemValue w)
  | _ => []

/-- What is reached from a value, and through how many collections, by going on to one of the
`items` of a collection again and again. -/
inductive Reached (items : Nat → Value → List Value) (root : Value) : Nat → Value → Prop
  | root : Reached items root 0 root
  | item {depth : Nat} {u v : Value} (hu : Reached items root depth u) (hv : v ∈ items depth u) :
      Reached items root (depth + 1) v

def Within (w : World) : (root : Value) → (depth : Nat) → Value → Prop :=
  Reached fun _ => itemValues w

/-- Collections are nested at most `n` deep within the value, so none of them holds itself, and have
at most `n` items. -/
def Bounded (w : World) (n : Nat) (root : Value) : Prop :=
  ∀ depth v, Within w root depth v → v.isCollection = true → depth < n ∧ (itemValues w v).length ≤ n

section

variable {display : Display} {w : World} {root : Value}

theorem listing_of_length {total : Nat} {shown : List String}
    (h : shown.length = total) (b : Bracket) :
    listing b total shown = b.opening ++ ", ".intercalate shown ++ b.closing :=
  if_neg (Nat.not_lt.2 (Nat.le_of_eq h.symm))

theorem textAt_unlimited_list (hroot : Bounded w PreviewLimits.greatest root)
    {depth : Nat} {l : ListRef}
    (hl : Within w root depth (.list l)) :
    textAt .unlimited display w depth (.list l) = "[" ++ ", ".intercalate
      ((w.items l).map fun p => textAt .unlimited display w (depth + 1) (itemValue w p)) ++
        "]" := by
  obtain ⟨hdepth, hlength⟩ := hroot depth _ hl rfl
  rw [itemValues, List.length_map] at hlength
  have hall : (w.items l).take PreviewLimits.unlimited.list = w.items l :=
    List.take_of_length_le hlength
  rw [textAt_list hdepth, hall]
  exact listing_of_length (List.length_map _) .square

theorem textAt_unlimited_dict (hroot : Bounded w PreviewLimits.greatest root)
    {depth : Nat} {d : DictRef}
    (hd : Within w root depth (.dict d)) :
    textAt .unlimited display w depth (.dict d) = "\x7b" ++ ", ".intercalate
      ((w.entries d).entries.map fun e =>
        e.1.display ++ ": " ++ textAt .unlimited display w (depth + 1) (itemValue w e.2)) ++
          "\x7d" := by
  obtain ⟨hdepth, hlength⟩ := hroot depth _ hd rfl
  rw [itemValues, List.length_map, OrderedMap.values, List.length_map] at hlength
  have hall : (w.entries d).entries.take PreviewLimits.unlimited.dict = (w.entries d).entries :=
    List.take_of_length_le hlength
  rw [textAt_dict hdepth, hall]
  exact listing_of_length (List.length_map _) .curly

end

/-- Previews are the texts described: a collection within `limits.depth` others is collapsed,
and of any other as many items are shown as the limit of its kind allows, with dots for the rest
and the number of all. With limits that no size or nesting exceeds, all items of all collections
are shown. -/
theorem preview_described (w : World) :
    (∀ limits v, w.preview limits v = described limits (w.display (w.objects.size + 1)) w 0 v) ∧
    (∀ limits display depth v, textAt limits display w depth v =
      described limits display w depth v) ∧
    ∀ display root, Bounded w PreviewLimits.greatest root → ∀ depth,
      (∀ l, Within w root depth (.list l) →
        textAt .unlimited display w depth (.list l) = "[" ++ ", ".intercalate
          ((w.items l).map fun p => textAt .unlimited display w (depth + 1) (itemValue w p)) ++
            "]") ∧
      ∀ d, Within w root depth (.dict d) →
        textAt .unlimited display w depth (.dict d) = "\x7b" ++ ", ".intercalate
          ((w.entries d).entries.map fun e =>
            e.1.display ++ ": " ++ textAt .unlimited display w (depth + 1) (itemValue w e.2)) ++
              "\x7d" := by
  refine ⟨fun limits v => ?_, fun limits display depth v => textAt_eq_described depth v,
    fun display root hroot depth => ⟨fun l hl => textAt_unlimited_list hroot hl,
      fun d hd => textAt_unlimited_dict hroot hd⟩⟩
  exact textAt_eq_described 0 v

/-- A dictionary with a list of eleven items, one more than are usually shown. -/
theorem preview_described_unlimited :
    let inner := World.newList .any (List.replicate 11 .null) default
    let outer := World.newDict .string .any ⟨[(.text ⟨9, "k"⟩, .list inner.1)]⟩ inner.2
    let nulls (n : Nat) := List.replicate n "null"
    Bounded outer.2 PreviewLimits.greatest (.dict outer.1) ∧
      outer.2.preview {} (.dict outer.1) =
        "\x7b\"k\": [" ++ ", ".intercalate (nulls 10 ++ ["..."]) ++ "] (11 total)\x7d" ∧
      text .unlimited (fun _ => none) outer.2 (.dict outer.1) =
        "\x7b\"k\": [" ++ ", ".intercalate (nulls 11) ++ "]\x7d" := by
  intro inner outer nulls
  have hroot : Within outer.2 (.dict outer.1) 0 (.dict outer.1) := .root
  have hlist : Within outer.2 (.dict outer.1) 1 (.list inner.1) :=
    .item hroot (List.mem_singleton_self _)
  have hwithin (depth : Nat) (v : Value) (h : Within outer.2 (.dict outer.1) depth v) :
      depth = 0 ∧ v = .dict outer.1 ∨ depth = 1 ∧ v = .list inner.1 ∨ v = .null := by
    induction h with
    | root => exact .inl ⟨rfl, rfl⟩
    | item hu hv ih =>
      obtain ⟨rfl, rfl⟩ | ⟨rfl, rfl⟩ | rfl := ih
      · exact .inr (.inl ⟨rfl, List.mem_singleton.1 hv⟩)
      · exact .inr (.inr (List.eq_of_mem_replicate (n := 11) hv))
      · contradiction
  have hbounded : Bounded outer.2 PreviewLimits.greatest (.dict outer.1) := by
    intro depth v h hv
    obtain ⟨rfl, rfl⟩ | ⟨rfl, rfl⟩ | rfl := hwithin depth v h
    · decide
    · decide
    · contradiction
  obtain ⟨-, -, hwhole⟩ := preview_described outer.2
  have hd := (hwhole (fun _ => none) _ hbounded 0).2 _ hroot
  have hl := (hwhole (fun _ => none) _ hbounded 1).1 _ hlist
  refine ⟨hbounded, by decide, ?_⟩
  calc text .unlimited (fun _ => none) outer.2 (.dict outer.1)
    _ = "\x7b" ++ ", ".intercalate
        [Text.quoted "k" ++ ": " ++ textAt .unlimited (fun _ => none) outer.2 1 (.list inner.1)] ++
          "\x7d" := hd
    _ = "\x7b\"k\": [" ++ ", ".intercalate (nulls 11) ++ "]\x7d" := by
      rw [hl]
      decide

end Preview
end LateBound
