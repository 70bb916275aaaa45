import Mathlib.Data.List.Forall2
import LateBound.Proofs.DictEnumeration
import LateBound.Proofs.Preview
/-! What a preview depends on. Two worlds that agree on what is shown of a value give it one text,
whatever else they hold; a collection may well be shown at one place and passed over at another, so
the agreement is on places and not on collections. -/
namespace LateBound

namespace World

/-- The same types and functions are declared in both worlds, so a value that is one of them
shows alike. -/
structure SameDeclarations (w w' : World) : Prop where
  catalogs_eq : w'.catalogs = w.catalogs
  functions_eq : w'.functions = w.functions

namespace SameDeclarations

variable {w w' : World}

theorem overloads_eq (h : SameDeclarations w w') (g : MethodGroup) :
    w'.overloads g = w.overloads g := by
  have hcatalog (t : TypeRef) : w'.catalog t = w.catalog t := by
    unfold catalog
    rw [h.catalogs_eq]
  simp only [overloads, hcatalog]

theorem signature_eq (h : SameDeclarations w w') (f : Callable) :
    w'.signature f = w.signature f := by
  cases f with
  | declared id => simp only [signature, h.functions_eq]
  | forwarding id g => rfl

end SameDeclarations

end World

namespace Preview

/-- The items that a preview shows of a value within `depth` collections. -/
def shownItems (limits : PreviewLimits) (w : World) (depth : Nat) (v : Value) : List Value :=
  if depth < limits.depth then
    match v with
    | .list l => ((w.items l).take limits.list).map (itemValue w)
    | .dict d => ((w.entries d).entries.take limits.dict).map fun e => itemValue w e.2
    | _ => []
  else []

def Shown (limits : PreviewLimits) (w : World) : (root : Value) → (depth : Nat) → Value → Prop :=
  Reached (shownItems limits w)

theorem Shown.listItem {limits : PreviewLimits} {w : World} {root : Value} {depth : Nat}
    {l : ListRef} {p : Payload}
    (hl : Shown limits w root depth (.list l)) (hdepth : depth < limits.depth)
    (hp : p ∈ (w.items l).take limits.list) : Shown limits w root (depth + 1) (itemValue w p) := by
  refine .item hl ?_
  rw [shownItems, if_pos hdepth]
  exact List.mem_map_of_mem hp

theorem Shown.dictItem {limits : PreviewLimits} {w : World} {root : Value}
    {depth : Nat} {d : DictRef}
    {e : Key × Payload} (hd : Shown limits w root depth (.dict d)) (hdepth : depth < limits.depth)
    (he : e ∈ (w.entries d).entries.take limits.dict) :
    Shown limits w root (depth + 1) (itemValue w e.2) := by
  refine .item hd ?_
  rw [shownItems, if_pos hdepth]
  exact List.mem_map_of_mem he

/-- One item of a list is shown as the other, each in its world: both are one collection, or neither
is one. -/
def ItemAlike (w w' : World) (p p' : Payload) : Prop := (itemValue w p).Alike (itemValue w' p')

/-- One entry of a dictionary is shown as the other, each in its world. -/
def EntryAlike (w w' : World) (e e' : Key × Payload) :
    Prop := (e.1 == e'.1) = true ∧ ItemAlike w w' e.2 e'.2

theorem itemsAlike_refl (w w' : World) (ps : List Payload) : List.Forall₂ (ItemAlike w w') ps ps :=
  List.forall₂_same.2 fun p _ => World.box_alike w w' p

theorem entriesAlike_refl (w w' : World) (es : List (Key × Payload)) :
    List.Forall₂ (EntryAlike w w') es es :=
  List.forall₂_same.2 fun e _ => ⟨BEq.refl e.1, World.box_alike w w' e.2⟩

/-- The worlds agree on the size and on the items shown of every collection that is opened. -/
structure Agree (limits : PreviewLimits) (w w' : World) (root : Value) : Prop where
  lists : ∀ depth l, Shown limits w root depth (.list l) → depth < limits.depth →
    (w'.items l).length = (w.items l).length ∧
      List.Forall₂ (ItemAlike w w') ((w.items l).take limits.list) ((w'.items l).take limits.list)
  dicts : ∀ depth d, Shown limits w root depth (.dict d) → depth < limits.depth →
    (w'.entries d).size = (w.entries d).size ∧
      List.Forall₂ (EntryAlike w w') ((w.entries d).entries.take limits.dict)
        ((w'.entries d).entries.take limits.dict)

variable {limits : PreviewLimits} {display : Display} {w w' : World} {root : Value}

theorem leaf_alike (hdecl : w.SameDeclarations w') {v v' : Value} (h : v.Alike v') :
    leaf w' display v' = leaf w display v := by
  obtain rfl | ⟨s, t, rfl, rfl, hcontent⟩ := h
  · cases v with
    | method g => simp only [leaf, hdecl.overloads_eq]
    | function f => simp only [leaf, hdecl.signature_eq]
    | number n => cases n <;> rfl
    | _ => rfl
  · simp only [leaf, hcontent]

theorem map_eq_of_forall₂ {α β γ : Type} {R : α → β → Prop} {f : α → γ} {g : β → γ}
    {xs : List α} {ys : List β}
    (h : List.Forall₂ R xs ys) (hfg : ∀ x ∈ xs, ∀ y, R x y → g y = f x) : ys.map g = xs.map f := by
  induction h with
  | nil => rfl
  | cons hR _ ih =>
    obtain ⟨hx, hxs⟩ := List.forall_mem_cons.1 hfg
    rw [List.map_cons, List.map_cons, hx _ hR, ih hxs]

/-- By induction on how many collections may still be opened. A collection is compared with itself
only at the places where it is opened; where it is not, nothing of it is looked at. -/
theorem pieces_eq_of_agree (hdecl : w.SameDeclarations w')
    (hagree : Agree limits w w' root) {n depth : Nat}
    (hn : limits.depth - depth = n) {v v' : Value}
    (hv : Shown limits w root depth v) (h : v.Alike v') :
    pieces limits display w' n v' = pieces limits display w n v := by
  induction n generalizing depth v v' with
  | zero => rw [pieces_zero, pieces_zero, leaf_alike hdecl h]
  | succ n ih =>
    have hdepth : depth < limits.depth := by omega
    have hnext : limits.depth - (depth + 1) = n := by omega
    by_cases hcollection : v.isCollection = true
    · obtain rfl | ⟨s, t, rfl, -, -⟩ := h
      · cases v with
        | list l =>
          obtain ⟨hlength, hitems⟩ := hagree.lists depth l hv hdepth
          have hpieces := map_eq_of_forall₂ hitems fun p hp p' hp' =>
            ih hnext (hv.listItem hdepth hp) hp'
          rw [pieces, pieces, hlength, hpieces]
        | dict d =>
          obtain ⟨hsize, hentries⟩ := hagree.dicts depth d hv hdepth
          have hpieces (e : Key × Payload) (he : e ∈ (w.entries d).entries.take limits.dict)
            (e' : Key × Payload)
              (halike : EntryAlike w w' e e') :
              .word e'.1.display :: .word ": " :: pieces limits display w' n (itemValue w' e'.2) =
                .word e.1.display :: .word ": " :: pieces limits display w n (itemValue w e.2) := by
            rw [Key.display_eq_of_beq halike.1, ih hnext (hv.dictItem hdepth he) halike.2]
          rw [pieces, pieces, hsize, map_eq_of_forall₂ hentries hpieces]
        | _ => contradiction
      · contradiction
    · have hleft : v.isCollection = false := Bool.eq_false_of_not_eq_true hcollection
      have hright : v'.isCollection = false := by
        obtain rfl | ⟨s, t, -, rfl, -⟩ := h
        · exact hleft
        · rfl
      rw [pieces_of_not_collection hleft, pieces_of_not_collection hright, leaf_alike hdecl h]

theorem text_eq_of_agree (hdecl : w.SameDeclarations w') (hagree : Agree limits w w' root) :
    text limits display w' root = text limits display w root :=
  congrArg Piece.render (pieces_eq_of_agree hdecl hagree rfl .root (.inl rfl))

theorem agree_setItems {l : ListRef} {ps : List Payload}
    (h : ∀ depth l', depth < limits.depth → l'.id = l.id → Shown limits w root depth (.list l') →
      ps.length = (w.items l).length ∧ ps.take limits.list = (w.items l).take limits.list) :
    Agree limits w (w.setItems l ps) root where
  lists depth l' hl' hdepth := by
    rw [World.items_setItems]
    split
    · rename_i hid
      have hitems : w.items l' = w.items l := by rw [World.items, World.items, hid]
      obtain ⟨hlength, htake⟩ := h depth l' hdepth hid.symm hl'
      rw [hitems, hlength, htake]
      exact ⟨rfl, itemsAlike_refl _ _ _⟩
    · exact ⟨rfl, itemsAlike_refl _ _ _⟩
  dicts depth d hd hdepth := ⟨rfl, entriesAlike_refl _ _ _⟩

theorem agree_setEntries {d : DictRef} {m : Entries}
    (h : ∀ depth d', depth < limits.depth → d'.id = d.id → Shown limits w root depth (.dict d') →
      m.size = (w.entries d).size ∧
      m.entries.take limits.dict = (w.entries d).entries.take limits.dict) :
    Agree limits w (w.setEntries d m) root where
  lists depth l hl hdepth := ⟨rfl, itemsAlike_refl _ _ _⟩
  dicts depth d' hd' hdepth := by
    rw [World.entries_setEntries]
    split
    · rename_i hid
      have hentries : w.entries d' = w.entries d := by rw [World.entries, World.entries, hid]
      obtain ⟨hsize, htake⟩ := h depth d' hdepth hid.symm hd'
      rw [hentries, hsize, htake]
      exact ⟨rfl, entriesAlike_refl _ _ _⟩
    · exact ⟨rfl, entriesAlike_refl _ _ _⟩

/-- Worlds that agree on what is shown of a value show it with one text. So the text is not changed
by a write to an item that no preview of its collection comes to, and not by any write to a
collection that is nowhere opened. -/
theorem preview_determined (limits : PreviewLimits) (display : Display) (w : World) (v : Value) :
    (∀ w', w.SameDeclarations w' → Agree limits w w' v →
      text limits display w' v = text limits display w v) ∧
    (∀ l i p, limits.list ≤ i →
      text limits display (w.setItems l ((w.items l).set i p)) v = text limits display w v) ∧
    (∀ d i e, limits.dict ≤ i →
      text limits display (w.setEntries d ⟨(w.entries d).entries.set i e⟩) v =
        text limits display w v) ∧
    (∀ l ps, (∀ depth l', depth < limits.depth → l'.id = l.id →
      ¬Shown limits w v depth (.list l')) →
      text limits display (w.setItems l ps) v = text limits display w v) ∧
    ∀ d m, (∀ depth d', depth < limits.depth → d'.id = d.id → ¬Shown limits w v depth (.dict d')) →
      text limits display (w.setEntries d m) v = text limits display w v := by
  refine ⟨fun w' => text_eq_of_agree, fun l i p hi => ?_, fun d i e hi => ?_, fun l ps hl =>
    ?_, fun d m hd => ?_⟩
  · have hkept : ((w.items l).set i p).take limits.list = (w.items l).take limits.list :=
      List.take_set_of_le hi
    exact text_eq_of_agree ⟨rfl, rfl⟩ (agree_setItems fun _ _ _ _ _ => ⟨List.length_set, hkept⟩)
  · have hkept : ((w.entries d).entries.set i e).take limits.dict =
      (w.entries d).entries.take limits.dict :=
      List.take_set_of_le hi
    exact text_eq_of_agree ⟨rfl, rfl⟩ (agree_setEntries fun _ _ _ _ _ => ⟨List.length_set, hkept⟩)
  · exact text_eq_of_agree ⟨rfl, rfl⟩
      (agree_setItems fun depth l' hdepth hid hl' => absurd hl' (hl depth l' hdepth hid))
  · exact text_eq_of_agree ⟨rfl, rfl⟩
      (agree_setEntries fun depth d' hdepth hid hd' => absurd hd' (hd depth d' hdepth hid))

open World in
/-- A list with itself and with another list in it: of the first no item past the third is shown, of
the second none at all. -/
theorem preview_determined_cyclic :
    let l : ListRef := ⟨0, .any⟩
    let hidden : ListRef := ⟨1, .any⟩
    let limits : PreviewLimits := { list := 3, depth := 1 }
    let w := setItems default l [.list l, .list hidden, .text ⟨5, "a"⟩, .int 7]
    let w' := setItems default l [.list l, .list hidden, .text ⟨6, "a"⟩, .bool true]
    let shown := text limits (fun _ => none) w (.list l)
    shown = "[[...], [...], \"a\", ...] (4 total)" ∧ Agree limits w w' (.list l) ∧
      text limits (fun _ => none) w' (.list l) = shown ∧
      ∀ ps, text limits (fun _ => none) (w.setItems hidden ps) (.list l) = shown := by
  intro l hidden limits w w' shown
  obtain ⟨hagree, -, -, hhidden, -⟩ := preview_determined limits (fun _ => none) w (.list l)
  have halike : Agree limits w w' (.list l) := by
    refine ⟨fun depth m hm hdepth => ?_, fun depth d hd hdepth => ⟨rfl, .nil⟩⟩
    rw [items_setItems, items_setItems]
    split
    · exact ⟨rfl, .cons (.inl rfl) (.cons (.inl rfl) (.cons (.inr ⟨_, _, rfl, rfl, rfl⟩) .nil))⟩
    · exact ⟨rfl, .nil⟩
  refine ⟨by decide, halike, hagree w' ⟨rfl, rfl⟩ halike, fun ps => hhidden hidden ps ?_⟩
  intro depth m hdepth hid hm
  obtain rfl : depth = 0 := Nat.lt_one_iff.1 hdepth
  cases hm
  contradiction

end Preview
end LateBound
