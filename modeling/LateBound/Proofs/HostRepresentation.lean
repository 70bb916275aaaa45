import Mathlib.Data.List.Forall2
import LateBound.Proofs.DictEnumeration
import LateBound.Proofs.HostData
import LateBound.Proofs.Stability
/-! What host data is handed out as. Strings and sequences leave the host as new texts and lists, so
data that is handed out twice is told apart by number; its content is the same, and the same data is
read back from either. -/
namespace LateBound

/-- Payloads of one content, each in its world: equal ones, texts of one content, and lists of one
element type whose items are so in turn. -/
inductive Payload.Mirrors (w w' : World) : Payload → Payload → Prop
  | same (p : Payload) : Payload.Mirrors w w' p p
  | text {s t : Text} (h : s.content = t.content) : Payload.Mirrors w w' (.text s) (.text t)
  | list {l l' : ListRef} (helement : l.element = l'.element)
      (hitems : List.Forall₂ (Payload.Mirrors w w') (w.items l) (w'.items l')) :
      Payload.Mirrors w w' (.list l) (.list l')

def Value.Mirrors (w w' : World) (u v : Value) : Prop :=
  u.Alike v ∨ ∃ l l', u = .list l ∧ v = .list l' ∧ Payload.Mirrors w w' (.list l) (.list l')

theorem Payload.Mirrors.box {w w' : World} {p p' : Payload} (h : Mirrors w w' p p') :
    Value.Mirrors (w.box p).2 (w'.box p').2 (w.box p).1 (w'.box p').1 := by
  cases h with
  | same p => exact .inl (World.box_alike w w' p)
  | text h => exact .inl (.inr ⟨_, _, rfl, rfl, h⟩)
  | list helement hitems => exact .inr ⟨_, _, rfl, rfl, .list helement hitems⟩

namespace Payload

/-- The payload converts to the type as it is, whether it has the type already or the type
is wider. -/
def StandsAs (p : Payload) (t : DeclaredType) : Prop :=
  ∀ next, ∃ cost, (cost = Conversion.exactCost ∨ cost = Conversion.wideningCost) ∧
    p.convert next t = some ⟨p, cost, next⟩

theorem standsAs_of_settled {p : Payload} {t : DeclaredType} (h : p.Settled t) : p.StandsAs t :=
  fun next => ⟨p.standingCost t, p.standingCost_cases t, h.convert_eq next⟩

end Payload

theorem mapM_eq_some_iff {α β : Type} {f : α → Option β} {xs : List α} {ys : List β} :
    xs.mapM f = some ys ↔ List.Forall₂ (fun x y => f x = some y) xs ys := by
  induction xs generalizing ys with
  | nil => simp [eq_comm]
  | cons x xs ih =>
    simp only [List.mapM_cons, Option.bind_eq_bind, Option.pure_def, Option.bind_eq_some_iff, ih,
      List.forall₂_cons_left_iff, Option.some.injEq]
    exact ⟨fun ⟨y, hy, ys', hys, he⟩ => ⟨y, ys', hy, hys, he.symm⟩,
      fun ⟨y, ys', hy, hys, he⟩ => ⟨y, hy, ys', hys, he.symm⟩⟩

theorem mapM_congr {α β : Type} {f g : α → Option β} {xs : List α} (h : ∀ x ∈ xs, f x = g x) :
    xs.mapM f = xs.mapM g := by
  induction xs with
  | nil => rfl
  | cons x xs ih =>
    obtain ⟨hx, hxs⟩ := List.forall_mem_cons.1 h
    simp only [List.mapM_cons, hx, ih hxs]

theorem forall₂_of_common {α β γ : Type} {R : α → β → Prop} {S : α → γ → Prop} {T : β → γ → Prop}
    {xs : List α} {ys : List β} {zs : List γ} (hy : List.Forall₂ R xs ys)
    (hz : List.Forall₂ S xs zs)
    (h : ∀ x y z, R x y → S x z → T y z) : List.Forall₂ T ys zs := by
  induction hy generalizing zs with
  | nil =>
    obtain rfl := List.forall₂_nil_left_iff.1 hz
    exact .nil
  | cons hR _ ih =>
    obtain ⟨z, zs', hS, hzs, rfl⟩ := List.forall₂_cons_left_iff.1 hz
    exact .cons (h _ _ _ hR hS) (ih hzs)

namespace HostKind

/-- Data of the kind is one payload of the declared type, and the whole of it. -/
def isFlat : HostKind → Bool
  | .payload | .single | .sequence _ | .optional _ => false
  | _ => true

/-- Data of the kind is typed throughout, and nothing of it is rounded. -/
def isLasting : HostKind → Bool
  | .payload | .single => false
  | .sequence item | .optional item => item.isLasting
  | _ => true

theorem read?_congr {items items' : ListRef → List Payload} {k : HostKind} {p : Payload}
    (h : ∀ l ∈ k.lists items p, items' l = items l) : k.read? items' p = k.read? items p := by
  induction k generalizing p with
  | sequence item ih =>
    cases p with
    | list l =>
      obtain ⟨hl, hi⟩ := List.forall_mem_cons.1 h
      simp only [read?, hl]
      exact mapM_congr fun q hq => ih fun m hm => hi m (List.mem_flatMap.2 ⟨q, hq, hm⟩)
    | _ => rfl
  | optional item ih => simp only [read?, ih h]
  | list | dict | function => cases p <;> rfl
  | _ => rfl

/-- The payload is what host data of a kind is handed out as: in a list of its own for a sequence,
as a text for a string, and else as the data itself. -/
def Represents (w : World) : (k : HostKind) → k.Carrier → Payload → Prop
  | .payload, q, p => p = q
  | .bool, b, p => p = .bool b
  | .integer _, n, p => p = ofInt n.1
  | .single, x, p => p = .float x
  | .double, x, p => p = .float x
  | .string, s, p => ∃ t : Text, p = .text t ∧ t.content = s
  | .char, c, p => p = .char c
  | .list, l, p => p = .list l
  | .dict, d, p => p = .dict d
  | .function, f, p => p = .callable f
  | .sequence item, xs, p =>
    ∃ l : ListRef, p = .list l ∧ l.id < w.next ∧ l.element = item.declaredType ∧
      List.Forall₂ (item.Represents w) xs (w.items l)
  | .optional _, none, p => p = .null
  | .optional item, some y, p => item.Represents w y p

theorem Represents.extend {w w' : World} (hw : w.Extends w') {k : HostKind}
    {x : k.Carrier} {p : Payload}
    (h : k.Represents w x p) : k.Represents w' x p := by
  induction k generalizing p with
  | sequence item ih =>
    obtain ⟨l, rfl, hl, helement, hitems⟩ := h
    refine ⟨l, rfl, Nat.lt_of_lt_of_le hl hw.next_le, helement, ?_⟩
    rw [hw.items_eq l hl]
    exact hitems.imp fun _ _ h => ih h
  | optional item ih =>
    cases x with
    | none => exact h
    | some y => exact ih h
  | _ => exact h

theorem represents_newList {item : HostKind} {xs : List item.Carrier}
    {ps : List Payload} {w : World}
    (h : List.Forall₂ (item.Represents w) xs ps) :
    (HostKind.sequence item).Represents (w.newList item.declaredType ps).2 xs
      (.list (w.newList item.declaredType ps).1) := by
  have hlist := w.extends_newList item.declaredType ps
  refine ⟨_, rfl, Nat.lt_succ_self _, rfl, ?_⟩
  rw [World.items_newList]
  exact h.imp fun _ _ h => h.extend hlist

theorem represents_writeAll {k : HostKind}
    (h : ∀ x w, k.Represents (k.write x w).2 x (k.write x w).1)
    (xs : List k.Carrier) (w : World) :
    List.Forall₂ (k.Represents (writeAll k.write xs w).2) xs (writeAll k.write xs w).1 := by
  induction xs generalizing w with
  | nil => exact .nil
  | cons x xs ih =>
    have hlater := (writeAll_grows k.write_grows xs (k.write x w).2).extended
    exact .cons ((h x w).extend hlater) (ih _)

/-- What is written represents the data. -/
theorem represents_write (k : HostKind) (x : k.Carrier) (w : World) :
    k.Represents (k.write x w).2 x (k.write x w).1 := by
  induction k generalizing w with
  | string => exact ⟨_, rfl, rfl⟩
  | sequence item ih =>
    have hitems := represents_writeAll ih x w
    exact represents_newList hitems
  | optional item ih =>
    cases x with
    | none => rfl
    | some y => exact ih y w
  | _ => rfl

/-- One piece of data is of one content wherever it is handed out. -/
theorem Represents.mirrors {w w' : World} {k : HostKind} {x : k.Carrier} {p p' : Payload}
    (h : k.Represents w x p) (h' : k.Represents w' x p') : Payload.Mirrors w w' p p' := by
  induction k generalizing p p' with
  | string =>
    obtain ⟨s, rfl, hs⟩ := h
    obtain ⟨t, rfl, ht⟩ := h'
    exact .text (hs.trans ht.symm)
  | sequence item ih =>
    obtain ⟨l, rfl, -, helement, hitems⟩ := h
    obtain ⟨l', rfl, -, helement', hitems'⟩ := h'
    exact .list (helement.trans helement'.symm) (forall₂_of_common hitems hitems' fun _ _ _ => ih)
  | optional item ih =>
    cases x with
    | none =>
      obtain rfl : p = .null := h
      obtain rfl : p' = .null := h'
      exact .same _
    | some y => exact ih h h'
  | _ =>
    obtain rfl := h.trans h'.symm
    exact .same _

/-- Integers are not handed out as floats, numbers are not rounded, and what is there of an optional
item is not handed out as null. -/
def Keeps : (k : HostKind) → k.Carrier → Prop
  | .integer _, n => Integer64.Fits n.1
  | .single, x => Binary.toBinary32 x = x
  | .sequence item, xs => ∀ x ∈ xs, item.Keeps x
  | .optional item, x => ∀ y ∈ x, item.Keeps y ∧ ∀ w p, item.Represents w y p → p.isNull = false
  | _, _ => True

theorem ofInt_toInt (n : Int64) : ofInt n.toInt = .int n := by
  rw [ofInt, Integer64.ofInt?_toInt]

theorem exists_int_of_fits {n : Int} (h : Integer64.Fits n) : ∃ m : Int64, m.toInt = n :=
  ⟨.ofIntLE n h.1 h.2, Int64.toInt_ofIntLE⟩

theorem fits_toInt (n : Int64) : Integer64.Fits n.toInt := ⟨n.minValue_le_toInt, n.toInt_le⟩

/-- Reading takes kept data back from whatever represents it. -/
theorem read_of_represents {w : World} {k : HostKind} {x : k.Carrier} {p : Payload} (hx : k.Keeps x)
    (h : k.Represents w x p) : k.read w p = some x := by
  induction k generalizing p with
  | integer i =>
    obtain rfl : p = ofInt x.1 := h
    obtain ⟨n, hn⟩ := exists_int_of_fits hx
    have hp : ofInt x.1 = .int n := by rw [← hn, ofInt_toInt]
    simp [read, read?, hp, Payload.int?, hn, x.2]
  | single =>
    obtain rfl : p = .float x := h
    exact congrArg some hx
  | string =>
    obtain ⟨t, rfl, rfl⟩ := h
    rfl
  | sequence item ih =>
    obtain ⟨l, rfl, -, -, hitems⟩ := h
    have hboth := (List.forall₂_and_left _ _).2 ⟨hx, hitems⟩
    have hread : List.Forall₂ (fun y q => item.read w q = some y) x (w.items l) :=
      hboth.imp fun _ _ h => ih h.1 h.2
    exact mapM_eq_some_iff.2 hread.flip
  | optional item ih =>
    cases x with
    | none =>
      obtain rfl : p = .null := h
      rfl
    | some y =>
      obtain ⟨hy, hnull⟩ := hx y rfl
      have hread := ih hy h
      simp only [read] at hread
      simp [read, read?, hnull w p h, hread]
  | _ =>
    obtain rfl := h
    rfl

theorem isNull_of_read {w : World} {k : HostKind} {x : k.Carrier} {p q : Payload}
    (hread : k.read w p = some x) (hp : p.isNull = false) {w' : World} (hq : k.Represents w' x q) :
    q.isNull = false := by
  induction k with
  | payload =>
    obtain rfl := Option.some.inj hread
    obtain rfl : q = p := hq
    exact hp
  | integer i =>
    obtain rfl : q = ofInt x.1 := hq
    unfold ofInt
    split <;> rfl
  | string =>
    obtain ⟨t, rfl, -⟩ := hq
    rfl
  | sequence item =>
    obtain ⟨l, rfl, -⟩ := hq
    rfl
  | optional item ih =>
    simp only [read, read?, hp, Bool.false_eq_true, if_false] at hread
    obtain ⟨y, hy, rfl⟩ := Option.map_eq_some_iff.1 hread
    exact ih hy hq
  | _ =>
    obtain rfl := hq
    rfl

/-- What is read is kept when it is handed out again. -/
theorem keeps_of_read {w : World} {k : HostKind} (hk : k.isLasting = true)
    {x : k.Carrier} {p : Payload}
    (h : k.read w p = some x) : k.Keeps x := by
  induction k generalizing p with
  | payload | single => contradiction
  | integer i =>
    obtain ⟨n, -, h⟩ := Option.bind_eq_some_iff.1 h
    split at h
    · obtain rfl := Option.some.inj h
      exact fits_toInt n
    · contradiction
  | sequence item ih =>
    cases p with
    | list l =>
      have hread : List.Forall₂ (fun q y => item.read w q = some y) (w.items l) x :=
        mapM_eq_some_iff.1 h
      have hkeeps : List.Forall₂ (fun y _ => item.Keeps y ∧ True) x (w.items l) :=
        (hread.imp fun _ _ hy => ⟨ih hk hy, trivial⟩).flip
      exact ((List.forall₂_and_left _ _).1 hkeeps).1
    | _ => contradiction
  | optional item ih =>
    cases hp : p.isNull with
    | true =>
      simp only [read, read?, hp, if_true] at h
      obtain rfl := Option.some.inj h
      exact fun y hy => absurd hy (Option.not_mem_none y)
    | false =>
      simp only [read, read?, hp, Bool.false_eq_true, if_false] at h
      obtain ⟨y, hy, rfl⟩ := Option.map_eq_some_iff.1 h
      intro z hz
      obtain rfl := Option.some.inj hz
      exact ⟨ih hk hy, fun _ _ hq => isNull_of_read hy hp hq⟩
  | _ => trivial

/-- A payload that kept data is handed out as is what its value converts to, unless it is null where
the declared type takes none. -/
theorem coerce_box {w u : World} {k : HostKind} (hk : k.isLasting = true)
    {x : k.Carrier} {p : Payload}
    (hx : k.Keeps x) (h : k.Represents w x p)
    (hnull : p.isNull = false ∨ k.declaredType.isNullable = true)
    (next : Nat) : ∃ cost, (u.box p).1.coerce next k.declaredType = some ⟨p, cost, next⟩ := by
  induction k generalizing p with
  | payload | single => contradiction
  | integer i =>
    obtain rfl : p = ofInt x.1 := h
    obtain ⟨n, hn⟩ := exists_int_of_fits hx
    rw [← hn, ofInt_toInt]
    exact ⟨_, rfl⟩
  | string =>
    obtain ⟨t, rfl, -⟩ := h
    exact ⟨_, rfl⟩
  | char =>
    obtain rfl : p = .char x := h
    exact ⟨Conversion.wideningCost, by
      simp [World.box, Value.ofPayload, Value.coerce, Value.payload,
      Payload.convert, Payload.convertPlain, declaredType, Text.chars, Text.singleChar?,
        Conversion.widening]⟩
  | list =>
    obtain rfl : p = .list x := h
    exact ⟨_, (Payload.settled_list (l := x) (.inr rfl)).convert_eq next⟩
  | dict =>
    obtain rfl : p = .dict x := h
    exact ⟨_, (Payload.settled_dict (d := x) (.inr rfl) (.inr rfl)).convert_eq next⟩
  | sequence item =>
    obtain ⟨l, rfl, -, helement, -⟩ := h
    exact ⟨_, (Payload.settled_list (.inl helement)).convert_eq next⟩
  | optional item ih =>
    cases x with
    | none =>
      obtain rfl : p = .null := h
      have hnullable : (HostKind.optional item).declaredType.isNullable = true := by
        simpa [Payload.isNull] using hnull
      exact ⟨_, if_pos hnullable⟩
    | some y => exact ih hk (hx y rfl).1 h hnull
  | _ =>
    obtain rfl := h
    exact ⟨_, rfl⟩

theorem coerce_null {t : DeclaredType} (ht : t.isNullable = false) (next : Nat) :
    Value.null.coerce next t = none := by
  cases t <;> first | rfl | contradiction

theorem box_alike {k : HostKind} (hk : k.isFlat = true) {x : k.Carrier}
    {p p' : Payload} {w w' : World}
    (h : k.Represents w x p) (h' : k.Represents w' x p') (u u' : World) :
    (u.box p).1.Alike (u'.box p').1 := by
  cases k with
  | payload | single | sequence | optional => contradiction
  | string =>
    obtain ⟨s, rfl, hs⟩ := h
    obtain ⟨t, rfl, ht⟩ := h'
    exact .inr ⟨s, t, rfl, rfl, hs.trans ht.symm⟩
  | _ =>
    obtain rfl := h.trans h'.symm
    exact World.box_alike u u' _

end HostKind

end LateBound
