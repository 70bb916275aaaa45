import LateBound.Proofs.Binary
import LateBound.Proofs.Boxing
import LateBound.Proofs.DictEnumeration
import LateBound.Proofs.ListCall
import LateBound.Proofs.Stability
/-! Searches of a list. A value read from a list is found there, no later than where it was read,
and so is a value just added, unless it comes back from its box as something else: a character in a
list of anything as a text, a boxed value without its box, a method group as a new function each
time. No float that is not a number is found. -/
namespace LateBound

namespace Payload

def isNaN : Payload → Bool
  | .float x => x.isNaN
  | _ => false

theorem hostEqual_self {p : Payload} (hb : ∀ v, p ≠ .boxed v) (hn : p.isNaN = false) :
    p.hostEqual p = true := by
  cases p with
  | boxed v => exact absurd rfl (hb v)
  | float x => exact Float.beq_self_iff.2 (by simpa [isNaN] using hn)
  | callable f => exact beq_self_eq_true f.id
  | _ => simp [hostEqual]

end Payload

namespace Value

def isNaN : Value → Bool
  | .number (.float x) => x.isNaN
  | _ => false

theorem isNaN_payload (next : Nat) (v : Value) : (v.payload next).1.isNaN = v.isNaN := by
  cases v with
  | number n => cases n <;> rfl
  | _ => rfl

end Value

namespace ListRef

variable {l : ListRef} {w : World}

/-- What the items of a list are compared with in a search for a payload. -/
def needle (l : ListRef) (next : Nat) (item : Payload) : Payload :=
  ((item.convert next l.element).map (·.payload)).getD item

theorem indexOf?_le {item p : Payload} {i : Nat} (hp : (w.items l)[i]? = some p)
    (he : p.hostEqual (l.needle w.next item) = true) : ∃ j ≤ i, l.indexOf? w item = some j := by
  obtain ⟨hi, rfl⟩ := List.getElem?_eq_some_iff.1 hp
  have hsearch : l.indexOf? w item = (w.items l).findIdx? (·.hostEqual (l.needle w.next item)) :=
    rfl
  rw [hsearch]
  cases hj : (w.items l).findIdx? (·.hostEqual (l.needle w.next item)) with
  | none => simpa [he] using List.findIdx?_eq_none_iff.1 hj _ (List.getElem_mem hi)
  | some j =>
    obtain ⟨hlt, -, hfirst⟩ := List.findIdx?_eq_some_iff_getElem.1 hj
    refine ⟨j, ?_, rfl⟩
    by_contra hlate
    exact hfirst i (Nat.not_le.1 hlate) he

theorem needle_of_inhabits {p : Payload} (hb : ∀ v, p ≠ .boxed v)
    (hp : p.Inhabits l.element) (next : Nat) :
    l.needle next p = p := by
  by_cases hnull : p = .null
  · subst hnull
    have hconvert : Payload.null.convert next l.element =
        if l.element.isNullable then Conversion.widening next .null else none := rfl
    rw [needle, hconvert]
    split <;> rfl
  · have hsettled : p.Settled l.element := ⟨hb, hp, fun h => absurd h hnull⟩
    rw [needle, hsettled.convert_eq]
    rfl

theorem needle_of_char (hl : l.element = .char) (next id : Nat) (c : Char) :
    l.needle next (.text ⟨id, String.singleton c⟩) = .char c := by
  have hchars : Text.singleChar? (Text.chars ⟨id, String.singleton c⟩) = some c := by
    simp [Text.chars, Text.singleChar?]
  rw [needle, hl]
  simp [Payload.convert, Payload.convertPlain, hchars, Conversion.widening]

end ListRef

namespace World

variable {w : World} {l : ListRef} {v : Value}

def found? (w : World) (l : ListRef) (v : Value) : Option Nat :=
  l.indexOf? (w.unbox v).2 (w.unbox v).1

theorem callNamed_item {m : ListMethod} (hm : ∀ p ∈ m.signature.parameters, p.type = .any)
    (hone : m.signature.parameters.length = 1) (hv : v.isError = false) (depth : Nat) :
    callNamed (depth + 1) w (.list l) m.signature.name [v] =
      (Start.body m.signature (some (.list l)) [(w.unbox v).1] (w.unbox v).2).run
        (evaluator depth) := by
  obtain ⟨hget, hover⟩ := w.getNamed_listMethod l m
  have hargs : firstError? [v] = none := by simp [firstError?, hv]
  have harity : m.signature.acceptsArity [v].length = true := by
    rw [ListMethod.acceptsArity_signature, hone]
    rfl
  have hrest : m.signature.parameters.drop [v].length = [] :=
    List.drop_eq_nil_of_le (Nat.le_of_eq hone)
  rw [callNamed_of_getNamed hget]
  refine (invoke_of_any hover rfl rfl m.isStatic_signature hm harity hargs depth).trans ?_
  rw [hrest]
  rfl

theorem callNamed_contains (hv : v.isError = false) (depth : Nat) :
    callNamed (depth + 1) w (.list l) "contains" [v] =
      some (.bool (w.found? l v).isSome, (w.unbox v).2) :=
  callNamed_item (m := .contains) (by simp [ListMethod.signature, BuiltinKind.instanceMethod]) rfl
    hv depth

theorem callNamed_indexOf (hv : v.isError = false) (depth : Nat) :
    callNamed (depth + 1) w (.list l) "index_of" [v] =
      some ((w.unbox v).2.box (positionPayload (w.found? l v))) :=
  callNamed_item (m := .indexOf) (by simp [ListMethod.signature, BuiltinKind.instanceMethod]) rfl hv
    depth

/-- A search for a value takes no number, and ends at position `i` or before it. -/
structure Finds (w : World) (l : ListRef) (v : Value) (i : Nat) : Prop where
  unbox_snd : (w.unbox v).2 = w
  isError_eq : v.isError = false
  found : ∃ j ≤ i, w.found? l v = some j

theorem Finds.contains {i : Nat} (h : w.Finds l v i) (depth : Nat) :
    callNamed (depth + 1) w (.list l) "contains" [v] = some (.bool true, w) := by
  obtain ⟨j, -, hj⟩ := h.found
  rw [callNamed_contains h.isError_eq, h.unbox_snd, hj]
  rfl

theorem Finds.indexOf {i : Nat} (h : w.Finds l v i) (depth : Nat) :
    ∃ j ≤ i, callNamed (depth + 1) w (.list l) "index_of" [v] = some (.int (.ofNat j), w) := by
  obtain ⟨j, hle, hj⟩ := h.found
  refine ⟨j, hle, ?_⟩
  rw [callNamed_indexOf h.isError_eq, h.unbox_snd, hj]
  rfl

theorem finds_of_needle {p q : Payload} {i : Nat} (hp : (w.items l)[i]? = some p)
    (hv : v.isError = false)
    (hunbox : w.unbox v = (q, w)) (he : p.hostEqual (l.needle w.next q) = true) :
    w.Finds l v i where
  unbox_snd := by rw [hunbox]
  isError_eq := hv
  found := by
    rw [found?, hunbox]
    exact ListRef.indexOf?_le hp he

theorem finds_of_crosses {w₁ : World} {p : Payload} {i : Nat} (ht : l.Typed w)
    (hp : (w.items l)[i]? = some p)
    (hcrosses : p.crosses = true) (hbox : w.box p = (v, w₁)) (hnan : v.isNaN = false) :
    w₁.Finds l v i := by
  obtain ⟨rfl, hunbox, hv⟩ := unbox_of_box hcrosses hbox
  have hbare : ∀ u, p ≠ .boxed u := by
    rintro u rfl
    contradiction
  have hnumber : p.isNaN = false := by
    have hpayload : (v.payload w₁.next).1 = p := congrArg Prod.fst hunbox
    rw [← hpayload, Value.isNaN_payload, hnan]
  have hneedle := ListRef.needle_of_inhabits hbare (ht p (List.mem_of_getElem? hp)) w₁.next
  exact finds_of_needle hp (Value.isError_of_crosses hv) hunbox
    (by rw [hneedle, Payload.hostEqual_self hbare hnumber])

theorem finds_of_char {w₁ : World} {c : Char} {i : Nat} (hl : l.element = .char)
    (hp : (w.items l)[i]? = some (.char c)) (hbox : w.box (.char c) = (v, w₁)) :
    w₁.Finds l v i := by
  obtain ⟨rfl, rfl⟩ := Prod.mk.inj hbox
  have hitem : (({ w with next := w.next + 1 } : World).items l)[i]? = some (.char c) := hp
  have hneedle := ListRef.needle_of_char hl (w.next + 1) w.next c
  have hequal : (Payload.char c).hostEqual (.char c) = true := Payload.hostEqual_self nofun rfl
  exact finds_of_needle hitem rfl rfl (by rw [hneedle, hequal])

end World

theorem Value.position_lt {index : Value} {i : Nat} (h : index.position = .ok (i : Int)) :
    i < 2 ^ 63 := by
  cases index with
  | number n =>
    have hword : n.toInt.toInt = i := Except.ok.inj h
    have hlt := n.toInt.toInt_lt
    omega
  | _ => contradiction

open World in
/-- What reading a list at a position gives is contained in the list, and found at that position or
before it, if the items inhabit the element type. The exceptions are a float that is no number, an
item that is a boxed value, and a character in a list of anything. -/
theorem read_found {l : ListRef} {w w₁ : World} {index v : Value} {i : Nat}
    {p : Payload} (ht : l.Typed w)
    (hi : index.position = .ok (i : Int)) (hp : (w.items l)[i]? = some p)
    (hv : w.getAt (.list l) index = (v, w₁)) (hnan : v.isNaN = false) (hbox : ∀ u, p ≠ .boxed u)
    (hchar : l.element = .any → ∀ c, p ≠ .char c) (depth : Nat) :
    callNamed (depth + 1) w₁ (.list l) "contains" [v] = some (.bool true, w₁) ∧
      ∃ n : Int64, 0 ≤ n.toInt ∧ n.toInt ≤ i ∧
        callNamed (depth + 1) w₁ (.list l) "index_of" [v] = some (.int n, w₁) := by
  have hread : w.box p = (v, w₁) := (getAt_list hi hp).symm.trans hv
  have hfinds : w₁.Finds l v i := by
    cases p with
    | boxed u => exact absurd rfl (hbox u)
    | char c =>
      have hl : l.element = .char := by
        rcases ht _ (List.mem_of_getElem? hp) with h | h | h | ⟨_, h, -⟩ | ⟨_, _, _, h, -⟩
        · contradiction
        · exact absurd rfl (hchar h c)
        · exact h.symm
        · contradiction
        · contradiction
      exact finds_of_char hl hp hread
    | _ => exact finds_of_crosses ht hp rfl hread hnan
  obtain ⟨j, hj, hindex⟩ := hfinds.indexOf depth
  have hword : (Int64.ofNat j).toInt = j :=
    Int64.toInt_ofNat_of_lt (Nat.lt_of_le_of_lt hj (Value.position_lt hi))
  exact ⟨hfinds.contains depth, .ofNat j, by omega, by omega, hindex⟩

theorem typed_newUntypedList (w : World) (ps : List Payload) :
    (w.newUntypedList ps).1.Typed (w.newUntypedList ps).2 := by
  intro p hp
  exact Payload.inhabits_commonType (by rwa [← w.items_newList (Payload.commonType ps) ps])

open World in
/-- The last character of a list with a null, read by a float and found at the first place
it stands. -/
theorem read_found_char :
    let made := newUntypedList [.char 'a', .null, .char 'a'] default
    let read := made.2.getAt (.list made.1) (.float 2.5)
    made.1.element = .char ∧ read.1 = .text ⟨1, "a"⟩ ∧
      callNamed 1 read.2 (.list made.1) "contains" [read.1] = some (.bool true, read.2) ∧
      ∃ n : Int64, 0 ≤ n.toInt ∧ n.toInt ≤ 2 ∧
        callNamed 1 read.2 (.list made.1) "index_of" [read.1] = some (.int n, read.2) := by
  intro made read
  have htyped : made.1.Typed made.2 := typed_newUntypedList default [.char 'a', .null, .char 'a']
  have hposition : (Value.float 2.5).position = .ok ((2 : Nat) : Int) := by decide +kernel
  have hitem : (made.2.items made.1)[2]? = some (.char 'a') := rfl
  have hread : read = (.text ⟨1, "a"⟩, { made.2 with next := 2 }) := getAt_list hposition hitem
  have hchar : made.1.element = .char := rfl
  obtain ⟨hcontains, hindex⟩ := read_found htyped hposition hitem hread rfl nofun nofun 0
  rw [hread]
  exact ⟨hchar, rfl, hcontains, hindex⟩

open World in
/-- A character in a list of anything is not found where it was read, nor is a boxed value. -/
theorem read_missed :
    let mixed := newUntypedList [.char 'a', .int 1] default
    let boxes := newUntypedList [.boxed (.int 5)] default
    let text := mixed.2.getAt (.list mixed.1) (.int 0)
    let five := boxes.2.getAt (.list boxes.1) (.int 0)
    (mixed.1.Typed mixed.2 ∧ text.1 = .text ⟨1, "a"⟩ ∧
      (callNamed 1 text.2 (.list mixed.1) "contains" [text.1]).map (·.1) = some (.bool false) ∧
      (callNamed 1 text.2 (.list mixed.1) "index_of" [text.1]).map (·.1) = some (.int (-1))) ∧
    boxes.1.Typed boxes.2 ∧ five.1 = .int 5 ∧
      (callNamed 1 five.2 (.list boxes.1) "contains" [five.1]).map (·.1) = some (.bool false) ∧
      (callNamed 1 five.2 (.list boxes.1) "index_of" [five.1]).map (·.1) = some (.int (-1)) :=
  ⟨⟨typed_newUntypedList _ _, rfl, rfl, rfl⟩, typed_newUntypedList _ _, rfl, rfl, rfl⟩

theorem Conversion.blind_hostEqual {p : Payload} (hp : ∀ f, p ≠ .callable f) :
    Blind fun c => p.hostEqual c.payload where
  next _ _ _ _ := rfl
  text _ _ _ _ _ := by cases p <;> rfl
  function i j g _ _ := by
    cases p with
    | callable f => exact absurd rfl (hp f)
    | _ => rfl

namespace Payload

variable {p : Payload} {t : DeclaredType} {n : Nat} {c : Conversion}

theorem eq_callable_of_convertPlain {f : Callable} (h : p.convertPlain n t = some c)
    (hc : c.payload = .callable f) : p = .callable f := by
  cases convertPlain_converts h with
  | kept _ _ h | widened _ _ h =>
    obtain rfl := Option.some.inj h
    exact hc
  | made ht _ hcost _ =>
    obtain rfl : t = .callable := by rw [← ht, hc, naturalType]
    cases p with
    | callable g =>
      obtain rfl := Option.some.inj h
      exact hc
    | null =>
      rw [payload_of_convertPlain_null h] at hc
      contradiction
    | _ => contradiction

/-- Converted twice, a payload comes to equal payloads, if it comes to a number. -/
theorem exists_equal_conversion (hb : ∀ v, p ≠ .boxed v) (h : p.convert n t = some c)
    (hnan : c.payload.isNaN = false) (m : Nat) :
    ∃ c', p.convert m t = some c' ∧ c.payload.hostEqual c'.payload = true := by
  rw [convert_of_ne_boxed hb] at h ⊢
  have hself : c.payload.hostEqual c.payload = true :=
    hostEqual_self ((convertPlain_converts h).settled hb).bare hnan
  -- a function is left as it is, and equality does not tell apart what else takes a number
  by_cases hf : ∃ f, c.payload = .callable f
  · obtain ⟨f, hf⟩ := hf
    obtain rfl := eq_callable_of_convertPlain h hf
    have hsettled : (callable f).Settled t := hf ▸ (convertPlain_converts h).settled hb
    refine ⟨_, (convert_of_ne_boxed hb m t).symm.trans (hsettled.convert_eq m), ?_⟩
    rwa [hf] at hself ⊢
  · have hblind := Conversion.blind_hostEqual (not_exists.1 hf)
    have hmap := map_convertPlain hblind m n p t
    rw [h, Option.map_some, hself] at hmap
    exact Option.map_eq_some_iff.1 hmap

theorem isNaN_of_convertPlain (h : p.convertPlain n t = some c) (hp : p.isNaN = false)
    (hread : ∀ s x, p = .text s → t = .float → Decimal.readFloat? (Text.trim s.chars) = some x →
      x.isNaN = false) : c.payload.isNaN = false := by
  cases convertPlain_converts h with
  | kept _ _ h | widened _ _ h =>
    obtain rfl := Option.some.inj h
    exact hp
  | made ht _ _ _ =>
    cases hc : c.payload with
    | float x =>
      obtain rfl : t = .float := by rw [← ht, hc, naturalType]
      cases p with
      | int k =>
        obtain rfl := Option.some.inj h
        exact (Payload.float.inj hc) ▸ Binary.isNaN_ofInt64 k
      | float y =>
        obtain rfl := Option.some.inj h
        exact hc ▸ hp
      | text s =>
        obtain ⟨y, hy, h⟩ := Option.bind_eq_some_iff.1 h
        obtain rfl := Option.some.inj h
        exact (Payload.float.inj hc) ▸ hread s y rfl rfl hy
      | null =>
        rw [payload_of_convertPlain_null h] at hc
        contradiction
      | _ => contradiction
    | _ => rfl

end Payload

namespace Value

variable {v : Value}

theorem payload_of_ne_method (hv : ∀ g, v ≠ .method g) (n m : Nat) :
    v.payload m = ((v.payload n).1, m) := by
  cases v with
  | method g => exact absurd rfl (hv g)
  | _ => rfl

theorem eq_text_of_payload {n : Nat} {s : Text} (h : (v.payload n).1 = .text s) : v = .text s := by
  cases v with
  | text t => exact congrArg Value.text (Payload.text.inj h)
  | number k => cases k <;> contradiction
  | _ => contradiction

end Value

namespace World

variable {w w' : World} {l : ListRef} {v a : Value}

theorem exists_of_add {depth : Nat} (h : callNamed (depth + 1) w (.list l) "add" [v] = some (a, w'))
    (ha : a.isError = false) : v.isError = false ∧
      ∃ c, v.coerce w.next l.element = some c ∧ w'.items l = w.items l ++ [c.payload] := by
  have hv : v.isError = false := by
    by_contra herror
    have hargs : firstError? [v] = some v := by simp_all [firstError?]
    have hcall := callNamed_of_error (w.getNamed_listMethod l .add).1 hargs depth
    obtain ⟨rfl, -⟩ := Prod.mk.inj (Option.some.inj (h.symm.trans hcall))
    exact herror ha
  have hends : CallEnds l w ((v.coerce w.next l.element).map fun c =>
    w.items l ++ [c.payload]) (some (a, w')) :=
    h ▸ callEnds_add hv depth
  cases hc : v.coerce w.next l.element with
  | none =>
    rw [hc] at hends
    cases hends
    contradiction
  | some c =>
    rw [hc] at hends
    cases hends
    exact ⟨hv, c, rfl, by simp [items_setItems]⟩

end World

open World in
/-- After a value was added to a list, the list contains it, and it is found at the old length or
before. The exceptions are a method group, a float that is no number, and a text that reads as
one in a list of floats. A position is given as a word, which holds it in any list shorter than
`2 ^ 63`. -/
theorem added_found {l : ListRef} {w w' : World} {v a : Value} {depth : Nat}
    (hadd : callNamed (depth + 1) w (.list l) "add" [v] = some (a, w')) (ha : a.isError = false)
    (hmethod : ∀ g, v ≠ .method g) (hnan : v.isNaN = false)
    (hread : ∀ s x, v = .text s → l.element = .float →
      Decimal.readFloat? (Text.trim s.chars) = some x →
      x.isNaN = false) (later : Nat) :
    callNamed (later + 1) w' (.list l) "contains" [v] = some (.bool true, w') ∧
      ∃ j ≤ (w.items l).length, callNamed (later + 1) w' (.list l) "index_of" [v] =
        some (.int (.ofNat j), w') ∧
        ((w.items l).length < 2 ^ 63 → (Int64.ofNat j).toInt = j) := by
  obtain ⟨hv, c, hc, hitems⟩ := exists_of_add hadd ha
  have hbare := v.payload_ne_boxed w.next
  have hconvert : (v.payload w.next).1.convert (v.payload w.next).2 l.element = some c := hc
  have hnumber : c.payload.isNaN = false := by
    rw [Payload.convert_of_ne_boxed hbare] at hconvert
    exact Payload.isNaN_of_convertPlain hconvert (by rw [Value.isNaN_payload, hnan])
      fun s x hs => hread s x (Value.eq_text_of_payload hs)
  obtain ⟨c', hc', hequal⟩ := Payload.exists_equal_conversion hbare hconvert hnumber w'.next
  have hneedle : l.needle w'.next (v.payload w.next).1 = c'.payload := by simp [ListRef.needle, hc']
  have hunbox : w'.unbox v = ((v.payload w.next).1, w') := by
    rw [unbox, Value.payload_of_ne_method hmethod w.next]
  have hlast : (w'.items l)[(w.items l).length]? = some c.payload := by simp [hitems]
  have hfinds : w'.Finds l v (w.items l).length :=
    finds_of_needle hlast hv hunbox (by rw [hneedle, hequal])
  obtain ⟨j, hj, hindex⟩ := hfinds.indexOf later
  exact ⟨hfinds.contains later, j, hj, hindex,
    fun hlength => Int64.toInt_ofNat_of_lt (Nat.lt_of_le_of_lt hj hlength)⟩

open World in
/-- A text added to a list of integers is found as the integer that it reads as. -/
theorem added_found_text :
    let made := newList .int [.int 3] default
    let v : Value := .text ⟨9, " 7"⟩
    ∃ w', callNamed 1 made.2 (.list made.1) "add" [v] = some (.void, w') ∧
      w'.items made.1 = [.int 3, .int 7] ∧
      callNamed 1 w' (.list made.1) "contains" [v] = some (.bool true, w') ∧
      ∃ j ≤ 1, callNamed 1 w' (.list made.1) "index_of" [v] = some (.int (.ofNat j), w') := by
  intro made v
  obtain ⟨w', hadd, hitems⟩ : ∃ w', callNamed 1 made.2 (.list made.1) "add" [v] = some (.void, w') ∧
      w'.items made.1 = [.int 3, .int 7] := ⟨_, rfl, rfl⟩
  obtain ⟨hcontains, j, hj, hindex, -⟩ := added_found hadd rfl nofun rfl nofun 0
  exact ⟨w', hadd, hitems, hcontains, j, hj, hindex⟩

open World in
/-- A method group is another function each time it is unboxed, and what a list of floats holds for
the text `NaN` equals nothing. -/
theorem added_missed :
    let untyped := newList .any [] default
    let floats := newList .float [] default
    let m : Value := .method (.bound (.text ⟨9, "abc"⟩) (.builtin .string) "trim" [0])
    let t : Value := .text ⟨9, "NaN"⟩
    (∀ call, untyped.2.getNamed call (.text ⟨9, "abc"⟩) "trim" = some (m, untyped.2)) ∧
    (∃ w', callNamed 1 untyped.2 (.list untyped.1) "add" [m] = some (.void, w') ∧
      (callNamed 1 w' (.list untyped.1) "contains" [m]).map (·.1) = some (.bool false) ∧
      (callNamed 1 w' (.list untyped.1) "index_of" [m]).map (·.1) = some (.int (-1))) ∧
    ∃ w', callNamed 1 floats.2 (.list floats.1) "add" [t] = some (.void, w') ∧
      (callNamed 1 w' (.list floats.1) "contains" [t]).map (·.1) = some (.bool false) ∧
      (callNamed 1 w' (.list floats.1) "index_of" [t]).map (·.1) = some (.int (-1)) :=
  ⟨fun _ => rfl, ⟨_, rfl, rfl, rfl⟩, _, rfl, rfl, rfl⟩

end LateBound
