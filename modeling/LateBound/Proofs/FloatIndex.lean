import LateBound.Proofs.DictEnumeration
import LateBound.Proofs.FloatReading
import LateBound.Proofs.ListHistory
import LateBound.Proofs.TextViews
/-! Floats as positions. Indexing holds the integer part of a float within 64 bits, conversion gives
none that does not fit. No collection is so long that the two could lead to different places. NaN is
the exception: it indexes as zero, and does not convert. -/
namespace LateBound

theorem Integer64.clamp_of_ofInt?_none {n : Int} (h : ofInt? n = none) :
    clamp n = Int64.minValue ∨ clamp n = Int64.maxValue := by
  have hbounds : Int64.minValue.toInt ≤ Int64.maxValue.toInt := by decide
  unfold ofInt? at h
  unfold clamp
  rw [ite_eq_right_iff] at h
  have hout : ¬ (Int64.minValue.toInt ≤ n ∧ n ≤ Int64.maxValue.toInt) := fun hin => nomatch h hin
  by_cases hlow : Int64.minValue.toInt ≤ n
  · right
    rw [Int.min_eq_left (by omega), Int.max_eq_right hbounds, Int64.ofInt_toInt]
  · left
    rw [Int.max_eq_left (by omega), Int64.ofInt_toInt]

namespace Binary

variable {x : Float}

theorem isNaN_of_read (h : read x = .nan) : x.isNaN = true := by
  change x.toModel.unpack.isNaN = true
  rw [read_eq] at h
  cases hu : x.toModel.unpack with
  | notANumber => rfl
  | _ =>
    rw [hu] at h
    contradiction

theorem clampInt64_of_toInt64?_none (hx : x.isNaN = false) (h : toInt64? x = none) :
    clampInt64 x = Int64.minValue ∨ clampInt64 x = Int64.maxValue := by
  unfold toInt64? truncate? at h
  unfold clampInt64
  cases hr : read x with
  | nan =>
    rw [isNaN_of_read hr] at hx
    contradiction
  | infinite negative => cases negative <;> simp
  | finite negative m e =>
    rw [hr] at h
    exact Integer64.clamp_of_ofInt?_none h

theorem toInt64?_of_clampInt64 (hx : x.isNaN = false) {length : Nat} (hl : length < 2 ^ 63)
    (hin : 0 ≤ (clampInt64 x).toInt ∧ (clampInt64 x).toInt < length) :
    toInt64? x = some (clampInt64 x) := by
  cases h : toInt64? x with
  | some n => rw [clampInt64_of_toInt64? h]
  | none =>
    have hmin : Int64.minValue.toInt = -2 ^ 63 := by decide
    have hmax : Int64.maxValue.toInt = 2 ^ 63 - 1 := by decide
    rcases clampInt64_of_toInt64?_none hx h with hbound | hbound
    · rw [hbound, hmin] at hin
      omega
    · rw [hbound, hmax] at hin
      omega

end Binary

namespace Value

def place? (length : Nat) (index : Value) : Option Nat :=
  index.integer?.bind fun i => if 0 ≤ i ∧ i < length then some i.toNat else none

theorem integer?_int (n : Int64) : (Value.int n).integer? = some n.toInt := rfl

theorem integer?_float (x : Float) : (Value.float x).integer? =
    (Binary.toInt64? x).map Int64.toInt := by
  have hcoerce : (Value.float x).coerce 0 .int = (Binary.toInt64? x).bind fun n =>
    Conversion.lossy 0 (.int n) := rfl
  rw [integer?, hcoerce]
  cases Binary.toInt64? x <;> rfl

theorem place?_float {x : Float} (hx : x.isNaN = false) {length : Nat} (hl : length < 2 ^ 63) :
    (Value.float x).place? length = (Value.int (Binary.clampInt64 x)).place? length := by
  rw [place?, place?, integer?_int, integer?_float]
  cases h : Binary.toInt64? x with
  | some n => rw [Binary.clampInt64_of_toInt64? h]; rfl
  | none =>
    have hout : ¬ (0 ≤ (Binary.clampInt64 x).toInt ∧ (Binary.clampInt64 x).toInt < length) := by
      intro hin
      rw [Binary.toInt64?_of_clampInt64 hx hl hin] at h
      contradiction
    exact (if_neg hout).symm

end Value

/-- Reading and writing at an index go to a place of the list, or are refused. -/
def ListRef.Addresses (l : ListRef) (w : World) (index : Value) : Option Nat → Prop
  | none =>
    (∃ e, w.getAt (.list l) index = (.error e, w)) ∧ ∀ v, w.setAt (.list l) index v = (false, w)
  | some i =>
    (∃ p, (w.items l)[i]? = some p ∧ w.getAt (.list l) index = w.box p) ∧
      ∀ v, ∃ w', w.setAt (.list l) index v = ((v.storable? w.next l.element).isSome, w') ∧
        l.Holds w ((v.storable? w.next l.element).map fun c => (w.items l).set i c.payload) w'

/-- Reading at an index gives the character at a place of the text, or is refused. -/
def Text.Addresses (t : Text) (w : World) (index : Value) : Option Nat → Prop
  | none => ∃ e, w.getAt (.text t) index = (.error e, w)
  | some i => ∃ c, t.chars[i]? = some c ∧ w.getAt (.text t) index = w.giveText [c]

theorem ListRef.addresses_int (l : ListRef) (w : World) (n : Int64) :
    l.Addresses w (.int n) ((Value.int n).place? (w.items l).length) := by
  rw [Value.place?, Value.integer?_int, Option.bind_some]
  by_cases hin : 0 ≤ n.toInt ∧ n.toInt < (w.items l).length
  · have hplace : (w.items l)[n.toInt.toNat]? = some (w.items l)[n.toInt.toNat] :=
      List.getElem?_eq_getElem (by omega)
    have hposition : (Value.int n).position = .ok (n.toInt.toNat : Int) := by
      rw [Int.toNat_of_nonneg hin.1]
      rfl
    rw [if_pos hin]
    refine ⟨⟨_, hplace, World.getAt_list hposition hplace⟩, fun v => ?_⟩
    have hwritten : (ListOperation.setAt (.int n) v).written? l.element w.next (w.items l) =
        (v.storable? w.next l.element).map fun c => (w.items l).set n.toInt.toNat c.payload := by
      have hreading : (Value.int n).reading? = some n.toInt := rfl
      rw [ListOperation.written?, hreading, Option.bind_some]
      cases v.storable? w.next l.element with
      | none => rfl
      | some c => exact if_pos hin
    obtain ⟨w', hset, hholds⟩ := w.setAt_written l (.int n) v
    rw [hwritten] at hset hholds
    rw [Option.isSome_map] at hset
    exact ⟨w', hset, hholds⟩
  · rw [if_neg hin]
    have hwithin : (Value.int n).positionWithin (w.items l).length =
        .error (.indexOutOfRange n.toInt (w.items l).length) :=
      (Value.positionWithin_of_reading? rfl _).trans (if_neg hin)
    constructor
    · have hget : w.getAt (.list l) (.int n) = w.getListItem l (.int n) := rfl
      rw [hget, World.getListItem, hwithin]
      exact ⟨_, rfl⟩
    · intro v
      rw [World.setAt, World.setListItem?, hwithin]
      cases v.isError <;> rfl

theorem Text.addresses_int (t : Text) (w : World) (n : Int64) :
    t.Addresses w (.int n) ((Value.int n).place? t.chars.length) := by
  rw [Value.place?, Value.integer?_int, Option.bind_some]
  by_cases hin : 0 ≤ n.toInt ∧ n.toInt < t.chars.length
  · rw [if_pos hin]
    refine ⟨t.chars[n.toInt.toNat], List.getElem?_eq_getElem (by omega), ?_⟩
    rw [World.getAt_text, dif_pos hin]
  · rw [if_neg hin]
    exact ⟨_, (World.getAt_text w t n).trans (dif_neg hin)⟩

theorem ListRef.addresses_float (l : ListRef) (w : World) (x : Float) :
    l.Addresses w (.float x) ((Value.int (Binary.clampInt64 x)).place? (w.items l).length) :=
  l.addresses_int w (Binary.clampInt64 x)

theorem Text.addresses_float (t : Text) (w : World) (x : Float) :
    t.Addresses w (.float x) ((Value.int (Binary.clampInt64 x)).place? t.chars.length) :=
  t.addresses_int w (Binary.clampInt64 x)

namespace World

variable {w : World} {l : ListRef} {t : Text}

theorem callEnds_place {index : Value} (depth : Nat) :
    CallEnds l w ((index.place? (w.items l).length).map (w.items l).eraseIdx)
      (callNamed (depth + 1) w (.list l) "remove_at" [index]) := by
  cases hi : index.integer? with
  | none =>
    rw [Value.place?, hi]
    exact callEnds_of_index (m := .removeAt) hi rfl rfl depth
  | some i =>
    have hplace : (index.place? (w.items l).length).map (w.items l).eraseIdx =
        if 0 ≤ i ∧ i < (w.items l).length then some ((w.items l).eraseIdx i.toNat) else none := by
      rw [Value.place?, hi, Option.bind_some]
      split <;> rfl
    rw [hplace]
    exact callEnds_removeAt hi depth

theorem textCall_substring_of_integer? {index : Value} {i : Int}
    (hi : index.integer? = some i) (depth : Nat) :
    callNamed (depth + 1) w (.text t) "substring" [index] =
      some (w.afterCut (TextMethod.cut t.chars i (-1))) := by
  obtain ⟨k, cost, rfl, hindex⟩ := Value.convert_of_integer? hi w.next w.next
  have hargs : firstError? [index] = none := by simp [firstError?, Value.isError_of_integer? hi]
  have hpayloads : Value.payloads w.next [index] = ([(index.payload w.next).1], w.next) := by
    simp only [Value.payloads, Value.payload_next_of_integer? hi]
  have hbind : TextMethod.substring.signature.bind w.next [(index.payload w.next).1] =
      .ok ⟨[.int k, .int (-1)], cost, w.next⟩ := by
    have harity : TextMethod.substring.signature.acceptsArity 1 = true := rfl
    rw [Signature.bind, List.length_singleton, harity, if_pos rfl]
    simp [bindArguments, TextMethod.signature, BuiltinKind.instanceMethod, hindex]
  have hcall := callNamed_textMethod w t .substring [index] _ hargs
    (by rw [hpayloads]; exact hbind) depth
  have hdefault : (-1 : Int64).toInt = -1 := by decide
  rw [TextMethod.run_substring, hdefault] at hcall
  refine hcall.trans ?_
  cases TextMethod.cut t.chars k.toInt (-1) <;> rfl

theorem substring_place {index : Value} {i : Nat} (h : index.place? t.chars.length = some i)
    (depth : Nat) :
    callNamed (depth + 1) w (.text t) "substring" [index] = some (w.giveText (t.chars.drop i)) := by
  obtain ⟨n, hn, hplace⟩ := Option.bind_eq_some_iff.1 h
  obtain ⟨hin, hi⟩ := Option.ite_none_right_eq_some.1 hplace
  obtain rfl := Option.some.inj hi
  rw [textCall_substring_of_integer? hn, TextMethod.cut_of_negative ⟨hin.1, hin.2.le⟩ (by decide)]
  rfl

/-- Indexing takes a float other than NaN for the place that conversion gives, which is where an
element is removed and a text cut. NaN indexes as zero and is not converted. The bounds on the
lengths are those of any collection in memory. -/
theorem float_places_agree (x : Float) (w : World) (l : ListRef) (t : Text) (depth : Nat)
    (hl : (w.items l).length < 2 ^ 63) (ht : t.chars.length < 2 ^ 63) :
    let index := Value.float x
    (x.isNaN = false → l.Addresses w index (index.place? (w.items l).length) ∧
      t.Addresses w index (index.place? t.chars.length)) ∧
    (x.isNaN = true → index.integer? = none ∧
      l.Addresses w index ((Value.int 0).place? (w.items l).length) ∧
      t.Addresses w index ((Value.int 0).place? t.chars.length)) ∧
    CallEnds l w ((index.place? (w.items l).length).map (w.items l).eraseIdx)
      (callNamed (depth + 1) w (.list l) "remove_at" [index]) ∧
    ∀ i, index.place? t.chars.length = some i →
      callNamed (depth + 1) w (.text t) "substring" [index] =
        some (w.giveText (t.chars.drop i)) := by
  intro index
  have hlist := l.addresses_float w x
  have htext := t.addresses_float w x
  refine ⟨fun hx => ?_, fun hx => ?_, callEnds_place depth, fun i hi => substring_place hi depth⟩
  · rw [Value.place?_float hx hl, Value.place?_float hx ht]
    exact ⟨hlist, htext⟩
  · have hnan : x = Float.nan := by simpa [Float.isNaN_eq_decide_eq_nan] using hx
    have hzero : Binary.clampInt64 x = 0 := by
      rw [hnan]
      decide +kernel
    have hnone : Binary.toInt64? x = none := by
      rw [hnan]
      decide +kernel
    rw [hzero] at hlist htext
    exact ⟨by rw [Value.integer?_float, hnone]; rfl, hlist, htext⟩

/-- One and three quarters are position one, for a list and for a text. -/
theorem float_places_agree_fraction :
    let made := newList .int [.int 10, .int 20, .int 30] default
    let t : Text := ⟨9, "abc"⟩
    let index := Value.float 1.75
    (made.2.items made.1).length < 2 ^ 63 ∧ t.chars.length < 2 ^ 63 ∧ (1.75 : Float).isNaN = false ∧
      index.integer? = some 1 ∧ made.2.getAt (.list made.1) index = (.int 20, made.2) ∧
      CallEnds made.1 made.2 (some [.int 10, .int 30])
        (callNamed 1 made.2 (.list made.1) "remove_at" [index]) ∧
      callNamed 1 made.2 (.text t) "substring" [index] = some (made.2.giveText ['b', 'c']) := by
  intro made t index
  have hl : (made.2.items made.1).length < 2 ^ 63 := by decide
  have hchars : t.chars = ['a', 'b', 'c'] := by decide
  have ht : t.chars.length < 2 ^ 63 := by decide
  have hx : (1.75 : Float).isNaN = false := by decide +kernel
  have hinteger : index.integer? = some 1 := by decide +kernel
  have hlist : index.place? (made.2.items made.1).length = some 1 := by
    rw [Value.place?, hinteger]
    rfl
  have htext : index.place? t.chars.length = some 1 := by
    rw [Value.place?, hinteger, hchars]
    rfl
  obtain ⟨hnumber, -, hremove, hcut⟩ := float_places_agree 1.75 made.2 made.1 t 0 hl ht
  obtain ⟨hplaces, -⟩ := hnumber hx
  rw [hlist] at hplaces hremove
  obtain ⟨⟨p, hp, hget⟩, -⟩ := hplaces
  obtain rfl : p = .int 20 := (Option.some.inj hp).symm
  have hsuffix := hcut 1 htext
  rw [hchars] at hsuffix
  exact ⟨hl, ht, hx, hinteger, hget, hremove, hsuffix⟩

/-- NaN reads and writes the first element, and is not converted to an integer. -/
theorem nan_addresses_first :
    let made := newList .int [.int 10] default
    let index := Value.float Binary.nan
    (made.2.getAt (.list made.1) index).1 = .int 10 ∧
      (made.2.setAt (.list made.1) index (.int 5)).1 = true ∧
      index.coerce made.2.next .int = none := by
  decide +kernel

end World

end LateBound
