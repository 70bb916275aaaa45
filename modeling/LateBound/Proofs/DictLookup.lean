import LateBound.Proofs.DictEnumeration
/-! Lookups in a dictionary. A value addresses the entry whose key it converts to, and every way of
reading finds that entry. Reading by index also tries the value as it stands, which finds nothing
where the stored keys are of the key type. -/
namespace LateBound

namespace Key

/-- The key without the storage of its text, the same for all keys of one entry. -/
def bare : Key → Key
  | .text t => .text ⟨0, t.content⟩
  | k => k

theorem beq_iff_bare (a b : Key) : (a == b) = true ↔ a.bare = b.bare := by
  cases a <;> cases b <;> simp [beq_eq, addressesSame, bare]

theorem bare_beq (k : Key) : k.bare == k := by
  cases k <;> simp [beq_eq, addressesSame, bare]

end Key

theorem Conversion.blind_key : Blind fun c => (Key.ofPayload? c.payload).map Key.bare :=
  ⟨fun _ _ _ _ => rfl, fun _ _ _ _ _ => rfl, fun _ _ _ _ _ => rfl⟩

namespace DictRef

variable {d : DictRef}

theorem map_bare_key? (d : DictRef) (n : Nat) (p : Payload) :
    (d.key? n p).map (·.1.bare) =
      ((p.convert n d.key).map fun c => (Key.ofPayload? c.payload).map Key.bare).join := by
  rw [key?]
  cases p.convert n d.key with
  | none => rfl
  | some c => cases hk : Key.ofPayload? c.payload <;> simp [hk]

/-- The key that a value converts to. -/
def address? (d : DictRef) (v : Value) : Option Key := (d.key? 0 (v.payload 0).1).map (·.1.bare)

theorem map_bare_key?_payload (d : DictRef) (n m : Nat) (v : Value) :
    (d.key? m (v.payload n).1).map (·.1.bare) = d.address? v := by
  have hplain (i j : Nat) : (v.payload i).1.convert j d.key =
    (v.payload i).1.convertPlain j d.key :=
    Payload.convert_of_ne_boxed (v.payload_ne_boxed i) j d.key
  have hnumber := v.map_convertPlain_payload Conversion.blind_key n 0 d.key
  have hunused := Payload.map_convertPlain Conversion.blind_key m 0 (v.payload n).1 d.key
  rw [address?, map_bare_key?, map_bare_key?, hplain, hplain, hunused, hnumber]

theorem address?_error (d : DictRef) (e : Failure) : d.address? (.error e) = none := by
  have hnull : d.key? 0 .null = none := by
    have hconv : Payload.null.convert 0 d.key = if d.key.isNullable then Conversion.widening
      0 .null else none := rfl
    rw [key?, hconv]
    split <;> rfl
  rw [address?, Value.payload, hnull]
  rfl

theorem isError_of_address? {v : Value} {a : Key} (h : d.address? v = some a) :
    v.isError = false := by
  cases v with
  | error e => simp [address?_error] at h
  | _ => rfl

theorem key?_of_address? {v : Value} {a : Key} (h : d.address? v = some a) (n m : Nat) :
    ∃ k i, d.key? m (v.payload n).1 = some (k, i) ∧ a == k := by
  rw [← d.map_bare_key?_payload n m] at h
  obtain ⟨⟨k, i⟩, hk, rfl⟩ := Option.map_eq_some_iff.1 h
  exact ⟨k, i, hk, k.bare_beq⟩

theorem key?_of_address?_none {v : Value} (h : d.address? v = none) (n m : Nat) :
    d.key? m (v.payload n).1 = none := by
  rwa [← d.map_bare_key?_payload n m, Option.map_eq_none_iff] at h

/-- The keys stored are of the key type, or that is `any`. -/
def WellKeyed (d : DictRef) (w : World) : Prop := ∀ k ∈ (w.entries d).keys, d.Admits k

/-- What does not convert to a key is no stored key as it stands either. -/
theorem WellKeyed.get?_ofPayload? {w : World} (h : d.WellKeyed w) {p : Payload} {n : Nat}
    (hp : d.key? n p = none) {k : Key} (hk : Key.ofPayload? p = some k) :
    (w.entries d).get? k = none := by
  by_contra hfound
  obtain ⟨item, hitem⟩ := Option.ne_none_iff_exists'.1 hfound
  obtain ⟨j, hj, hjk⟩ := OrderedMap.exists_key_of_get? hitem
  have hadmits : d.Admits k := (h j hj).imp_right fun hn =>
    (Key.naturalType_eq_of_beq hjk).symm.trans hn
  obtain rfl := Key.ofPayload?_eq_some_iff.1 hk
  rw [key?_toPayload hadmits n] at hp
  contradiction

end DictRef

namespace World

variable {w : World} {d : DictRef}

/-- Where the entry stands that a value addresses. -/
def place? (w : World) (d : DictRef) (v : Value) : Option Nat :=
  (d.address? v).bind (w.entries d).place?

def stored? (w : World) (d : DictRef) (v : Value) : Option Payload :=
  (w.place? d v).bind fun i => (w.entries d).values[i]?

theorem stored?_eq_bind_get? (w : World) (d : DictRef) (v : Value) :
    w.stored? d v = (d.address? v).bind (w.entries d).get? := by
  rw [stored?, place?]
  cases d.address? v with
  | none => rfl
  | some a => exact ((w.entries d).get?_eq_bind_place? a).symm

theorem isSome_place? (w : World) (d : DictRef) (v : Value) :
    (w.place? d v).isSome = (w.stored? d v).isSome := by
  rw [stored?_eq_bind_get?, place?]
  cases d.address? v with
  | none => rfl
  | some a => exact (w.entries d).isSome_place? a

theorem find?_payload (w : World) (d : DictRef) (v : Value) (n m : Nat) :
    d.find? { w with next := m } (v.payload n).1 = w.stored? d v := by
  rw [stored?_eq_bind_get?, DictRef.find?]
  cases ha : d.address? v with
  | none => rw [DictRef.key?_of_address?_none ha]; rfl
  | some a =>
    obtain ⟨k, i, hk, hak⟩ := DictRef.key?_of_address? ha n m
    rw [hk]
    exact (OrderedMap.get?_congr hak).symm

/-- What reading by a key gives, from what is stored under it. -/
def readAs (w : World) (v : Value) : Option Payload → Value × World
  | some item => w.box item
  | none => (.error (.keyNotFound (w.preview {} v)), w)

theorem getAt_dict (h : d.WellKeyed w) {v : Value} (hv : v.isError = false) :
    w.getAt (.dict d) v = w.readAs v (w.stored? d v) := by
  have hread : (d.readKey? (v.payload w.next).2 (v.payload w.next).1).bind
      (fun k => (w.entries d).get? k) = w.stored? d v := by
    have hfind := w.find?_payload d v w.next (v.payload w.next).2
    rw [DictRef.find?] at hfind
    rw [← hfind, DictRef.readKey?]
    cases hk : d.key? (v.payload w.next).2 (v.payload w.next).1 with
    | some k => rfl
    | none =>
      cases hraw : Key.ofPayload? (v.payload w.next).1 with
      | none => rfl
      | some k => exact h.get?_ofPayload? hk hraw
  simp only [getAt, getAt?, getEntry, hv, hread]
  cases w.stored? d v <;> rfl

theorem callNamed_containsKey_place (w : World) (d : DictRef) {v : Value} (hv : v.isError = false)
    (depth : Nat) :
    callNamed (depth + 1) w (.dict d) "contains_key" [v] =
      some (.bool (w.place? d v).isSome, { w with next := (v.payload w.next).2 }) := by
  rw [callNamed_containsKey w d hv, isSome_place?]
  dsimp only
  rw [find?_payload]

theorem removeEntry?_of_place {k : Key} {i : Nat} (h : (w.entries d).place? k = some i) :
    ∃ item, w.removeEntry? d k = some (item, w.setEntries d ((w.entries d).erase k)) := by
  have hsome : ((w.entries d).get? k).isSome = true := by rw [← OrderedMap.isSome_place?, h]; rfl
  obtain ⟨item, hitem⟩ := Option.isSome_iff_exists.1 hsome
  exact ⟨item, congrArg (Option.map _) hitem⟩

theorem removeEntry?_of_no_place {k : Key} (h : (w.entries d).place? k = none) :
    w.removeEntry? d k = none := by
  have hnone : ((w.entries d).get? k).isSome = false := by rw [← OrderedMap.isSome_place?, h]; rfl
  have hitem : (w.entries d).get? k = none := by simpa using hnone
  exact congrArg (Option.map _) hitem

/-- Removing takes out the entry at the place of the key and leaves the others in their order. -/
theorem callNamed_remove_place (w : World) (d : DictRef) {v : Value} (hv : v.isError = false)
    (depth : Nat) :
    ∃ w', callNamed (depth + 1) w (.dict d) "remove" [v] = some (.bool (w.place? d v).isSome, w') ∧
      (w'.entries d).entries =
        match w.place? d v with
        | some i => (w.entries d).entries.eraseIdx i
        | none => (w.entries d).entries := by
  let w' : World := { w with next := (v.payload w.next).2 }
  have hcall := callNamed_remove w d hv depth
  dsimp only at hcall
  rw [hcall]
  cases hplace : w.place? d v with
  | none =>
    have hmiss : ((d.key? w'.next (v.payload w.next).1).bind fun k => w'.removeEntry? d k.1) =
      none := by
      cases ha : d.address? v with
      | none => rw [DictRef.key?_of_address?_none ha]; rfl
      | some a =>
        obtain ⟨k, n, hk, hak⟩ := DictRef.key?_of_address? ha w.next w'.next
        have hnone : (w.entries d).place? a = none := by simpa [place?, ha] using hplace
        have hk' : (w'.entries d).place? k = none := by
          rw [← OrderedMap.place?_congr _ hak]
          exact hnone
        rw [hk]
        exact removeEntry?_of_no_place hk'
    exact ⟨w', by rw [hmiss]; rfl, rfl⟩
  | some i =>
    obtain ⟨a, ha, hi⟩ := Option.bind_eq_some_iff.1 hplace
    obtain ⟨k, n, hk, hak⟩ := DictRef.key?_of_address? ha w.next w'.next
    have hk' : (w'.entries d).place? k = some i := by
      rw [← OrderedMap.place?_congr _ hak]
      exact hi
    obtain ⟨item, hremove⟩ := removeEntry?_of_place hk'
    have hfound : ((d.key? w'.next (v.payload w.next).1).bind fun k => w'.removeEntry? d k.1) =
        some (item, w'.setEntries d ((w'.entries d).erase k)) := by
      rw [hk]
      exact hremove
    refine ⟨w'.setEntries d ((w'.entries d).erase k), by rw [hfound]; rfl, ?_⟩
    rw [entries_setEntries, if_pos rfl, OrderedMap.entries_erase_place, hk']
    rfl

theorem callNamed_get_place (w : World) (d : DictRef) {v : Value} {others : List Value}
    (hv : firstError? (v :: others) = none) (ho : others.length ≤ 1) (depth : Nat) :
    callNamed (depth + 1) w (.dict d) "get" (v :: others) =
      let (qs, n) := Value.payloads (v.payload w.next).2 others
      some (({ w with next := n } : World).box ((w.stored? d v).getD (qs.headD .null))) := by
  rw [callNamed_get w d hv ho]
  dsimp only
  rw [find?_payload]

theorem callNamed_error_argument (w : World) (d : DictRef) {s : Signature}
    (hs : s ∈ BuiltinKind.dictMethods) {args : List Value} {e : Value}
    (he : firstError? args = some e)
    (depth : Nat) : callNamed (depth + 1) w (.dict d) s.name args = some (e, w) :=
  callNamed_of_error (getNamed_method rfl hs w).1 he depth

end World

open World in
/-- All ways of reading by a key go by the one place of the entry that the key addresses: reading by
index and `get` give what is stored there, `contains_key` and `remove` tell whether there is one,
and `remove` takes that one out. A key that does not convert finds nothing as it stands. -/
theorem dict_reads_agree {w : World} {d : DictRef} (h : d.WellKeyed w) {k : Value}
    (hk : k.isError = false) (fallback : Value) (depth : Nat) :
    (w.stored? d k).isSome = (w.place? d k).isSome ∧
    w.getAt (.dict d) k = w.readAs k (w.stored? d k) ∧
    (∃ w', callNamed (depth + 1) w (.dict d) "contains_key" [k] =
      some (.bool (w.place? d k).isSome, w')) ∧
    callNamed (depth + 1) w (.dict d) "get" [k] =
      some (({ w with next := (k.payload w.next).2 } : World).box ((w.stored? d k).getD .null)) ∧
    callNamed (depth + 1) w (.dict d) "get" [k, fallback] =
      (if fallback.isError then some (fallback, w)
      else
        let (q, n) := fallback.payload (k.payload w.next).2
        some (({ w with next := n } : World).box ((w.stored? d k).getD q))) ∧
    (∃ w', callNamed (depth + 1) w (.dict d) "remove" [k] = some (.bool (w.place? d k).isSome, w') ∧
      (w'.entries d).entries =
        match w.place? d k with
        | some i => (w.entries d).entries.eraseIdx i
        | none => (w.entries d).entries) ∧
    (d.address? k = none → w.place? d k = none ∧
      ∀ key, Key.ofPayload? (k.payload w.next).1 = some key → (w.entries d).get? key = none) := by
  have hone : firstError? [k] = none := by simp [firstError?, hk]
  refine ⟨(w.isSome_place? d k).symm, getAt_dict h hk,
    ⟨_, w.callNamed_containsKey_place d hk depth⟩,
    w.callNamed_get_place d hone (Nat.zero_le 1) depth, ?_, w.callNamed_remove_place d hk depth, ?_⟩
  · cases hf : fallback.isError with
    | true =>
      have hs : BuiltinKind.instanceMethod "get"
          [{ name := "key", type := .any },
            { name := "fallback", type := .any, default := some .null }]
          .any (.dict .get) ∈ BuiltinKind.dictMethods := by simp [BuiltinKind.dictMethods]
      exact w.callNamed_error_argument d hs (by simp [firstError?, hk, hf]) depth
    | false =>
      have htwo : firstError? [k, fallback] = none := by simp [firstError?, hk, hf]
      exact w.callNamed_get_place d htwo (Nat.le_refl 1) depth
  · intro ha
    have hkey := DictRef.key?_of_address?_none ha w.next w.next
    exact ⟨by simp [place?, ha], fun key hraw => h.get?_ofPayload? hkey hraw⟩

open World in
/-- A text reads the entry of the integer it converts to, in every way. -/
theorem dict_reads_agree_converted :
    let made := newUntypedDict [(.int 3, .bool true), (.int 5, .null)] default
    let k : Value := .text ⟨9, " 3"⟩
    made.1.WellKeyed made.2 ∧ made.2.getAt (.dict made.1) k = (.bool true, made.2) ∧
      (callNamed 1 made.2 (.dict made.1) "get" [k, .void]).map (·.1) = some (.bool true) ∧
      ∃ w, callNamed 1 made.2 (.dict made.1) "remove" [k] = some (.bool true, w) ∧
        (w.entries made.1).entries = [(.int 5, .null)] := by
  intro made k
  have hkeyed : made.1.WellKeyed made.2 := by
    show ∀ key ∈ [Key.int 3, Key.int 5], DeclaredType.int = .any ∨ key.naturalType = .int
    decide
  have hplace : made.2.place? made.1 k = some 0 := by decide
  have hstored : made.2.stored? made.1 k = some (.bool true) := by decide
  obtain ⟨-, hat, -, -, hget, hremove, -⟩ := dict_reads_agree hkeyed (k := k) rfl .void 0
  rw [hstored] at hat hget
  rw [hplace] at hremove
  exact ⟨hkeyed, hat, by rw [hget]; rfl, hremove⟩

end LateBound
