import LateBound.Proofs.MemberWrite
/-! Writing back what a member was read as. What is read is data of the member's kind handed out,
and it converts back to just that. The exception is null, which is what an optional item is handed
out as when it is not there: the declared type is that of the item, and most types of items take
no null. -/
namespace LateBound

namespace HostKind

theorem optional_of_null {w u : World} {k : HostKind} (hk : k.isLasting = true)
    {x : k.Carrier} {p : Payload}
    (h : k.Represents w x p) (hnull : (u.box p).1 = .null) : ∃ item, k = .optional item := by
  cases k with
  | optional item => exact ⟨item, rfl⟩
  | payload | single => contradiction
  | integer i =>
    obtain rfl : p = ofInt x.1 := h
    unfold ofInt at hnull
    split at hnull <;> contradiction
  | string =>
    obtain ⟨t, rfl, -⟩ := h
    contradiction
  | sequence item =>
    obtain ⟨l, rfl, -⟩ := h
    contradiction
  | _ =>
    obtain rfl := h
    contradiction

end HostKind

namespace World

variable {w w₁ : World} {t : TypeRef} {target : Value} {name : String}
  {a : Accessor} {s : Slot} {v : Value}

theorem exists_place {absent q : Payload} (ht : ∃ id, s.type.key = .declared id)
    (h : w.cell? s target absent = some q) : ∃ p, s.place? target = some p := by
  obtain ⟨id, ht⟩ := ht
  unfold cell? at h
  unfold Slot.place?
  cases hs : s.isStatic with
  | true => exact ⟨.type id s.name, by simp [ht]⟩
  | false =>
    cases target with
    | object o => exact ⟨_, rfl⟩
    | _ => simp [hs] at h

/-- What a member kept in a slot is read as boxes what represents data of its kind, and reading
changes nothing else. -/
theorem exists_of_getMember {call : Caller} (ha : w.visibleAccessor? target.isType t name = some a)
    (hr : a.isReadable = true) (hs : a.StoredBy t s none) (ht : ∃ id, t.key = .declared id)
    (hk : s.kind.isLasting = true) (hv : w.getMember call target t name = some (v, w₁))
    (he : v.isError = false) : target.isError = false ∧
      (s.receiver? target).bind w.heldReceiver? = none ∧ (∃ p, s.place? target = some p) ∧
      ∃ x q w₀, s.kind.Keeps x ∧ s.kind.Represents w₀ x q ∧ w.Grows w₀ ∧ v = (w₀.box q).1 ∧
        w₁ = (w₀.box q).2 := by
  have htarget : target.isError = false := by
    by_contra htarget
    rw [Bool.not_eq_false] at htarget
    simp only [getMember, htarget, if_true, Option.some.injEq, Prod.mk.injEq] at hv
    obtain ⟨rfl, -⟩ := hv
    rw [he] at htarget
    contradiction
  obtain ⟨b, hb⟩ := Option.isSome_iff_exists.1 hr
  obtain ⟨absent, rfl⟩ := hs.reads_slot b hb
  rw [getMember_of_visible htarget ha] at hv
  cases ho : (s.receiver? target).bind w.heldReceiver? with
  | some o =>
    rw [readAccessor_of_held hb (by rw [Accessor.receiverOf_eq hs.isStatic_eq, ho])] at hv
    obtain ⟨rfl, -⟩ := Prod.mk.inj (Option.some.inj hv)
    contradiction
  | none =>
    rw [readAccessor_slot hs.isStatic_eq hb ho] at hv
    cases hx : s.reading w target absent none with
    | error m =>
      rw [hx] at hv
      obtain ⟨rfl, -⟩ := Prod.mk.inj (Option.some.inj hv)
      contradiction
    | ok x =>
      obtain ⟨q, w₀, hq, hrep, hgrows⟩ := exists_handOut ho s.kind x
      simp only [hx, hq, Option.some.injEq] at hv
      obtain ⟨q₀, hcell, hread⟩ := Slot.exists_of_reading hx
      exact ⟨htarget, rfl, exists_place (by rw [hs.key_eq]; exact ht) hcell, x, q, w₀,
        HostKind.keeps_of_read hk hread, hrep, hgrows, (congrArg Prod.fst hv).symm,
        (congrArg Prod.snd hv).symm⟩

theorem setMember_null (ha : w.visibleAccessor? target.isType t name = some a)
    (hnull : a.type.isNullable = false) (call : Caller) :
    w.setMember call target t name .null = some (false, w) := by
  cases ht : target.isError || Value.null.isError with
  | true => exact setMember_of_error ht call
  | false =>
    rw [setMember_of_visible ht ha]
    exact writeAccessor_of_inconvertible (HostKind.coerce_null hnull _) call

/-- A value that converts to what represents kept data is written, and is then what the member
reads as. -/
theorem setMember_of_represents (hv : v.isError = false) (ht : target.isError = false)
    (ha : w.visibleAccessor? target.isType t name = some a) (hr : a.isReadable = true)
    (hs : a.StoredBy t s none) (hdeclared : ∃ id, t.key = .declared id)
    (hfree : (s.receiver? target).bind w.heldReceiver? = none) {p : Place}
    (hp : s.place? target = some p)
    {x : s.kind.Carrier} (hx : s.kind.Keeps x) {q : Payload}
    (hrep : s.kind.Represents w x q) {cost : UInt32}
    (hc : v.coerce w.next a.type = some ⟨q, cost, w.next⟩) :
    ∃ w', (∀ call, w.setMember call target t name v = some (true, w')) ∧ w.Extends w' ∧
      (s.receiver? target).bind w'.heldReceiver? = none ∧
      ∀ call, w'.getMember call target t name =
        some (w'.handOut (s.receiver? target) s.kind x) := by
  have hstoring : s.storing w target none q = .ok (x, p) :=
    Slot.storing_eq_ok_iff.2 ⟨rfl, HostKind.read_of_represents hx hrep, hp⟩
  obtain ⟨q', w', hreplaces, hrep', hrun⟩ :=
    writeAccessor_of_accepted hs hdeclared hc hfree hstoring
  have hset := setMember_of_visible (Bool.or_eq_false_iff.2 ⟨ht, hv⟩) ha
  exact ⟨w', fun call => (hset call).trans (hrun call), hreplaces.extended,
    (heldReceiver?_congr hreplaces.inUse _).trans hfree,
    hreplaces.getMember ht ha hs hr hfree hp hx hrep'⟩

end World

open World in
/-- What a member is read as can be written back, and is then read again, unless it is null, as an
optional item may be, and the type of the item takes no null. -/
theorem member_written_back {w w₁ : World} {t : TypeRef} {target : Value}
    {name : String} {a : Accessor}
    {s : Slot} (ha : w.visibleAccessor? target.isType t name = some a) (hr : a.isReadable = true)
    (hs : a.StoredBy t s none) (hk : s.kind.isLasting = true) {v : Value} {call : Caller}
    (hv : w.getMember call target t name = some (v, w₁)) (he : v.isError = false) :
    (v = .null → ∃ item, s.kind = .optional item) ∧
    (v = .null ∧ a.type.isNullable = false →
      ∀ call, w₁.setMember call target t name v = some (false, w₁)) ∧
    (¬ (v = .null ∧ a.type.isNullable = false) → ∃ v' w₂ w₃,
      (∀ call, w₁.setMember call target t name v = some (true, w₂)) ∧
      (∀ call, w₂.getMember call target t name = some (v', w₃)) ∧ w₁.Extends w₃ ∧
      v.Mirrors w₁ w₃ v') := by
  -- the value boxes `q`, which represents the data `x`; the same data is stored and handed out
  -- again below
  obtain ⟨hmem, -, -⟩ := mem_of_visibleAccessor? ha
  have hdeclared := exists_declared hmem
    (by rw [Accessor.isWritable, hs.setter_eq, Option.isSome_some])
  obtain ⟨ht, hfree, ⟨p, hp⟩, x, q, w₀, hx, hrep, hgrows, rfl, rfl⟩ :=
    exists_of_getMember ha hr hs hdeclared hk hv he
  have hboxed := w₀.grows_box q
  have hread : w.Grows (w₀.box q).2 := hgrows.trans hboxed
  have ha₁ : (w₀.box q).2.visibleAccessor? target.isType t name = some a := by
    rw [visibleAccessor?_congr hread.catalogs_eq, ha]
  refine ⟨HostKind.optional_of_null hk hrep, ?_, fun hok => ?_⟩
  · rintro ⟨hnull, htype⟩
    rw [hnull]
    exact setMember_null ha₁ htype
  · have hinUse := fun o : ObjectRef => congrArg Instance.inUse (hread.object_eq o)
    have hfree₁ := (heldReceiver?_congr hinUse (s.receiver? target)).trans hfree
    have hnullable : q.isNull = false ∨ s.kind.declaredType.isNullable = true := by
      cases q with
      | null => exact .inr (by simpa [← hs.type_eq, box, Value.ofPayload] using hok)
      | _ => exact .inl rfl
    obtain ⟨cost, hc⟩ := HostKind.coerce_box (u := w₀) hk hx hrep hnullable (w₀.box q).2.next
    rw [← hs.type_eq] at hc
    obtain ⟨w₂, hset, hextends, hfree₂, hget⟩ :=
      setMember_of_represents he ht ha₁ hr hs hdeclared hfree₁ hp
      hx (hrep.extend hboxed.extended) hc
    obtain ⟨q', w₃, hq', hrep', hgrows'⟩ := exists_handOut hfree₂ s.kind x
    simp only [hq'] at hget
    exact ⟨_, w₂, _, hset, hget, hextends.trans (hgrows'.trans (grows_box _ q')).extended,
      (hrep.mirrors hrep').box⟩

open World in
/-- A list of optional integers, one of them not there, is written back as it was read. -/
theorem member_written_back_sequence :
    let path : MemberPlan :=
      { form := .staticField, name := "path", slot := "path"
        kind := .sequence (.optional (.integer ⟨true, .w64⟩)) }
    let b : Blueprint := { name := "Node", members := [path] }
    let c : Catalog := (b.registration (.declared 0)).freeze (.declared 0)
    let w : World :=
      { next := 2
        lists := OrderedMap.insert ∅ 1 [.int 5, .null]
        statics := OrderedMap.insert ∅ 0 (OrderedMap.insert ∅ "path" (.list ⟨1, .int⟩))
        catalogs := OrderedMap.insert ∅ 0 c }
    ∃ v w₁, (∀ call, w.getMember call (.type c.type) c.type "path" = some (v, w₁)) ∧
      v = .list ⟨2, .int⟩ ∧ w₁.items ⟨2, .int⟩ = [.int 5, .null] ∧
      ∃ v' w₂ w₃, (∀ call, w₁.setMember call (.type c.type) c.type "path" v = some (true, w₂)) ∧
        (∀ call, w₂.getMember call (.type c.type) c.type "path" = some (v', w₃)) ∧ w₁.Extends w₃ ∧
        v.Mirrors w₁ w₃ v' := by
  intro path b c w
  have hs := b.storedBy_accessor (t := c.type) (m := path) rfl rfl
  have hvisible : w.visibleAccessor? (Value.type c.type).isType c.type "path" =
      some (b.accessor (.declared 0) path) := rfl
  obtain ⟨v, w₁, hread, hv, hitems⟩ : ∃ v w₁,
      (∀ call, w.getMember call (.type c.type) c.type "path" = some (v, w₁)) ∧ v = .list ⟨2, .int⟩ ∧
        w₁.items ⟨2, .int⟩ = [.int 5, .null] := ⟨_, _, fun _ => rfl, rfl, rfl⟩
  have herror : v.isError = false := by rw [hv]; rfl
  obtain ⟨-, -, hwritten⟩ := member_written_back hvisible rfl hs rfl (hread fun _ _ => none) herror
  exact ⟨v, w₁, hread, hv, hitems, hwritten (by simp [hv])⟩

/-- An optional integer that is not there is read as null, and null is not written to it. -/
theorem null_not_written_back :
    let hp : MemberPlan :=
      { form := .readWriteProperty, name := "hp", kind := .optional (.integer ⟨true, .w64⟩),
        slot := "hp" }
    let b : Blueprint := { name := "Node", members := [hp] }
    let c : Catalog := (b.registration (.declared 0)).freeze (.declared 0)
    let o : ObjectRef := ⟨1, c.type⟩
    let w : World :=
      { next := 2, objects := OrderedMap.insert ∅ 1 {}, catalogs := OrderedMap.insert ∅ 0 c }
    (b.registration (.declared 0)).build (.declared 0) = .ok c ∧ hp.kind.isLasting = true ∧
      (b.accessor (.declared 0) hp).StoredBy c.type (b.slot (.declared 0) hp) none ∧
      (∀ i : ObjectRef, (w.object i).inUse = false) ∧
      (∀ call, w.getMember call (.object o) c.type "hp" = some (.null, w)) ∧
      ∀ call, w.setMember call (.object o) c.type "hp" .null = some (false, w) := by
  intro hp b c o w
  refine ⟨rfl, rfl, b.storedBy_accessor (t := c.type) (m := hp) rfl rfl, fun i => ?_, fun _ => rfl,
    fun _ => rfl⟩
  simp only [w, World.object, OrderedMap.getD, OrderedMap.get?_insert, beq_iff_eq]
  split <;> rfl

end LateBound
