import LateBound.Proofs.Declaration
import LateBound.Proofs.Dispatch
import LateBound.Proofs.MemberAccess
/-! What a member name stands for. In a declared type a name is that of one accessor or of methods,
and a target sees of it what its context shows: all of it, or the static part when the target is a
type. Through a type no code is run on an instance: getters, setters, overloads and constructors run
without a receiver. -/
namespace LateBound

theorem filterMap_positions {α : Type} (l : List α) (p : α → Bool) :
    ((l.zipIdx.filter fun s => p s.1).map (·.2)).filterMap (l[·]?) = l.filter p := by
  have hfind : ∀ s ∈ l.zipIdx.filter fun s => p s.1, l[s.2]? = some s.1 := fun s hs =>
    List.mem_zipIdx_iff_getElem?.1 (List.mem_filter.1 hs).1
  calc ((l.zipIdx.filter fun s => p s.1).map (·.2)).filterMap (l[·]?)
    _ = (l.zipIdx.filter fun s => p s.1).filterMap fun s => l[s.2]? := List.filterMap_map
    _ = (l.zipIdx.filter fun s => p s.1).filterMap fun s => some s.1 := List.filterMap_congr hfind
    _ = (l.zipIdx.filter fun s => p s.1).map (·.1) := by rw [← List.filterMap_eq_map]; rfl
    _ = (l.zipIdx.map (·.1)).filter p := by rw [List.filter_map]; rfl
    _ = l.filter p := by rw [List.zipIdx_map_fst]

namespace World

/-- What a name comes to when it is read from a target: the visible accessor of that name, else a
group of the visible overloads in the order of declaration, bound unless the target is a type,
else nothing. -/
structure Resolves (w : World) (r : Registration) (t : TypeRef) (target : Value) (name : String) :
    Prop where
  accessor : ∀ a ∈ r.properties ++ r.fields, a.name = name →
    visibleIn target.isType a.isStatic = true →
    ∀ call, w.getMember call target t name = w.readAccessor call t target a
  overloads : (∀ a ∈ r.properties ++ r.fields, a.name = name →
    visibleIn target.isType a.isStatic = false) →
    ∀ ss, ss = r.methods.filter (fun s => s.name == name && visibleIn target.isType s.isStatic) →
      ss ≠ [] →
      ∃ g, (∀ call, w.getMember call target t name = some (.method g, w)) ∧
        g.target = (if target.isType then none else some target) ∧ g.owner = t ∧ g.name = name ∧
        ∀ w' : World, w'.catalog t = w.catalog t → w'.overloads g = ss
  missing : (∀ a ∈ r.properties ++ r.fields, a.name = name →
    visibleIn target.isType a.isStatic = false) →
    r.methods.filter (fun s => s.name == name && visibleIn target.isType s.isStatic) = [] →
      ∀ call, w.getMember call target t name = some (.error (.memberNotFound t.name name), w)

variable {w : World} {r : Registration} {key : TypeKey} {c : Catalog}
  {target : Value} {name : String}

theorem mem_of_visibleAccessor? {t : TypeRef} {a : Accessor} {staticContext : Bool}
    (h : w.visibleAccessor? staticContext t name = some a) :
    a ∈ (w.catalog t).accessors ∧ a.name = name ∧ visibleIn staticContext a.isStatic = true := by
  obtain ⟨hfind, hvisible⟩ := Option.filter_eq_some_iff.1 h
  exact ⟨List.mem_of_find?_eq_some hfind, by simpa using List.find?_some hfind, hvisible⟩

theorem isStatic_of_visibleAccessor? {t : TypeRef} {a : Accessor}
    (h : w.visibleAccessor? true t name = some a) : a.isStatic = true := by
  obtain ⟨-, -, hvisible⟩ := mem_of_visibleAccessor? h
  simpa [visibleIn] using hvisible

theorem visibleAccessor?_of_build (hb : r.build key = .ok c)
    (hc : w.catalog c.type = c) {a : Accessor}
    (ha : a ∈ r.properties ++ r.fields) {staticContext : Bool}
    (hv : visibleIn staticContext a.isStatic = true) :
    w.visibleAccessor? staticContext c.type a.name = some a := by
  rw [visibleAccessor?, hc, Registration.accessor?_of_build hb ha]
  simp [hv]

theorem visibleAccessor?_of_invisible (hb : r.build key = .ok c) (hc : w.catalog c.type = c)
    {staticContext : Bool}
    (h : ∀ a ∈ r.properties ++ r.fields, a.name = name →
      visibleIn staticContext a.isStatic = false) :
    w.visibleAccessor? staticContext c.type name = none := by
  refine Option.eq_none_iff_forall_ne_some.2 fun a ha => ?_
  obtain ⟨hmem, hname, hvisible⟩ := mem_of_visibleAccessor? ha
  rw [hc, Registration.eq_freeze_of_build hb] at hmem
  rw [h a hmem hname] at hvisible
  contradiction

theorem overloads_visible (hb : r.build key = .ok c)
    (hc : w.catalog c.type = c) (staticContext : Bool)
    (name : String) {g : MethodGroup} (ho : g.owner = c.type) (hn : g.name = name)
    (hi : g.overloads = w.visibleOverloads staticContext c.type name) {w' : World}
    (hw : w'.catalog c.type = w.catalog c.type) : w'.overloads g =
      r.methods.filter fun s => s.name == name && visibleIn staticContext s.isStatic := by
  rw [World.overloads, ho, hn, hi, hw, visibleOverloads, hc,
    filterMap_positions (c.overloads name) fun s => visibleIn staticContext s.isStatic,
    Registration.overloads_of_build hb, List.filter_filter]
  simp only [Bool.and_comm]

theorem resolves_of_build (hb : r.build key = .ok c) (hc : w.catalog c.type = c)
    (ht : target.isError = false) (name : String) : w.Resolves r c.type target name where
  accessor a ha hn hv := by
    obtain rfl := hn
    exact getMember_of_visible ht (visibleAccessor?_of_build hb hc ha hv)
  overloads h ss hss hne := by
    have hnone := visibleAccessor?_of_invisible hb hc h
    let g : MethodGroup :=
      if target.isType then .unbound c.type name (w.visibleOverloads target.isType c.type name)
      else .bound target c.type name (w.visibleOverloads target.isType c.type name)
    have howner : g.owner = c.type := by unfold g; split <;> rfl
    have hname : g.name = name := by unfold g; split <;> rfl
    have hat : g.overloads = w.visibleOverloads target.isType c.type name := by
      unfold g; split <;> rfl
    have hall {w' : World} (hw : w'.catalog c.type = w.catalog c.type) : w'.overloads g = ss :=
      (overloads_visible hb hc target.isType name howner hname hat hw).trans hss.symm
    refine ⟨g, ?_, ?_, howner, hname, fun w' hw => hall hw⟩
    · have hsome : w.visibleOverloads target.isType c.type name ≠ [] := by
        intro h
        have hempty : w.overloads g = [] := by rw [World.overloads, hat, h]; rfl
        exact hne ((hall rfl).symm.trans hempty)
      intro call
      rw [getMember, ht, hnone]
      cases hv : w.visibleOverloads target.isType c.type name with
      | nil => exact absurd hv hsome
      | cons i is => simp [g, hv]
    · unfold g
      split <;> rfl
  missing h hss := by
    have hnone := visibleAccessor?_of_invisible hb hc h
    have hempty : w.visibleOverloads target.isType c.type name = [] := by
      rw [visibleOverloads, hc, List.map_eq_nil_iff, List.filter_eq_nil_iff]
      intro s hs hv
      have hmem := List.mem_of_getElem? (List.mem_zipIdx_iff_getElem?.1 hs)
      rw [Registration.overloads_of_build hb, List.mem_filter] at hmem
      exact List.filter_eq_nil_iff.1 hss s.1 hmem.1 (by simp [hmem.2, hv])
    intro call
    rw [getMember, ht, hnone, hempty]
    rfl

theorem receiver_of_start {target : Value} {args : List Value} {s : Signature}
    {receiver : Option Value}
    {ps : List Payload} {w₁ : World} (hs : w.start target args = .body s receiver ps w₁) :
    receiver = s.receiverOf target.receiver? := by
  by_cases ht : .invocable ∈ target.capabilities
  · by_cases hq : w.Quiet target args
    · obtain ⟨e, n, -, h⟩ := start_of_quiet ht hq
      rw [hs] at h
      contradiction
    · obtain ⟨c, -, -, h⟩ := start_of_not_quiet ht hq
      rw [hs] at h
      obtain ⟨rfl, rfl, -⟩ := Start.body.inj h
      rfl
  · cases target with
    | type t => exact absurd List.mem_cons_self ht
    | method g => exact absurd List.mem_cons_self ht
    | function f => exact absurd List.mem_cons_self ht
    | _ => contradiction

theorem receiver_eq_none {target : Value} {args : List Value} {s : Signature}
    {receiver : Option Value}
    {ps : List Payload} {w₁ : World} (ht : target.receiver? = none)
    (hs : w.start target args = .body s receiver ps w₁) : receiver = none := by
  rw [receiver_of_start hs, Signature.receiverOf, ht]
  split <;> rfl

/-- Through a type no code is run on an instance: a getter and a setter run without a receiver, a
method that is read does so whenever it is invoked, and so does a constructor. -/
structure Apart (w : World) (t h : TypeRef) (name : String) : Prop where
  static : ∀ a, w.visibleAccessor? true t name = some a → a.isStatic = true
  read : ∀ a b call, w.visibleAccessor? true t name = some a → a.getter = some b →
    w.getMember call (.type h) t name =
      (b.run call none [] w).map fun (r, w) => Signature.finish s!"{t.name}.{a.name}" false r w
  write : ∀ a b v c call, w.visibleAccessor? true t name = some a → a.setter = some b →
    v.isError = false → v.coerce w.next a.type = some c →
      w.setMember call (.type h) t name v =
        (b.run call none [c.payload] { w with next := c.next }).map fun (r, w) => (r.toBool, w)
  call : ∀ call g w₀, w.visibleAccessor? true t name = none →
    w.getMember call (.type h) t name = some (.method g, w₀) →
      ∀ (w' : World) (args : List Value) (s : Signature)
        (receiver : Option Value) (ps : List Payload)
        (w₁ : World), w'.start (.method g) args = .body s receiver ps w₁ → receiver = none
  construct : ∀ (w' : World) (args : List Value) (s : Signature) (receiver : Option Value)
    (ps : List Payload) (w₁ : World), w'.start (.type h) args = .body s receiver ps w₁ →
      receiver = none

theorem receiverOf_of_static {a : Accessor} (hs : a.isStatic = true) (target : Value) :
    a.receiverOf target = none := by
  rw [Accessor.receiverOf, hs]
  rfl

theorem apart (w : World) (t h : TypeRef) (name : String) : w.Apart t h name where
  static _ ha := isStatic_of_visibleAccessor? ha
  read a b call ha hb := by
    have hreceiver := receiverOf_of_static (isStatic_of_visibleAccessor? ha) (.type h)
    have hfree : (a.receiverOf (.type h)).bind w.heldReceiver? = none := by rw [hreceiver]; rfl
    rw [getMember_of_visible rfl ha, readAccessor_of_free hb hfree, hreceiver]
    rfl
  write a b v c call ha hb hv hc := by
    have hreceiver := receiverOf_of_static (isStatic_of_visibleAccessor? ha) (.type h)
    have hfree : (a.receiverOf (.type h)).bind w.heldReceiver? = none := by rw [hreceiver]; rfl
    have hne : ((Value.type h).isError || v.isError) = false := hv
    rw [setMember_of_visible hne ha, writeAccessor_of_free hb hc hfree, hreceiver]
    rfl
  call call g w₀ hn hg w' args s receiver ps w₁ hs := by
    refine receiver_eq_none ?_ hs
    simp only [getMember, Value.isError, Value.isType, hn, Bool.false_eq_true, if_false, if_true]
      at hg
    split at hg
    · cases hg
    · obtain ⟨hg, -⟩ := Prod.mk.inj (Option.some.inj hg)
      obtain rfl := Value.method.inj hg
      rfl
  construct w' args s receiver ps w₁ hs := receiver_eq_none rfl hs

end World

open World in
/-- In a declared type at most one member has a name, and that is what reading the name comes
to from any target that is no error, which itself comes back. Through a type no code is run on
an instance. -/
theorem member_resolution {r : Registration} {key : TypeKey} {c : Catalog}
    (hb : r.build key = .ok c)
    {w : World} (hc : w.catalog c.type = c) (name : String) :
    ((r.properties ++ r.fields).filter (·.name == name)).length +
      (if r.methods.any (·.name == name) then 1 else 0) ≤ 1 ∧
    (∀ e call, w.getMember call (.error e) c.type name = some (.error e, w)) ∧
    (∀ target, target.isError = false → w.Resolves r c.type target name) ∧
    ∀ h, w.Apart c.type h name :=
  ⟨Registration.members_of_build hb name, fun _ _ => rfl, fun _ ht =>
    resolves_of_build hb hc ht name,
    fun h => w.apart c.type h name⟩

open World in
/-- A type with an accessor and three overloads of one name, the second of them of instances: as a
type it shows the first and the last, and no accessor. -/
theorem member_resolution_type :
    let make (isStatic : Bool) (t : DeclaredType) : Signature :=
      { name := "make", parameters := [{ name := "from", type := t }], returns := .any, isStatic
        body := .free fun _ => .done .null }
    let hp : Accessor :=
      ⟨"hp", .int, false, some (.method "Node" fun _ => .demand (.readSlot "hp" .null) .done), none⟩
    let r : Registration :=
      { name := "Node", properties := [hp],
        methods := [make true .int, make false .int, make true .string] }
    let c : Catalog := r.freeze (.declared 0)
    let w : World := { next := 1, catalogs := OrderedMap.insert ∅ 0 c }
    r.build (.declared 0) = .ok c ∧
      (∃ g, (∀ call, w.getMember call (.type c.type) c.type "make" = some (.method g, w)) ∧
        g.target = none ∧ w.overloads g = [make true .int, make true .string]) ∧
      (∀ call, w.getMember call (.type c.type) c.type "hp" =
        some (.error (.memberNotFound "Node" "hp"), w)) ∧
      w.Apart c.type c.type "make" := by
  intro make hp r c w
  have hb : r.build (.declared 0) = .ok c := (r.build_eq_ok_iff _ _).2 ⟨by decide, rfl⟩
  obtain ⟨-, -, hmake, hapart⟩ := member_resolution hb (w := w) rfl "make"
  obtain ⟨-, -, hhp, -⟩ := member_resolution hb (w := w) rfl "hp"
  have hhidden (n : String) :
      ∀ a ∈ r.properties ++ r.fields, a.name = n → visibleIn true a.isStatic = false := by
    intro a ha _
    obtain rfl := List.mem_singleton.1 ha
    rfl
  obtain ⟨g, hg, htarget, -, -, hoverloads⟩ :=
    (hmake (.type c.type) rfl).overloads (hhidden _)
      [make true .int, make true .string] rfl (by simp)
  exact ⟨hb, ⟨g, hg, htarget, hoverloads w rfl⟩, (hhp (.type c.type) rfl).missing (hhidden _) rfl,
    hapart c.type⟩

end LateBound
