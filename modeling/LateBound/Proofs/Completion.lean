import LateBound.Environment
import LateBound.Proofs.MemberResolution
import LateBound.Proofs.TypedWrite
/-! Completion and lookup. What completion lists is in order and without repeats, and it lists just
the names that lookup finds: of a target the visible members that can be read or called, and without
a target the names that are bound or registered. -/
namespace LateBound

theorem pairwise_sortNames (names : List String) : (sortNames names).Pairwise (· ≤ ·) := by
  have h : (sortNames names).Pairwise fun a b => decide (a ≤ b) = true :=
    List.pairwise_mergeSort (fun a b c => by simpa using String.le_trans)
      (fun a b => by simpa using String.le_total a b) names
  simpa only [decide_eq_true_eq] using h

theorem mem_sortNames {n : String} {names : List String} : n ∈ sortNames names ↔ n ∈ names :=
  (List.mergeSort_perm names _).mem_iff

theorem mem_dropRepeats {n : String} {names : List String} : n ∈ dropRepeats names ↔ n ∈ names := by
  fun_induction dropRepeats names with
  | case1 => rfl
  | case2 m => rfl
  | case3 m rest ih => rw [ih]; simp
  | case4 m k rest hne ih => rw [List.mem_cons, ih, List.mem_cons (a := n) (b := m)]

theorem pairwise_dropRepeats {names : List String} (h : names.Pairwise (· ≤ ·)) :
    (dropRepeats names).Pairwise (· < ·) := by
  fun_induction dropRepeats names with
  | case1 => exact .nil
  | case2 m => exact List.pairwise_singleton _ m
  | case3 m rest ih => exact ih (List.pairwise_cons.1 h).2
  | case4 m k rest hne ih =>
    obtain ⟨hm, hrest⟩ := List.pairwise_cons.1 h
    obtain ⟨hk, -⟩ := List.pairwise_cons.1 hrest
    refine List.pairwise_cons.2 ⟨fun n hn => String.not_le.1 fun hnm => ?_, ih hrest⟩
    -- `n` is not before `k`, so if it is not after `m` all three are one
    have hkn : k ≤ n := by
      rcases List.mem_cons.1 (mem_dropRepeats.1 hn) with rfl | hn
      · exact String.le_refl n
      · exact hk n hn
    exact hne (String.le_antisymm (hm k List.mem_cons_self) (String.le_trans hkn hnm))

namespace Environment

/-- What is listed of some names: those that begin with the text, each once and in order. -/
def listed (names : List String) (start : String) : List String :=
  dropRepeats (sortNames (names.filter fun n => start.toList.isPrefixOf n.toList))

theorem pairwise_listed (names : List String) (start : String) :
    (listed names start).Pairwise (· < ·) :=
  pairwise_dropRepeats (pairwise_sortNames _)

theorem mem_listed {n : String} {names : List String} {start : String} :
    n ∈ listed names start ↔ start.toList <+: n.toList ∧ n ∈ names := by
  rw [listed, mem_dropRepeats, mem_sortNames, List.mem_filter, List.isPrefixOf_iff_prefix, and_comm]

theorem complete_target (e : Environment) (w : World) {target : Value} {t : TypeRef}
    (ht : target.memberType? = some t) (start : String) :
    e.complete w (some target) start =
      listed (w.memberNames target t ++ w.methodNames target t) start := by
  simp only [complete, ht, listed]

theorem complete_root (e : Environment) (w : World) (start : String) :
    e.complete w none start = listed (e.globals.keys ++ e.types.keys) start := rfl

end Environment

namespace World

def Built (w : World) (t : TypeRef) : Prop :=
  ∃ r : Registration, r.build t.key = .ok (w.catalog t) ∧ (w.catalog t).type = t

theorem built_builtin (w : World) (kind : BuiltinKind) : w.Built (.builtin kind) := by
  refine ⟨kind.registration, (kind.registration.build_eq_ok_iff _ _).2
    ⟨kind.problem?_registration, rfl⟩, ?_⟩
  cases kind <;> rfl

theorem built_declare {r : Registration} {statics : OrderedMap String Payload}
    {w w' : World} {t : TypeRef}
    (h : w.declare r statics = .ok (t, w')) : w'.Built t := by
  obtain ⟨c, hc, h⟩ := bind_eq_ok_iff.1 h
  obtain ⟨rfl, rfl⟩ := Prod.mk.inj (Except.ok.inj h)
  have hkey : c.type.key = .declared w.next := by rw [Registration.eq_freeze_of_build hc]; rfl
  have hcatalog : World.catalog { w with
      next := w.next + 1, catalogs := w.catalogs.insert w.next c,
      statics := w.statics.insert w.next statics } c.type = c := by
    simp [catalog, hkey, OrderedMap.getD, OrderedMap.get?_insert]
  exact ⟨r, by rw [hkey, hcatalog, hc], by rw [hcatalog]⟩

variable {w : World} {target : Value} {t : TypeRef} {n : String}

def HasAccessor (w : World) (target : Value) (t : TypeRef) (n : String) (readable : Bool) : Prop :=
  ∃ a ∈ (w.catalog t).accessors, a.name = n ∧ a.isReadable = readable ∧
    visibleIn target.isType a.isStatic = true

def HasOverload (w : World) (target : Value) (t : TypeRef) (n : String) : Prop :=
  ∃ s ∈ (w.catalog t).overloads n, visibleIn target.isType s.isStatic = true

theorem mem_memberNames : n ∈ w.memberNames target t ↔ w.HasAccessor target t n true := by
  simp only [memberNames, HasAccessor, List.mem_map, List.mem_filter, Bool.and_eq_true]
  constructor
  · rintro ⟨a, ⟨ha, hr, hv⟩, hn⟩
    exact ⟨a, ha, hn, hr, hv⟩
  · rintro ⟨a, ha, hn, hr, hv⟩
    exact ⟨a, ⟨ha, hr, hv⟩, hn⟩

theorem mem_methodNames : n ∈ w.methodNames target t ↔ w.HasOverload target t n := by
  rw [methodNames, List.mem_filter, List.any_eq_true]
  refine ⟨And.right, fun h => ⟨?_, h⟩⟩
  obtain ⟨s, hs, -⟩ := h
  rw [Catalog.overloads, OrderedMap.getD] at hs
  cases hm : (w.catalog t).methods.get? n with
  | none => simp [hm] at hs
  | some ss => exact OrderedMap.mem_keys_iff.2 ⟨ss, hm⟩

/-- Getters of the name do not hand out an error as what they read. -/
def ReadsPlainly (call : Caller) (w : World) (target : Value) (t : TypeRef) (n : String) : Prop :=
  ∀ a ∈ (w.catalog t).accessors, a.name = n → ∀ b, a.getter = some b → ∀ p w',
    b.run call (a.receiverOf target) [] (w.enter (a.receiverOf target)) = some (.ok p, w') →
      ∀ e, p ≠ .boxed (.error e)

theorem code_box {p : Payload} (h : ∀ e, p ≠ .boxed (.error e)) (w : World) : (w.box p).1.code =
    .success := by
  cases p with
  | boxed v =>
    cases v with
    | error e => exact absurd rfl (h e)
    | _ => rfl
  | _ => rfl

theorem code_readAccessor {call : Caller} {a : Accessor} (ha : a ∈ (w.catalog t).accessors)
    (h : w.ReadsPlainly call target t a.name) {v : Value} {w' : World}
    (hv : w.readAccessor call t target a = some (v, w')) : v.code ≠ .memberNotFound := by
  cases hb : a.getter with
  | none =>
    rw [readAccessor_of_no_getter hb] at hv
    obtain ⟨rfl, -⟩ := Prod.mk.inj (Option.some.inj hv)
    nofun
  | some b =>
    cases ho : (a.receiverOf target).bind w.heldReceiver? with
    | some o =>
      rw [readAccessor_of_held hb ho] at hv
      obtain ⟨rfl, -⟩ := Prod.mk.inj (Option.some.inj hv)
      nofun
    | none =>
      rw [readAccessor_of_free hb ho] at hv
      obtain ⟨⟨outcome, w₁⟩, hrun, he⟩ := Option.map_eq_some_iff.1 hv
      cases outcome with
      | error m =>
        obtain ⟨rfl, -⟩ := Prod.mk.inj he
        nofun
      | ok p =>
        have hcode := code_box (h a ha rfl b hb p w₁ hrun) (w₁.leave (a.receiverOf target))
        have he : (w₁.leave (a.receiverOf target)).box p = (v, w') := he
        rw [he] at hcode
        simp [hcode]

theorem isError_of_memberType? (h : target.memberType? = some t) : target.isError = false := by
  cases target with
  | error e => contradiction
  | _ => rfl

theorem getNamed_eq_of_memberType? (h : target.memberType? = some t) (call : Caller) (n : String) :
    w.getNamed call target n = w.getMember call target t n := by
  simp only [getNamed, h]

/-- A name is reported as missing when it has neither a visible accessor nor a visible overload. -/
theorem missing_iff {call : Caller} (hb : w.Built t) (ht : target.memberType? = some t)
    (hp : w.ReadsPlainly call target t n) :
    (∃ v w', w.getNamed call target n = some (v, w') ∧ v.code = .memberNotFound) ↔
      (∀ readable, ¬ w.HasAccessor target t n readable) ∧ ¬ w.HasOverload target t n := by
  obtain ⟨r, hbuild, htype⟩ := hb
  have hfreeze := Registration.eq_freeze_of_build hbuild
  have haccessors : (w.catalog t).accessors = r.properties ++ r.fields := by rw [hfreeze]; rfl
  have hoverloads := Registration.overloads_of_build hbuild n
  have hresolves : w.Resolves r t target n := by
    have h := resolves_of_build hbuild (w := w) (by rw [htype]) (isError_of_memberType? ht) n
    rwa [htype] at h
  rw [getNamed_eq_of_memberType? ht]
  by_cases hacc : ∃ a ∈ r.properties ++ r.fields, a.name = n ∧
    visibleIn target.isType a.isStatic = true
  · obtain ⟨a, ha, rfl, hv⟩ := hacc
    rw [← haccessors] at ha
    rw [hresolves.accessor a (haccessors ▸ ha) rfl hv]
    refine iff_of_false ?_ fun h => h.1 a.isReadable ⟨a, ha, rfl, rfl, hv⟩
    rintro ⟨v, w', hread, hcode⟩
    exact code_readAccessor ha hp hread hcode
  · have hhidden : ∀ a ∈ r.properties ++ r.fields, a.name = n →
      visibleIn target.isType a.isStatic = false :=
      fun a ha hn => Bool.eq_false_iff.2 fun hv => hacc ⟨a, ha, hn, hv⟩
    have hnone : ∀ readable, ¬ w.HasAccessor target t n readable := by
      rintro readable ⟨a, ha, hn, -, hv⟩
      exact hacc ⟨a, haccessors ▸ ha, hn, hv⟩
    have hvisible : w.HasOverload target t n ↔
        r.methods.filter (fun s => s.name == n && visibleIn target.isType s.isStatic) ≠ [] := by
      simp only [HasOverload, hoverloads, ne_eq, List.filter_eq_nil_iff, List.mem_filter,
        Bool.and_eq_true,
        not_forall, not_not, exists_prop, and_assoc]
    by_cases hempty : r.methods.filter
      (fun s => s.name == n && visibleIn target.isType s.isStatic) = []
    · rw [hresolves.missing hhidden hempty]
      exact iff_of_true ⟨_, _, rfl, rfl⟩ ⟨hnone, fun h => hvisible.1 h hempty⟩
    · obtain ⟨g, hg, -⟩ := hresolves.overloads hhidden _ rfl hempty
      rw [hg]
      refine iff_of_false ?_ fun h => h.2 (hvisible.2 hempty)
      rintro ⟨v, w', hread, hcode⟩
      obtain ⟨rfl, -⟩ := Prod.mk.inj (Option.some.inj hread)
      contradiction

end World

namespace Environment

/-- Consoles as they come to be: types are registered and names bound and unbound, from nothing. -/
inductive Reachable : Environment → Prop
  | start (limits : PreviewLimits) (tracing : Bool) : Reachable { limits, tracing }
  | register {e e' : Environment} {t : TypeRef} (h : Reachable e) (he : e.register t = .ok e') :
      Reachable e'
  | bind {e : Environment} (h : Reachable e) (name : String) (p : Payload) (w : World) :
      Reachable (e.bind name p w).2.1
  | unbind {e : Environment} (h : Reachable e) (name : String) : Reachable (e.unbind name).2

def TypesNamed (e : Environment) : Prop := ∀ n t, e.types.get? n = some t → t.name = n

variable {e e' : Environment} {n : String}

theorem TypesNamed.register (h : e.TypesNamed) {t : TypeRef} (he : e.register t = .ok e') :
    e'.TypesNamed := by
  obtain ⟨types, hr, he⟩ := bind_eq_ok_iff.1 he
  obtain rfl := Except.ok.inj he
  unfold TypeRegistry.register at hr
  split at hr
  · contradiction
  · obtain rfl := Except.ok.inj hr
    intro n u hu
    rw [OrderedMap.get?_insert] at hu
    split at hu
    · rename_i hn
      obtain rfl := Option.some.inj hu
      exact beq_iff_eq.1 hn
    · exact h n u hu

theorem Reachable.typesNamed (h : e.Reachable) : e.TypesNamed := by
  induction h with
  | start limits tracing => exact fun n t ht => absurd ht (by simp)
  | register _ he ih => exact ih.register he
  | bind _ name p w ih => exact ih
  | unbind _ name ih => exact ih

theorem mem_bindingNames : n ∈ e.bindingNames ↔ ∃ v, e.globals.get? n = some v := by
  rw [bindingNames, mem_sortNames, OrderedMap.mem_keys_iff]

theorem mem_typeNames : n ∈ e.types.names ↔ ∃ t, e.types.get? n = some t := by
  rw [TypeRegistry.names, mem_sortNames, OrderedMap.mem_keys_iff]

theorem lookup_of_bound (h : n ∈ e.bindingNames) :
    ∃ v, e.globals.get? n = some v ∧ e.lookup n = v := by
  obtain ⟨v, hv⟩ := mem_bindingNames.1 h
  exact ⟨v, hv, by simp [lookup, hv]⟩

theorem lookup_of_not_bound (h : n ∉ e.bindingNames) : e.lookup n = e.typeNamed n := by
  have hnone : e.globals.get? n = none :=
    Option.eq_none_iff_forall_ne_some.2 fun v hv => h (mem_bindingNames.2 ⟨v, hv⟩)
  simp [lookup, hnone]

theorem typeNamed_of_registered (he : e.Reachable) (h : n ∈ e.types.names) :
    ∃ t, e.types.get? n = some t ∧ t.name = n ∧ e.typeNamed n = .type t := by
  obtain ⟨t, ht⟩ := mem_typeNames.1 h
  exact ⟨t, ht, he.typesNamed n t ht, by simp [typeNamed, ht]⟩

theorem mem_complete_root {w : World} {start : String} : n ∈ e.complete w none start ↔
    start.toList <+: n.toList ∧ (n ∈ e.bindingNames ∨ n ∈ e.types.names) := by
  rw [complete_root, mem_listed, List.mem_append, bindingNames, TypeRegistry.names, mem_sortNames,
    mem_sortNames]

theorem mem_complete_target {w : World} {target : Value} {t : TypeRef}
    (ht : target.memberType? = some t)
    {start : String} : n ∈ e.complete w (some target) start ↔
      start.toList <+: n.toList ∧ (w.HasAccessor target t n true ∨ w.HasOverload target t n) := by
  rw [complete_target e w ht, mem_listed, List.mem_append, World.mem_memberNames,
    World.mem_methodNames]

end Environment

open World Environment in
/-- Completion of a target lists in order, each once, the names that begin with the text and have a
visible accessor that can be read or a visible overload; a name is reported as missing just when it
is neither among all those listed nor that of a visible accessor that can only be written. Without a
target the names that are bound or registered are listed in the same way, and looked up as what is
bound, else as the type. -/
theorem completion_agrees {e : Environment} (he : e.Reachable) (w : World) :
    (∀ kind, w.Built (.builtin kind)) ∧
    (∀ target t, target.memberType? = some t → w.Built t →
      (∀ start, (e.complete w (some target) start).Pairwise (· < ·) ∧
        ∀ n, n ∈ e.complete w (some target) start ↔
          start.toList <+: n.toList ∧ (w.HasAccessor target t n true ∨ w.HasOverload target t n)) ∧
      ∀ call n, w.ReadsPlainly call target t n →
        ((∃ v w', w.getNamed call target n = some (v, w') ∧ v.code = .memberNotFound) ↔
          n ∉ e.complete w (some target) "" ∧ ¬ w.HasAccessor target t n false)) ∧
    (∀ start, (e.complete w none start).Pairwise (· < ·) ∧
      ∀ n, n ∈ e.complete w none start ↔
        start.toList <+: n.toList ∧ (n ∈ e.bindingNames ∨ n ∈ e.types.names)) ∧
    (∀ n ∈ e.bindingNames, ∃ v, e.globals.get? n = some v ∧ e.lookup n = v) ∧
    ∀ n ∈ e.types.names, n ∉ e.bindingNames →
      ∃ t, e.types.get? n = some t ∧ t.name = n ∧ e.lookup n = .type t := by
  refine ⟨w.built_builtin, fun target t ht hb =>
    ⟨fun start => ⟨?_, fun n => mem_complete_target ht⟩,
    fun call n hp => ?_⟩, fun start => ⟨?_, fun n => mem_complete_root⟩, fun n => lookup_of_bound,
    fun n hn hfree => ?_⟩
  · rw [complete_target e w ht]
    exact pairwise_listed _ start
  · rw [missing_iff hb ht hp, mem_complete_target ht]
    simp only [Bool.forall_bool, String.toList_empty, List.nil_prefix, true_and, not_or]
    tauto
  · exact pairwise_listed _ start
  · rw [lookup_of_not_bound hfree]
    exact typeNamed_of_registered he hn

open World Environment in
/-- As a type, a host type with one property and two overloads of one name lists that name and not
the property, which is missing there. At the root the type is listed under its name until a value is
bound to it. -/
theorem completion_agrees_type :
    let make (isStatic : Bool) : Signature :=
      { name := "make", parameters := [], returns := .any, isStatic, body := .free fun _ =>
        .done .null }
    let hp : Accessor :=
      ⟨"hp", .int, false, some (.method "Node" fun _ => .demand (.readSlot "hp" (.int 3)) .done),
        none⟩
    let r : Registration :=
      { name := "Node", properties := [hp], methods := [make false, make true] }
    let t : TypeRef := ⟨.declared 0, "Node"⟩
    let w : World :=
      { next := 1, catalogs := OrderedMap.insert ∅ 0 (r.freeze (.declared 0)),
        statics := OrderedMap.insert ∅ 0 ∅ }
    let e : Environment := { types := OrderedMap.insert ∅ "Node" t }
    let e' := (e.bind "Node" (.bool true) w).2.1
    declare r ∅ default = .ok (t, w) ∧
      "make" ∈ e.complete w (some (.type t)) "ma" ∧ "hp" ∉ e.complete w (some (.type t)) "" ∧
      (∀ call, ∃ v w', w.getNamed call (.type t) "hp" = some (v, w') ∧ v.code = .memberNotFound) ∧
      e.lookup "Node" = .type t ∧ "Node" ∈ e'.complete w none "N" ∧
        e'.lookup "Node" = .bool true := by
  intro make hp r t w e e'
  have hdeclared : declare r ∅ default = .ok (t, w) := rfl
  have hb : w.Built t := built_declare hdeclared
  have he : e.Reachable := .register (t := t) (.start {} false) rfl
  have he' : e'.Reachable := he.bind "Node" (.bool true) w
  obtain ⟨-, htarget, -, -, htype⟩ := completion_agrees he w
  obtain ⟨-, -, hroot, hbound, -⟩ := completion_agrees he' w
  obtain ⟨hlist, hmissing⟩ := htarget (.type t) t rfl hb
  have hmake : w.HasOverload (.type t) t "make" :=
    ⟨make true, List.mem_cons_of_mem (make false) List.mem_cons_self, rfl⟩
  have hhidden (readable : Bool) : ¬ w.HasAccessor (.type t) t "hp" readable := by
    rintro ⟨a, ha, -, -, hv⟩
    obtain rfl := List.mem_singleton.1 ha
    contradiction
  have hnone : ¬ w.HasOverload (.type t) t "hp" := by
    rintro ⟨s, hs, -⟩
    exact absurd hs List.not_mem_nil
  have hplain (call : Caller) : w.ReadsPlainly call (.type t) t "hp" := by
    intro a ha _ b hb p w' hrun
    obtain rfl := List.mem_singleton.1 ha
    obtain rfl := Option.some.inj hb
    obtain ⟨hrefused, -⟩ := Prod.mk.inj (Option.some.inj hrun)
    cases hrefused
  have hunlisted : "hp" ∉ e.complete w (some (.type t)) "" := fun h =>
    (((hlist "").2 "hp").1 h).2.elim (hhidden true) hnone
  have hname : "Node" ∈ e'.bindingNames := mem_bindingNames.2 ⟨.bool true, rfl⟩
  obtain ⟨v, hv, hlookup⟩ := hbound "Node" hname
  obtain rfl := Option.some.inj hv
  have hfree : "Node" ∉ e.bindingNames := by
    intro h
    obtain ⟨v, hv⟩ := mem_bindingNames.1 h
    contradiction
  obtain ⟨u, hu, -, hnode⟩ := htype "Node" (mem_typeNames.2 ⟨t, rfl⟩) hfree
  obtain rfl := Option.some.inj hu
  exact ⟨hdeclared, ((hlist "ma").2 "make").2 ⟨by decide, .inr hmake⟩, hunlisted,
    fun call => (hmissing call "hp" (hplain call)).2 ⟨hunlisted, hhidden false⟩, hnode,
      ((hroot "N").2 "Node").2 ⟨by decide, .inl hname⟩,
    hlookup⟩

end LateBound
