import LateBound.Overload
/-! What conversion yields: a payload that inhabits the declared type. Whether a payload converts,
and at what cost, does not depend on which numbers are still unused. -/
namespace LateBound

namespace Payload

open Conversion

/-- Null inhabits every type and everything inhabits `any`; a collection inhabits a collection type
whose components are its own or `any`. -/
def Inhabits (p : Payload) (t : DeclaredType) : Prop :=
  p = .null ∨ t = .any ∨ p.naturalType = t ∨ (∃ l, p = .list l ∧ t = .list .any) ∨
    ∃ d key value, p = .dict d ∧ t = .dict key value ∧
      (d.key = key ∨ key = .any) ∧ (d.value = value ∨ value = .any)

theorem inhabits_null (t : DeclaredType) : Inhabits .null t := Or.inl rfl

theorem inhabits_any (p : Payload) : p.Inhabits .any := Or.inr (Or.inl rfl)

theorem inhabits_of_naturalType {p : Payload} {t : DeclaredType} (h : p.naturalType = t) :
    p.Inhabits t := Or.inr (Or.inr (Or.inl h))

theorem inhabits_list_any (l : ListRef) : Inhabits (.list l) (.list .any) :=
  Or.inr (Or.inr (Or.inr (Or.inl ⟨l, rfl, rfl⟩)))

theorem inhabits_dict {d : DictRef} {key value : DeclaredType} (hk : d.key = key ∨ key = .any)
    (hv : d.value = value ∨ value = .any) : Inhabits (.dict d) (.dict key value) :=
  Or.inr (Or.inr (Or.inr (Or.inr ⟨d, key, value, rfl, rfl, hk, hv⟩)))

theorem fits_iff {actual declared : DeclaredType} :
    fits actual declared = true ↔ actual = declared ∨ declared = .any := by
  simp [fits]

/-- How a conversion ends: with the payload as it is, which has the type or is widened to it, or
with a new payload that has the type. Only a payload that has the type already is free. -/
inductive Converts (next : Nat) (p : Payload) (t : DeclaredType) (c : Conversion) : Prop
  | kept (hp : p ≠ .null) (ht : p.naturalType = t) (hc : exact next p = some c)
  | widened (hp : p.Inhabits t) (hnull : p = .null → t.isNullable = true)
      (hc : widening next p = some c)
  | made (ht : c.payload.naturalType = t) (hany : t ≠ .any) (hcost : exactCost < c.cost ∧
        c.cost ≤ writingCost)
      (hn : next ≤ c.next)

theorem Converts.of_eq {next n : Nat} {cost : UInt32} {p q : Payload}
    {t : DeclaredType} {c : Conversion}
    (h : some ⟨q, cost, n⟩ = some c) (ht : q.naturalType = t) (hany : t ≠ .any)
    (hcost : exactCost < cost ∧ cost ≤ writingCost) (hn : next ≤ n) : Converts next p t c := by
  obtain rfl := Option.some.inj h
  exact .made ht hany hcost hn

theorem convertPlain_list {next : Nat} {l : ListRef} {element : DeclaredType} {c : Conversion}
    (h : (list l).convertPlain next (.list element) = some c) :
    Converts next (list l) (.list element) c := by
  simp only [convertPlain] at h
  split at h
  · rename_i he
    exact .kept nofun (by simp_all [naturalType]) h
  · rw [Option.ite_none_right_eq_some, beq_iff_eq] at h
    obtain ⟨rfl, h⟩ := h
    exact .widened (inhabits_list_any l) nofun h

theorem convertPlain_dict {next : Nat} {d : DictRef} {key value : DeclaredType} {c : Conversion}
    (h : (dict d).convertPlain next (.dict key value) = some c) :
    Converts next (dict d) (.dict key value) c := by
  simp only [convertPlain] at h
  split at h
  · rename_i he
    exact .kept nofun (by simp_all [naturalType]) h
  · simp only [Option.ite_none_right_eq_some, Bool.and_eq_true, fits_iff] at h
    exact .widened (inhabits_dict h.1.1 h.1.2) nofun h.2

theorem convertPlain_object {next : Nat} {o : ObjectRef} {name : String} {c : Conversion}
    (h : (object o).convertPlain next (.object name) = some c) :
    Converts next (object o) (.object name) c := by
  simp only [convertPlain, Option.ite_none_right_eq_some, beq_iff_eq] at h
  exact .kept nofun (by simp [naturalType, h.1]) h.2

theorem convertPlain_converts {next : Nat} {p : Payload} {t : DeclaredType} {c : Conversion}
    (h : p.convertPlain next t = some c) : Converts next p t c := by
  cases p with
  | boxed v => contradiction
  | null =>
    obtain ⟨ht, h⟩ := Option.ite_none_right_eq_some.1 h
    exact .widened (inhabits_null t) (fun _ => ht) h
  | bool b =>
    cases t with
    | any => exact .widened (inhabits_any _) nofun h
    | bool => exact .kept nofun rfl h
    | string => exact .of_eq h rfl nofun (by decide) (Nat.le_succ _)
    | _ => contradiction
  | int n =>
    cases t with
    | any => exact .widened (inhabits_any _) nofun h
    | int => exact .kept nofun rfl h
    | float => exact .of_eq h rfl nofun (by decide) (Nat.le_refl _)
    | string => exact .of_eq h rfl nofun (by decide) (Nat.le_succ _)
    | _ => contradiction
  | float x =>
    cases t with
    | any => exact .widened (inhabits_any _) nofun h
    | float => exact .kept nofun rfl h
    | int =>
      obtain ⟨n, -, h⟩ := Option.bind_eq_some_iff.1 h
      exact .of_eq h rfl nofun (by decide) (Nat.le_refl _)
    | string => exact .of_eq h rfl nofun (by decide) (Nat.le_succ _)
    | _ => contradiction
  | text s =>
    cases t with
    | any => exact .widened (inhabits_any _) nofun h
    | string => exact .kept nofun rfl h
    | bool | int | float | char =>
      obtain ⟨a, -, h⟩ := Option.bind_eq_some_iff.1 h
      exact .of_eq h rfl nofun (by decide) (Nat.le_refl _)
    | _ => contradiction
  | char a =>
    cases t with
    | any => exact .widened (inhabits_any _) nofun h
    | char => exact .kept nofun rfl h
    | string => exact .of_eq h rfl nofun (by decide) (Nat.le_succ _)
    | _ => contradiction
  | list l =>
    cases t with
    | any => exact .widened (inhabits_any _) nofun h
    | list element => exact convertPlain_list h
    | _ => contradiction
  | dict d =>
    cases t with
    | any => exact .widened (inhabits_any _) nofun h
    | dict key value => exact convertPlain_dict h
    | _ => contradiction
  | object o =>
    cases t with
    | any => exact .widened (inhabits_any _) nofun h
    | object name => exact convertPlain_object h
    | _ => contradiction
  | type r =>
    cases t with
    | any => exact .widened (inhabits_any _) nofun h
    | type => exact .kept nofun rfl h
    | _ => contradiction
  | callable f =>
    cases t with
    | any => exact .widened (inhabits_any _) nofun h
    | callable => exact .kept nofun rfl h
    | _ => contradiction

theorem convertPlain_inhabits {next : Nat} {p : Payload} {t : DeclaredType} {c : Conversion}
    (h : p.convertPlain next t = some c) : c.payload.Inhabits t := by
  cases convertPlain_converts h with
  | kept _ ht hc =>
    obtain rfl := Option.some.inj hc
    exact inhabits_of_naturalType ht
  | widened hp _ hc =>
    obtain rfl := Option.some.inj hc
    exact hp
  | made ht _ _ _ => exact inhabits_of_naturalType ht

theorem convertPlain_next_le {next : Nat} {p : Payload} {t : DeclaredType} {c : Conversion}
    (h : p.convertPlain next t = some c) : next ≤ c.next := by
  cases convertPlain_converts h with
  | kept _ _ hc | widened _ _ hc =>
    obtain rfl := Option.some.inj hc
    exact Nat.le_refl _
  | made _ _ _ hn => exact hn

theorem convertPlain_cost_le {next : Nat} {p : Payload} {t : DeclaredType} {c : Conversion}
    (h : p.convertPlain next t = some c) : c.cost ≤ writingCost := by
  cases convertPlain_converts h with
  | kept _ _ hc =>
    obtain rfl := Option.some.inj hc
    exact (by decide : exactCost ≤ writingCost)
  | widened _ _ hc =>
    obtain rfl := Option.some.inj hc
    exact (by decide : wideningCost ≤ writingCost)
  | made _ _ hcost _ => exact hcost.2

end Payload

namespace Conversion

/-- A reading of conversions that cannot tell which unused numbers they took: not the next one, not
that of a new text, not that of a new function for a method group. -/
structure Blind {α : Type} (f : Conversion → α) : Prop where
  next (p : Payload) (cost : UInt32) (n m : Nat) : f ⟨p, cost, n⟩ = f ⟨p, cost, m⟩
  text (i j : Nat) (s : String) (cost : UInt32) (n : Nat) :
    f ⟨.text ⟨i, s⟩, cost, n⟩ = f ⟨.text ⟨j, s⟩, cost, n⟩
  function (i j : Nat) (g : MethodGroup) (cost : UInt32) (n : Nat) :
    f ⟨.callable (.forwarding i g), cost, n⟩ = f ⟨.callable (.forwarding j g), cost, n⟩

theorem blind_cost : Blind Conversion.cost := ⟨fun _ _ _ _ => rfl, fun _ _ _ _ _ =>
    rfl, fun _ _ _ _ _ => rfl⟩

section Blind

variable {α : Type} {f : Conversion → α}

theorem Blind.map_exact (hf : Blind f) (n m : Nat) (p : Payload) : (exact n p).map
    f = (exact m p).map f :=
  congrArg some (hf.next p exactCost n m)

theorem Blind.map_widening (hf : Blind f) (n m : Nat) (p : Payload) :
    (widening n p).map f = (widening m p).map f := congrArg some (hf.next p wideningCost n m)

theorem Blind.map_new (hf : Blind f) (n m : Nat) (cost : UInt32) (s : String) :
    (some (⟨.text ⟨n, s⟩, cost, n + 1⟩ : Conversion)).map f =
      (some (⟨.text ⟨m, s⟩, cost, m + 1⟩ : Conversion)).map f :=
  congrArg some ((hf.next _ cost _ _).trans (hf.text n m s cost _))

theorem Blind.map_bind (hf : Blind f) {β : Type} (o : Option β) (q : β → Payload)
    (cost : UInt32) (n m : Nat) :
    (o.bind fun b => some (⟨q b, cost, n⟩ : Conversion)).map f =
      (o.bind fun b => some (⟨q b, cost, m⟩ : Conversion)).map f := by
  cases o with
  | none => rfl
  | some b => exact congrArg some (hf.next (q b) cost n m)

end Blind

end Conversion

namespace Payload

open Conversion

variable {α : Type} {f : Conversion → α}

theorem map_convertPlain (hf : Blind f) (n m : Nat) (p : Payload) (t : DeclaredType) :
    (p.convertPlain n t).map f = (p.convertPlain m t).map f := by
  cases p with
  | boxed v => rfl
  | null =>
    simp only [convertPlain]
    split
    · exact hf.map_widening n m _
    · rfl
  | bool b =>
    cases t with
    | any => exact hf.map_widening n m _
    | bool => exact hf.map_exact n m _
    | string => exact hf.map_new n m writingCost _
    | _ => rfl
  | int k =>
    cases t with
    | any => exact hf.map_widening n m _
    | int => exact hf.map_exact n m _
    | float => exact hf.map_widening n m _
    | string => exact hf.map_new n m writingCost _
    | _ => rfl
  | float x =>
    cases t with
    | any => exact hf.map_widening n m _
    | float => exact hf.map_exact n m _
    | int => exact hf.map_bind _ Payload.int lossyCost n m
    | string => exact hf.map_new n m writingCost _
    | _ => rfl
  | text s =>
    cases t with
    | any => exact hf.map_widening n m _
    | string => exact hf.map_exact n m _
    | char => exact hf.map_bind _ Payload.char wideningCost n m
    | bool => exact hf.map_bind _ Payload.bool lossyCost n m
    | int => exact hf.map_bind _ Payload.int lossyCost n m
    | float => exact hf.map_bind _ Payload.float lossyCost n m
    | _ => rfl
  | char c =>
    cases t with
    | any => exact hf.map_widening n m _
    | char => exact hf.map_exact n m _
    | string => exact hf.map_new n m wideningCost _
    | _ => rfl
  | list l =>
    cases t with
    | any => exact hf.map_widening n m _
    | list element =>
      simp only [convertPlain]
      split
      · exact hf.map_exact n m _
      · split
        · exact hf.map_widening n m _
        · rfl
    | _ => rfl
  | dict d =>
    cases t with
    | any => exact hf.map_widening n m _
    | dict key value =>
      simp only [convertPlain]
      split
      · exact hf.map_exact n m _
      · split
        · exact hf.map_widening n m _
        · rfl
    | _ => rfl
  | object o =>
    cases t with
    | any => exact hf.map_widening n m _
    | object name =>
      simp only [convertPlain]
      split
      · exact hf.map_exact n m _
      · rfl
    | _ => rfl
  | type r =>
    cases t with
    | any => exact hf.map_widening n m _
    | type => exact hf.map_exact n m _
    | _ => rfl
  | callable g =>
    cases t with
    | any => exact hf.map_widening n m _
    | callable => exact hf.map_exact n m _
    | _ => rfl

end Payload

namespace Value

theorem payload_ne_boxed (next : Nat) (v u : Value) : (v.payload next).1 ≠ .boxed u := by
  cases v with
  | number n => cases n <;> simp [payload, Payload.number]
  | _ => simp [payload]

theorem payload_next_le (next : Nat) (v : Value) : next ≤ (v.payload next).2 := by
  cases v <;> simp [payload]

theorem payloads_next_le (next : Nat) (vs : List Value) : next ≤ (payloads next vs).2 := by
  induction vs generalizing next with
  | nil => exact Nat.le_refl _
  | cons v vs ih => exact Nat.le_trans (payload_next_le next v) (ih _)

theorem ofPayload_next_le (next : Nat) (p : Payload) : next ≤ (ofPayload next p).2 := by
  cases p <;> simp [ofPayload]

theorem ofPayloads_next_le (next : Nat) (ps : List Payload) : next ≤ (ofPayloads next ps).2 := by
  induction ps generalizing next with
  | nil => exact Nat.le_refl _
  | cons p ps ih => exact Nat.le_trans (ofPayload_next_le next p) (ih _)

theorem map_convertPlain_payload {α : Type} {f : Conversion → α}
    (hf : Conversion.Blind f) (n m : Nat)
    (v : Value) (t : DeclaredType) :
    ((v.payload n).1.convertPlain m t).map f = ((v.payload m).1.convertPlain m t).map f := by
  cases v with
  | method g =>
    cases t with
    | any => exact congrArg some (hf.function n m g Conversion.wideningCost m)
    | callable => exact congrArg some (hf.function n m g Conversion.exactCost m)
    | _ => rfl
  | _ => rfl

end Value

namespace Payload

theorem convert_boxed (next : Nat) (v : Value) (t : DeclaredType) :
    (boxed v).convert next t = (v.payload next).1.convertPlain (v.payload next).2 t := rfl

theorem convert_of_ne_boxed {p : Payload} (hp : ∀ v, p ≠ .boxed v) (next : Nat) (t : DeclaredType) :
    p.convert next t = p.convertPlain next t := by
  cases p with
  | boxed v => exact absurd rfl (hp v)
  | _ => rfl

theorem convert_any {p : Payload} (hp : ∀ v, p ≠ .boxed v) (next : Nat) :
    p.convert next .any = some ⟨p, Conversion.wideningCost, next⟩ := by
  cases p with
  | boxed v => exact absurd rfl (hp v)
  | _ => rfl

/-- Conversion is that of the payload itself, or of the payload in its box. -/
theorem convert_eq_convertPlain (next : Nat) (p : Payload) (t : DeclaredType) :
    ∃ (q : Payload) (n : Nat), next ≤ n ∧ p.convert next t = q.convertPlain n t := by
  by_cases hp : ∃ v, p = .boxed v
  · obtain ⟨v, rfl⟩ := hp
    exact ⟨_, _, v.payload_next_le next, convert_boxed next v t⟩
  · exact ⟨p, next, Nat.le_refl next, convert_of_ne_boxed (not_exists.1 hp) next t⟩

theorem convert_inhabits {next : Nat} {p : Payload} {t : DeclaredType} {c : Conversion}
    (h : p.convert next t = some c) : c.payload.Inhabits t := by
  obtain ⟨q, n, _, he⟩ := convert_eq_convertPlain next p t
  exact convertPlain_inhabits (he ▸ h)

theorem convert_next_le {next : Nat} {p : Payload} {t : DeclaredType} {c : Conversion}
    (h : p.convert next t = some c) : next ≤ c.next := by
  obtain ⟨q, n, hn, he⟩ := convert_eq_convertPlain next p t
  exact Nat.le_trans hn (convertPlain_next_le (he ▸ h))

theorem convert_cost_le {next : Nat} {p : Payload} {t : DeclaredType} {c : Conversion}
    (h : p.convert next t = some c) : c.cost ≤ Conversion.writingCost := by
  obtain ⟨q, n, -, he⟩ := convert_eq_convertPlain next p t
  exact convertPlain_cost_le (he ▸ h)

/-- What a conversion comes to does not depend on which numbers are still unused, but for the
numbers it takes. -/
theorem map_convert {α : Type} {f : Conversion → α} (hf : Conversion.Blind f)
    (n m : Nat) (p : Payload)
    (t : DeclaredType) : (p.convert n t).map f = (p.convert m t).map f := by
  cases p with
  | boxed v =>
    calc ((v.payload n).1.convertPlain (v.payload n).2 t).map f
      _ = ((v.payload n).1.convertPlain m t).map f := map_convertPlain hf _ _ _ t
      _ = ((v.payload m).1.convertPlain m t).map f := v.map_convertPlain_payload hf n m t
      _ = ((v.payload m).1.convertPlain (v.payload m).2 t).map f := map_convertPlain hf _ _ _ t
  | _ =>
    rw [convert_of_ne_boxed (by simp), convert_of_ne_boxed (by simp)]
    exact map_convertPlain hf n m _ t

def cost? (p : Payload) (t : DeclaredType) : Option UInt32 := (p.convert 0 t).map (·.cost)

theorem map_cost_convert (next : Nat) (p : Payload) (t : DeclaredType) :
    (p.convert next t).map (·.cost) = p.cost? t := map_convert Conversion.blind_cost next 0 p t

end Payload

namespace Value

theorem coerce_eq_convert (next : Nat) (v : Value) (t : DeclaredType) :
    v.coerce next t = (Payload.boxed v).convert next t :=
  Payload.convert_of_ne_boxed (v.payload_ne_boxed next) _ t

theorem map_coerce {α : Type} {f : Conversion → α} (hf : Conversion.Blind f) (n m : Nat) (v : Value)
    (t : DeclaredType) : (v.coerce n t).map f = (v.coerce m t).map f := by
  rw [coerce_eq_convert, coerce_eq_convert]
  exact Payload.map_convert hf n m _ t

theorem isSome_coerce (n m : Nat) (v : Value) (t : DeclaredType) :
    (v.coerce n t).isSome = (v.coerce m t).isSome := by
  simpa using congrArg Option.isSome (v.map_coerce Conversion.blind_cost n m t)

theorem coerce_inhabits {next : Nat} {v : Value} {t : DeclaredType} {c : Conversion}
    (h : v.coerce next t = some c) : c.payload.Inhabits t := Payload.convert_inhabits h

theorem coerce_next_le {next : Nat} {v : Value} {t : DeclaredType} {c : Conversion}
    (h : v.coerce next t = some c) : next ≤ c.next :=
  Nat.le_trans (v.payload_next_le next) (Payload.convert_next_le h)

end Value

end LateBound
