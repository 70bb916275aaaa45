import Mathlib.Logic.ExistsUnique
import LateBound.Proofs.Scene
/-! Payloads that are of a declared type as they stand. Conversion ends with one and leaves it as it
is, so converting twice is converting once. A payload has one type at no cost, which is its natural
type; every other type that takes it as it is widens it. -/
namespace LateBound

namespace Payload

open Conversion

/-- The payload is not boxed and inhabits the type, as null only where the type takes null. -/
structure Settled (p : Payload) (t : DeclaredType) : Prop where
  bare : ∀ v, p ≠ .boxed v
  inhabits : p.Inhabits t
  nullable : p = .null → t.isNullable = true

/-- What it costs to leave a payload as it is. -/
def standingCost (p : Payload) (t : DeclaredType) : UInt32 :=
  if p ≠ .null ∧ p.naturalType = t then exactCost else wideningCost

variable {next : Nat} {p : Payload} {t : DeclaredType} {c : Conversion}

theorem standingCost_of_naturalType (hp : p ≠ .null) : p.standingCost p.naturalType = exactCost :=
  if_pos ⟨hp, rfl⟩

theorem standingCost_of_ne (h : p.naturalType ≠ t) : p.standingCost t = wideningCost :=
  if_neg fun ht => h ht.2

theorem standingCost_cases (p : Payload) (t : DeclaredType) :
    p.standingCost t = exactCost ∨ p.standingCost t = wideningCost := by
  unfold standingCost
  split
  · exact .inl rfl
  · exact .inr rfl

theorem standingCost_le (p : Payload) (t : DeclaredType) : p.standingCost t ≤ wideningCost := by
  rcases p.standingCost_cases t with h | h <;> rw [h]
  · decide
  · exact UInt32.le_refl _

theorem naturalType_ne_any (hb : ∀ v, p ≠ .boxed v) (hp : p ≠ .null) : p.naturalType ≠ .any := by
  cases p with
  | null => contradiction
  | boxed v => exact absurd rfl (hb v)
  | _ => nofun

theorem naturalType_ne_void (p : Payload) : p.naturalType ≠ .void := by
  cases p <;> nofun

theorem convert_naturalType (hb : ∀ v, p ≠ .boxed v) (hp : p ≠ .null) (next : Nat) :
    p.convert next p.naturalType = exact next p := by
  cases p with
  | null => contradiction
  | boxed v => exact absurd rfl (hb v)
  | list l | dict d | object o => simp [naturalType, convert, convertPlain]
  | _ => rfl

theorem Settled.convert_eq (h : p.Settled t) (next : Nat) :
    p.convert next t = some ⟨p, p.standingCost t, next⟩ := by
  by_cases hp : p = .null
  · subst hp
    exact if_pos (h.nullable rfl)
  · by_cases ht : p.naturalType = t
    · subst ht
      rw [standingCost_of_naturalType hp]
      exact convert_naturalType h.bare hp next
    · rw [standingCost_of_ne ht]
      rcases h.inhabits with hnull | rfl | hn | ⟨l, rfl, rfl⟩ | ⟨d, key, value, rfl, rfl, hkey,
        hvalue⟩
      · exact absurd hnull hp
      · exact convert_any h.bare next
      · exact absurd hn ht
      · have hne : l.element ≠ .any := fun he => ht (by rw [naturalType, he])
        simp [convert, convertPlain, hne, widening]
      · have hne : ¬ (d.key = key ∧ d.value = value) := fun he =>
          ht (by rw [naturalType, he.1, he.2])
        have hfits : fits d.key key = true ∧ fits d.value value = true :=
          ⟨fits_iff.2 hkey, fits_iff.2 hvalue⟩
        simp [convert, convertPlain, hne, hfits, widening]

theorem settled_of_naturalType (ht : p.naturalType = t) (hany : t ≠ .any) : p.Settled t where
  bare v hv := hany (by rw [← ht, hv, naturalType])
  inhabits := inhabits_of_naturalType ht
  nullable hnull := absurd (by rw [← ht, hnull, naturalType]) hany

theorem settled_null (ht : t.isNullable = true) : Settled .null t :=
  ⟨nofun, inhabits_null t, fun _ => ht⟩

theorem settled_list {l : ListRef} {element : DeclaredType}
    (h : l.element = element ∨ element = .any) :
    (list l).Settled (.list element) where
  bare := nofun
  inhabits := by
    rcases h with rfl | rfl
    · exact inhabits_of_naturalType rfl
    · exact inhabits_list_any l
  nullable := nofun

theorem settled_dict {d : DictRef} {key value : DeclaredType} (hk : d.key = key ∨ key = .any)
    (hv : d.value = value ∨ value = .any) : (dict d).Settled (.dict key value) :=
  ⟨nofun, inhabits_dict hk hv, nofun⟩

/-- What a conversion ends with is settled in the type. -/
theorem Converts.settled (hb : ∀ v, p ≠ .boxed v) (h : Converts next p t c) :
    c.payload.Settled t := by
  cases h with
  | kept hp ht hc =>
    obtain rfl := Option.some.inj hc
    exact settled_of_naturalType ht (ht ▸ naturalType_ne_any hb hp)
  | widened hp hnull hc =>
    obtain rfl := Option.some.inj hc
    exact ⟨hb, hp, hnull⟩
  | made ht hany _ _ => exact settled_of_naturalType ht hany

theorem Converts.standingCost_le (h : Converts next p t c) : c.payload.standingCost t ≤ c.cost := by
  cases h with
  | kept hp ht hc =>
    obtain rfl := Option.some.inj hc
    subst ht
    rw [standingCost_of_naturalType hp]
    exact UInt32.le_refl _
  | widened _ _ hc =>
    obtain rfl := Option.some.inj hc
    exact p.standingCost_le t
  | made _ _ hcost _ =>
    have hpos : wideningCost ≤ c.cost := UInt32.le_iff_toNat_le.2 (UInt32.lt_iff_toNat_lt.1 hcost.1)
    exact UInt32.le_trans (c.payload.standingCost_le t) hpos

theorem exists_converts (h : p.convert next t = some c) :
    ∃ q n, (∀ v, q ≠ .boxed v) ∧ Converts n q t c ∧ ((∀ v, p ≠ .boxed v) → q = p ∧ n = next) := by
  by_cases hp : ∃ v, p = .boxed v
  · obtain ⟨v, rfl⟩ := hp
    exact ⟨_, _, v.payload_ne_boxed next, convertPlain_converts h, fun hb => absurd rfl (hb v)⟩
  · have hb : ∀ v, p ≠ .boxed v := not_exists.1 hp
    rw [convert_of_ne_boxed hb] at h
    exact ⟨p, next, hb, convertPlain_converts h, fun _ => ⟨rfl, rfl⟩⟩

theorem settled_of_convert (h : p.convert next t = some c) : c.payload.Settled t := by
  obtain ⟨q, n, hq, hc, -⟩ := exists_converts h
  exact hc.settled hq

theorem payload_of_convertPlain_null (h : null.convertPlain next t = some c) :
    c.payload = .null := by
  obtain ⟨-, h⟩ := Option.ite_none_right_eq_some.1 h
  obtain rfl := Option.some.inj h
  rfl

/-- Conversion gives a payload of the type, in no box. It converts to the type again as it is,
wherever the numbers stand by then, at no more than the cost of the first time and of widening. -/
theorem convert_again (h : p.convert next t = some c) :
    (∀ v, c.payload ≠ .boxed v) ∧ c.payload.Inhabits t ∧ (c.payload = .null → t.isNullable = true) ∧
      ∃ cost, cost ≤ c.cost ∧ cost ≤ wideningCost ∧
        ∀ next, c.payload.convert next t = some ⟨c.payload, cost, next⟩ := by
  obtain ⟨q, n, hq, hc, -⟩ := exists_converts h
  have hsettled : c.payload.Settled t := hc.settled hq
  exact ⟨hsettled.bare, hsettled.inhabits, hsettled.nullable, c.payload.standingCost t,
    hc.standingCost_le, c.payload.standingCost_le t, hsettled.convert_eq⟩

/-- A boxed text is read as an integer, which is then one at no cost; a boxed list is
widened twice. -/
theorem convert_again_boxed :
    (boxed (.text ⟨9, " 7"⟩)).convert 10 .int = some ⟨.int 7, lossyCost, 10⟩ ∧
      (boxed (.list ⟨4, .int⟩)).convert 10 (.list .any) = some ⟨.list ⟨4, .int⟩, wideningCost, 10⟩ ∧
      (∃ cost, cost ≤ wideningCost ∧ ∀ next, (int 7).convert next .int =
        some ⟨.int 7, cost, next⟩) ∧
      ∃ cost, cost ≤ wideningCost ∧
        ∀ next, (list ⟨4, .int⟩).convert next (.list .any) =
          some ⟨.list ⟨4, .int⟩, cost, next⟩ := by
  have hread : (boxed (.text ⟨9, " 7"⟩)).convert 10 .int = some ⟨.int 7, lossyCost, 10⟩ := rfl
  have hlist : (boxed (.list ⟨4, .int⟩)).convert 10 (.list .any) =
      some ⟨.list ⟨4, .int⟩, wideningCost, 10⟩ := rfl
  obtain ⟨-, -, -, k, -, hk, hagain⟩ := convert_again hread
  obtain ⟨-, -, -, m, -, hm, hwidened⟩ := convert_again hlist
  exact ⟨hread, hlist, ⟨k, hk, hagain⟩, m, hm, hwidened⟩

theorem naturalType_of_cost (h : p.convert next t = some c) (hcost : c.cost = exactCost) :
    ∃ q n, (∀ v, q ≠ .boxed v) ∧ q ≠ .null ∧ q.naturalType = t ∧ c = ⟨q, exactCost, n⟩ ∧
      ((∀ v, p ≠ .boxed v) → q = p ∧ n = next) := by
  obtain ⟨q, n, hq, hc, hplain⟩ := exists_converts h
  cases hc with
  | kept hp ht hc => exact ⟨q, n, hq, hp, ht, (Option.some.inj hc).symm, hplain⟩
  | widened _ _ hc =>
    obtain rfl := Option.some.inj hc
    exact absurd hcost (by decide : wideningCost ≠ exactCost)
  | made _ _ hpos _ => exact absurd hcost (UInt32.ne_of_lt hpos.1).symm

theorem convert_exact_iff (hb : ∀ v, p ≠ .boxed v) :
    p.convert next t = some c ∧ c.cost = exactCost ↔
    p ≠ .null ∧ t = p.naturalType ∧ c = ⟨p, exactCost, next⟩ := by
  constructor
  · rintro ⟨h, hcost⟩
    obtain ⟨q, n, -, hp, ht, hc, hplain⟩ := naturalType_of_cost h hcost
    obtain ⟨rfl, rfl⟩ := hplain hb
    exact ⟨hp, ht.symm, hc⟩
  · rintro ⟨hp, rfl, rfl⟩
    exact ⟨convert_naturalType hb hp next, rfl⟩

theorem cost?_exact_iff (hb : ∀ v, p ≠ .boxed v) (hp : p ≠ .null) :
    p.cost? t = some exactCost ↔ t = p.naturalType := by
  rw [cost?, Option.map_eq_some_iff]
  constructor
  · rintro ⟨c, hc⟩
    exact ((convert_exact_iff hb).1 hc).2.1
  · rintro rfl
    exact ⟨_, convert_naturalType hb hp 0, rfl⟩

theorem naturalType_of_commonType {ps : List Payload} (ht : commonType ps ≠ .any) (hm : p ∈ ps)
    (hp : p ≠ .null) : p.naturalType = commonType ps := by
  have hnull : p.isNull = false := by cases p <;> simp_all [isNull]
  have hmem : p.naturalType ∈ (ps.filter (!·.isNull)).map naturalType :=
    List.mem_map_of_mem (List.mem_filter.2 ⟨hm, by simp [hnull]⟩)
  exact (DeclaredType.common_of_mem hmem).resolve_left ht

/-- A payload in no box converts at no cost exactly when it is not null and the type is its natural
type, and it is left as it is; so it has one such type. No payload has `any` or `void` at no cost,
and the items of a list have the element type inferred for it at no cost, unless that is `any`. -/
theorem exact_iff_naturalType :
    (∀ (p : Payload) (t : DeclaredType) (next : Nat) (c : Conversion), (∀ v, p ≠ .boxed v) →
      (p.convert next t = some c ∧ c.cost = exactCost ↔
        p ≠ .null ∧ t = p.naturalType ∧ c = ⟨p, exactCost, next⟩)) ∧
    (∀ p : Payload, (∀ v, p ≠ .boxed v) → p ≠ .null → ∃! t, p.cost? t = some exactCost) ∧
    (∀ (p : Payload) (t : DeclaredType) (next : Nat) (c : Conversion), p.convert next t = some c →
      c.cost = exactCost → t ≠ .any ∧ t ≠ .void) ∧
    ∀ (w : World) (ps : List Payload),
      let l := (w.newUntypedList ps).1
      l.element ≠ .any → ∀ p ∈ (w.newUntypedList ps).2.items l, p ≠ .null →
        ∀ next, p.convert next l.element = some ⟨p, exactCost, next⟩ := by
  refine ⟨fun p t next c hb => convert_exact_iff hb, fun p hb hp => ?_, fun p t next c h hcost =>
    ?_, ?_⟩
  · exact ⟨p.naturalType, (cost?_exact_iff hb hp).2 rfl, fun t => (cost?_exact_iff hb hp).1⟩
  · obtain ⟨q, n, hb, hq, rfl, -⟩ := naturalType_of_cost h hcost
    exact ⟨naturalType_ne_any hb hq, q.naturalType_ne_void⟩
  · intro w ps l hl p hm hp next
    have hitem : p ∈ ps := by rwa [← w.items_newList (commonType ps) ps]
    have ht : p.naturalType = l.element := naturalType_of_commonType hl hitem hp
    have hb : ∀ v, p ≠ .boxed v := by
      rintro v rfl
      exact hl ht.symm
    rw [← ht]
    exact convert_naturalType hb hp next

/-- Lists of integers in a list, one of them missing: each is at no cost what the list was inferred
to hold, and of the other types none is, not even that of a list of anything. -/
theorem exact_iff_naturalType_nested :
    let l : Payload := .list ⟨3, .int⟩
    let outer := (World.newUntypedList [l, .null] default).1
    outer.element = .list .int ∧
      (∀ next, l.convert next outer.element = some ⟨l, exactCost, next⟩) ∧
      l.cost? (.list .any) = some wideningCost ∧ ∃! t, l.cost? t = some exactCost := by
  intro l outer
  obtain ⟨-, hone, -, hitems⟩ := exact_iff_naturalType
  have hl : ∀ v, l ≠ .boxed v := nofun
  exact ⟨rfl, hitems default [l, .null] nofun l List.mem_cons_self nofun, rfl, hone l hl nofun⟩

end Payload

end LateBound
