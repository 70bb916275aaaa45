import LateBound.Proofs.ContainerStep
/-! Containers hold what their types declare, in every run of the evaluator. A run makes lists and
dictionaries, reads derived lists, writes by index and calls built-in methods, in any order and with
any values; whatever else happens leaves the containers followed as they are. -/
namespace LateBound

theorem TextMethod.run_cases {m : TextMethod} {t : Text} {args : List Payload} {w w' : World}
    {p : Payload} (h : m.run t args w = .ok (p, w')) :
    (w' = w ∧ p.Scalar) ∨ (∃ s, w.textResult s = (p, w')) ∨
      ∃ xs, (HostKind.sequence .string).write xs w = (p, w') := by
  cases m with
  | toUpper | toLower | trim => exact .inr (.inl ⟨_, Except.ok.inj h⟩)
  | contains | startsWith | endsWith | indexOf =>
    obtain ⟨_, _, h⟩ := bind_eq_ok_iff.1 h
    obtain ⟨rfl, rfl⟩ := Prod.mk.inj (Except.ok.inj h)
    exact .inl ⟨rfl, trivial⟩
  | substring =>
    obtain ⟨_, _, h⟩ := bind_eq_ok_iff.1 h
    obtain ⟨_, _, h⟩ := bind_eq_ok_iff.1 h
    obtain ⟨_, _, h⟩ := bind_eq_ok_iff.1 h
    exact .inr (.inl ⟨_, Except.ok.inj h⟩)
  | split =>
    obtain ⟨_, _, h⟩ := bind_eq_ok_iff.1 h
    exact .inr (.inr ⟨_, Except.ok.inj h⟩)
  | replace =>
    obtain ⟨_, _, h⟩ := bind_eq_ok_iff.1 h
    obtain ⟨_, _, h⟩ := bind_eq_ok_iff.1 h
    exact .inr (.inl ⟨_, Except.ok.inj h⟩)

theorem TextMethod.run_typed {m : TextMethod} {t : Text} {args : List Payload} {w w' : World}
    {p : Payload} (h : m.run t args w = .ok (p, w')) :
    (w.Extends w' ∧ p.Scalar) ∨ ∃ xs, (HostKind.sequence .string).write xs w = (p, w') := by
  rcases run_cases h with ⟨rfl, hp⟩ | ⟨s, hs⟩ | hx
  · exact .inl ⟨.refl w', hp⟩
  · obtain ⟨rfl, rfl⟩ := Prod.mk.inj hs
    exact .inl ⟨w.extends_newText (String.ofList s), trivial⟩
  · exact .inr hx

namespace DictRef

variable {w : World} {d : DictRef}

theorem Admits.inhabits {k : Key} (h : d.Admits k) : k.toPayload.Inhabits d.key := by
  rcases h with h | h
  · rw [h]
    exact Payload.inhabits_any _
  · exact Payload.inhabits_of_naturalType (by rw [Key.naturalType_toPayload, h])

theorem Typed.keys (h : d.Typed w) :
    ∀ p ∈ (w.entries d).keys.map Key.toPayload, p.Inhabits d.key := by
  intro p hp
  obtain ⟨k, hk, rfl⟩ := List.mem_map.1 hp
  obtain ⟨e, he, rfl⟩ := List.mem_map.1 hk
  exact (h e he).1.inhabits

theorem Typed.values (h : d.Typed w) : ∀ p ∈ (w.entries d).values, p.Inhabits d.value := by
  intro p hp
  obtain ⟨e, he, rfl⟩ := List.mem_map.1 hp
  exact (h e he).2

end DictRef

namespace Scene

/-- The value is one of the containers followed. -/
def Follows (s : Scene) : Value → Prop
  | .list l => l ∈ s.lists
  | .dict d => d ∈ s.dicts
  | _ => False

/-- One step of a run: a container that joins those followed, an operation on one of them, or
anything that leaves them alone. -/
inductive Step : Scene → Scene → Prop
  | newList (s : Scene) (element : DeclaredType) :
      Step s ⟨(s.world.newList element []).2, (s.world.newList element []).1 :: s.lists, s.dicts⟩
  | untypedList (s : Scene) (ps : List Payload) :
      Step s ⟨(s.world.newUntypedList ps).2, (s.world.newUntypedList ps).1 :: s.lists, s.dicts⟩
  | hostData (s : Scene) {k : HostKind} {x : k.Carrier} (hx : k.Within x) :
      Step s ⟨(k.write x s.world).2,
        k.lists (k.write x s.world).2.items (k.write x s.world).1 ++ s.lists, s.dicts⟩
  | newDict (s : Scene) (key value : DeclaredType) :
      Step s ⟨(s.world.newDict key value ∅).2, s.lists, (s.world.newDict key value ∅).1 :: s.dicts⟩
  | untypedDict (s : Scene) (pairs : List (Key × Payload)) :
      Step s ⟨(s.world.newUntypedDict pairs).2, s.lists,
        (s.world.newUntypedDict pairs).1 :: s.dicts⟩
  | hostDict (s : Scene) {key value : HostKind} {pairs : List (key.Carrier × value.Carrier)}
      (hp : ∀ e ∈ pairs, value.Within e.2) :
      Step s ⟨(HostKind.newDict key value pairs s.world).2,
        ((HostKind.newDict key value pairs s.world).2.entries
          (HostKind.newDict key value pairs s.world).1).values.flatMap
            (value.lists (HostKind.newDict key value pairs s.world).2.items) ++ s.lists,
        (HostKind.newDict key value pairs s.world).1 :: s.dicts⟩
  | derivedList {s : Scene} {d : DictRef} {call : Caller} {name : String} {l : ListRef} {w : World}
      (hd : d ∈ s.dicts) (hl : s.world.getNamed call (.dict d) name = some (.list l, w)) :
      Step s ⟨w, l :: s.lists, s.dicts⟩
  | textCall {s : Scene} {call : Caller} {w₀ w₁ w : World} {t : Text}
      {name : String} {g : MethodGroup}
      {depth : Nat} {args : List Value} {l : ListRef}
      (hg : w₀.getNamed call (.text t) name = some (.method g, w₁))
      (hv : World.invoke depth (.method g) args s.world = some (.list l, w)) :
      Step s ⟨w, l :: s.lists, s.dicts⟩
  | operation {s : Scene} {target : Value} {w : World} (ht : s.Follows target)
      (hw : target.Step s.world w) : Step s ⟨w, s.lists, s.dicts⟩
  | elsewhere {s : Scene} {w : World} (hn : s.world.next ≤ w.next)
      (hl : ∀ l ∈ s.lists, w.items l = s.world.items l)
      (hd : ∀ d ∈ s.dicts, w.entries d = s.world.entries d) : Step s ⟨w, s.lists, s.dicts⟩

/-- The scenes of runs, which begin in any world with nothing followed. -/
inductive Reachable : Scene → Prop
  | start (w : World) : Reachable ⟨w, [], []⟩
  | step {s s' : Scene} : Reachable s → Step s s' → Reachable s'

theorem Follows.isContainer {s : Scene} {target : Value} (h : s.Follows target) :
    target.IsContainer := by
  cases target with
  | list _ | dict _ => trivial
  | _ => exact absurd h id

theorem Sound.of_write {s : Scene} {w w' : World} (h : Sound ⟨w, s.lists, s.dicts⟩) {target : Value}
    (ht : s.Follows target) (hw : target.TypedWrite w w') : Sound ⟨w', s.lists, s.dicts⟩ := by
  cases target with
  | list l => exact h.of_listWrite ht hw
  | dict d => exact h.of_dictWrite ht hw
  | _ => exact absurd ht id

theorem sound_operation {s : Scene} (h : s.Sound) {target : Value}
    (ht : s.Follows target) {w : World}
    (hw : target.Step s.world w) : Sound ⟨w, s.lists, s.dicts⟩ := by
  obtain ⟨w₁, w₂, hw₁, hwrite, hw₂⟩ := hw.effect ht.isContainer
  have h₁ : Sound ⟨w₁, s.lists, s.dicts⟩ := h.extend hw₁
  rcases hwrite with rfl | hwrite
  · exact h₁.extend hw₂
  · exact (h₁.of_write ht hwrite).extend hw₂

theorem sound_textCall {s : Scene} (h : s.Sound) {call : Caller} {w₀ w₁ w : World} {t : Text}
    {name : String} {g : MethodGroup} {depth : Nat} {args : List Value} {l : ListRef}
    (hg : w₀.getNamed call (.text t) name = some (.method g, w₁))
    (hv : World.invoke depth (.method g) args s.world = some (.list l, w)) :
    Sound ⟨w, l :: s.lists, s.dicts⟩ := by
  have hk : (Value.text t).builtinKind? = some .string := rfl
  obtain ⟨is, rfl⟩ := World.eq_bound_of_getNamed hk hg
  rcases World.invoke_builtin rfl hv with ⟨⟨e, he⟩, _⟩ | ⟨m, ps, n, p, w₁, hn, hm, hw, hb⟩
  · contradiction
  · have hs : Sound ⟨{ s.world with next := n }, s.lists, s.dicts⟩ :=
      h.extend (World.extends_advance hn)
    have hl : (w₁.box p).1 = .list l := (hb.resolve_left nofun).symm
    cases m with
    | string m =>
      rcases TextMethod.run_typed hm with ⟨_, hp⟩ | ⟨xs, hx⟩
      · exact absurd hl (hp.box_ne_list w₁ l)
      · have hw₁ := ((HostKind.sequence .string).write_typed (x := xs) (fun _ _ => trivial) hs).2
        obtain ⟨rfl, rfl⟩ := Prod.mk.inj hx
        obtain rfl := Value.list.inj hl
        refine (hw₁.of_subset fun m hm => ?_).extend hw
        rcases List.mem_cons.1 hm with rfl | hm
        · exact List.mem_append_left _ List.mem_cons_self
        · exact List.mem_append_right _ hm
    | _ => contradiction

theorem sound_derivedList {s : Scene} (h : s.Sound) {d : DictRef} {call : Caller} {name : String}
    {l : ListRef} {w : World} (hd : d ∈ s.dicts)
    (hl : s.world.getNamed call (.dict d) name = some (.list l, w)) :
    Sound ⟨w, l :: s.lists, s.dicts⟩ := by
  have hk : (Value.dict d).builtinKind? = some .dict := rfl
  rcases World.getNamed_builtin hk s.world name with ⟨p, q, w₁, hp, he⟩ | ⟨e, he⟩ | ⟨is, he⟩
  · rw [he] at hl
    obtain ⟨hv, hw⟩ := Prod.mk.inj (Option.some.inj hl)
    rcases BuiltinProperty.read_cases hp with ⟨_, hq⟩ | ⟨d', hd', l', rfl, hn⟩
    · exact absurd hv (hq.box_ne_list w₁ l)
    · obtain rfl := Value.dict.inj hd'
      obtain rfl := Value.list.inj hv
      have hnew : Sound ⟨w₁, l' :: s.lists, s.dicts⟩ := by
        rcases hn with hn | hn
        · have hs := h.newList (h.dicts_typed d hd).keys
          rwa [hn] at hs
        · have hs := h.newList (h.dicts_typed d hd).values
          rwa [hn] at hs
      rw [← hw]
      exact hnew.extend (w₁.extends_box (.list l'))
  · rw [he] at hl
    cases hl
  · rw [he] at hl
    cases hl

/-- Every step keeps the containers well typed. -/
theorem Step.sound {s s' : Scene} (hs : Step s s') (h : s.Sound) : s'.Sound := by
  cases hs with
  | newList element => exact h.newList fun p hp => absurd hp List.not_mem_nil
  | untypedList ps => exact h.newUntypedList ps
  | hostData hx => exact (HostKind.write_typed _ hx h).2
  | newDict key value => exact h.newDict OrderedMap.forall_empty OrderedMap.distinct_empty
  | untypedDict pairs => exact h.newUntypedDict pairs
  | hostDict hp => exact HostKind.newDict_typed hp h
  | derivedList hd hl => exact sound_derivedList h hd hl
  | textCall hg hv => exact sound_textCall h hg hv
  | operation ht hw => exact sound_operation h ht hw
  | elsewhere hn hl hd => exact h.of_kept hn hl hd

theorem Reachable.sound {s : Scene} (h : Reachable s) : s.Sound := by
  induction h with
  | start w => exact sound_nil w
  | step _ hs ih => exact hs.sound ih

/-- In every run, the items of a list inhabit its element type, the values of a dictionary inhabit
its value type, and its keys have its key type unless that is `any`. -/
theorem reachable_typed {s : Scene} (h : s.Reachable) :
    (∀ l ∈ s.lists, ∀ p ∈ s.world.items l, p.Inhabits l.element) ∧
      ∀ d ∈ s.dicts, ∀ e ∈ (s.world.entries d).entries,
        (d.key = .any ∨ e.1.naturalType = d.key) ∧ e.2.Inhabits d.value :=
  ⟨h.sound.lists_typed, h.sound.dicts_typed⟩

/-- A text written to a list of integers is stored as the integer it reads as. -/
theorem reachable_typed_setAt :
    let made := World.newUntypedList [.int 1, .null] default
    let s : Scene := ⟨(made.2.setAt (.list made.1) (.int 1) (.text ⟨9, " 7"⟩)).2, [made.1], []⟩
    s.Reachable ∧ s.world.items made.1 = [.int 1, .int 7] ∧
      ∀ p ∈ s.world.items made.1, p.Inhabits .int := by
  intro made s
  have hmade : Reachable ⟨made.2, [made.1], []⟩ :=
    .step (.start default) (.untypedList ⟨default, [], []⟩ [.int 1, .null])
  have hl : Follows ⟨made.2, [made.1], []⟩ (.list made.1) := List.mem_cons_self
  have hr : s.Reachable := .step hmade (.operation hl (.setAt (.int 1) (.text ⟨9, " 7"⟩)))
  exact ⟨hr, by decide, (reachable_typed hr).1 made.1 List.mem_cons_self⟩

end Scene

end LateBound
