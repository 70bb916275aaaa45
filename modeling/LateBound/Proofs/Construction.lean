import LateBound.Proofs.Completion
import LateBound.Proofs.Dispatch
/-! Construction. Invoking a type runs the best of its constructors, or its default constructor when
none applies and there are no arguments. Whatever runs is code on a new instance of that very type,
so it ends with an instance of the type or with an error. -/
namespace LateBound

/-- The signature runs code on a new instance of the type, and is named after the type. -/
structure Signature.Constructs (s : Signature) (t : TypeRef) : Prop where
  name_eq : s.name = t.name ++ ".new"
  returns_eq : s.returnsVoid = false
  body_eq : ∃ code, s.body = .construct t code

theorem Registration.constructs_constructorSignature (r : Registration)
    (key : TypeKey) (c : Constructor) :
    (r.constructorSignature ⟨key, r.name⟩ c).Constructs ⟨key, r.name⟩ where
  name_eq := rfl
  returns_eq := rfl
  body_eq := ⟨c.code, rfl⟩

namespace Signature

variable {s : Signature} {t : TypeRef} {ps : List Payload} {w w' : World}

theorem Constructs.ends (hs : s.Constructs t) {call : Caller} {r : Except String Payload}
    (h : s.body.run call none ps w = some (r, w')) :
    (∃ o : ObjectRef, r = .ok (.object o) ∧ o.type = t) ∨ ∃ m, r = .error m := by
  obtain ⟨code, hcode⟩ := hs.body_eq
  rw [hcode] at h
  obtain ⟨⟨result, _⟩, -, he⟩ := Option.map_eq_some_iff.1 h
  cases result with
  | ok p =>
    obtain ⟨rfl, -⟩ := Prod.mk.inj he
    exact .inl ⟨_, rfl, rfl⟩
  | error m =>
    obtain ⟨rfl, -⟩ := Prod.mk.inj he
    exact .inr ⟨m, rfl⟩

theorem Constructs.run_body (hs : s.Constructs t) (call : Caller) (ps : List Payload) (w : World) :
    (Start.body s none ps w).run call =
      (s.body.run call none ps w).map fun (r, w) => finish (t.name ++ ".new") false r w := by
  rw [Start.run, hs.returns_eq, hs.name_eq]
  rfl

end Signature

namespace World

variable {w : World} {t : TypeRef} {args : List Value}

theorem Built.constructorName_eq (hb : w.Built t) : (w.catalog t).constructorName = t.name ++
    ".new" := by
  obtain ⟨r, -, ht⟩ := hb
  rw [Catalog.constructorName, ht]

theorem Built.constructs (hb : w.Built t) : (∀ s ∈ (w.catalog t).constructors, s.Constructs t) ∧
    ∀ s, (w.catalog t).defaultConstructor = some s → s.Constructs t := by
  obtain ⟨r, hr, ht⟩ := hb
  rw [Registration.eq_freeze_of_build hr] at ht ⊢
  obtain ⟨key, name⟩ := t
  obtain rfl : r.name = name := congrArg TypeRef.name ht
  constructor
  · intro s hs
    obtain ⟨c, -, rfl⟩ := List.mem_map.1 hs
    exact r.constructs_constructorSignature key c
  · intro s hs
    obtain ⟨code, -, rfl⟩ := Option.map_eq_some_iff.1 hs
    exact r.constructs_constructorSignature key ⟨[], fun _ => code⟩

theorem firstError?_eq_none (h : ∀ v ∈ args, v.isError = false) : firstError? args = none :=
  List.find?_eq_none.2 fun v hv => by simp [h v hv]

/-- Without a constructor that applies, nothing is left but the default constructor. -/
theorem start_type_of_not_takes (hb : w.Built t) (hargs : ∀ v ∈ args, v.isError = false)
    (hno : ¬ ∃ s ∈ (w.catalog t).constructors, s.Takes (Value.payloads w.next args).1) :
    w.start (.type t) args = match (w.catalog t).defaultConstructor, args with
      | some s, [] => .body s none [] w
      | _, _ => .answer (.error (.invalidArgumentCount (t.name ++ ".new") args.length)) w := by
  rw [start, startConstruct, firstError?_eq_none hargs]
  simp only [hb.constructorName_eq, Overload.resolve_of_not_takes hno]
  cases (w.catalog t).defaultConstructor <;> cases args <;> simp [Signature.start_none]

theorem start_type_of_ok (hargs : ∀ v ∈ args, v.isError = false) {r : Resolution}
    (hr : Overload.resolve (Value.payloads w.next args).2 (w.catalog t).constructors
      (Value.payloads w.next args).1 (w.catalog t).constructorName = .ok r) :
    w.start (.type t) args =
      .body r.signature none r.binding.arguments { w with next := r.binding.next } :=
  (start_of_ok List.mem_cons_self (firstError?_eq_none hargs) hr).trans (r.signature.start_none _ _)

/-- Either something that constructs an instance is started, or the answer is an error. -/
theorem start_type_cases (hb : w.Built t) (hargs : ∀ v ∈ args, v.isError = false) :
    (∃ s ps w₁, s.Constructs t ∧ w.start (.type t) args = .body s none ps w₁) ∨
      w.start (.type t) args =
        .answer (.error (.invalidArgumentCount (t.name ++ ".new") args.length)) w := by
  obtain ⟨hconstructors, hdefault⟩ := hb.constructs
  by_cases htakes : ∃ s ∈ (w.catalog t).constructors, s.Takes (Value.payloads w.next args).1
  · obtain ⟨r, hr⟩ := (Overload.exists_resolve_ok_iff (Value.payloads w.next args).2 _ _
      (w.catalog t).constructorName).2 htakes
    obtain ⟨hoffered, -⟩ := Overload.resolve_ok_iff_least.1 hr
    exact .inl ⟨_, _, _, hconstructors _ (List.mem_of_getElem? hoffered.declared),
      start_type_of_ok hargs hr⟩
  · rw [start_type_of_not_takes hb hargs htakes]
    split
    · rename_i hs
      exact .inl ⟨_, [], w, hdefault _ hs, rfl⟩
    · exact .inr rfl

theorem invoke_of_start_type (hb : w.Built t) (hargs : ∀ v ∈ args, v.isError = false)
    {s : Signature}
    {receiver : Option Value} {bound : List Payload} {w₁ : World}
    (h : w.start (.type t) args = .body s receiver bound w₁) (depth : Nat) :
    receiver = none ∧ s.Constructs t ∧
      invoke (depth + 1) (.type t) args w = (s.body.run (evaluator depth) none bound w₁).map
        fun (r, w) => Signature.finish (t.name ++ ".new") false r w := by
  rcases start_type_cases hb hargs with ⟨s', ps', w', hs, h'⟩ | h'
  · obtain ⟨rfl, rfl, rfl, rfl⟩ := Start.body.inj (h'.symm.trans h)
    exact ⟨rfl, hs, by rw [invoke_succ, h, hs.run_body]⟩
  · rw [h'] at h
    contradiction

/-- The default constructor is started where no other applies, and never with arguments. -/
theorem start_default_iff (hb : w.Built t) (hargs : ∀ v ∈ args, v.isError = false)
    (hno : ¬ ∃ s ∈ (w.catalog t).constructors, s.Takes (Value.payloads w.next args).1)
    {s : Signature} :
    w.start (.type t) args = .body s none [] w ↔
      (w.catalog t).defaultConstructor = some s ∧ args = [] := by
  rw [start_type_of_not_takes hb hargs hno]
  constructor
  · intro h
    split at h
    · rename_i d hd
      obtain ⟨rfl, -⟩ := Start.body.inj h
      exact ⟨hd, rfl⟩
    · contradiction
  · rintro ⟨hs, rfl⟩
    rw [hs]

/-- Nothing is constructed without a constructor, and what is constructed is of the type. -/
theorem invoke_type_cases (hb : w.Built t) (hargs : ∀ v ∈ args, v.isError = false)
    {depth : Nat} {v : Value}
    {w' : World} (h : invoke (depth + 1) (.type t) args w = some (v, w')) :
    (∃ o, v = .object o ∧ o.type = t) ∨
      ∃ e, v = .error e ∧ (e.code = .unknownError ∨ e.code = .invalidArgumentCount) := by
  rcases start_type_cases hb hargs with ⟨s, bound, w₁, hs, hstart⟩ | hstart
  · obtain ⟨-, -, hrun⟩ := invoke_of_start_type hb hargs hstart depth
    obtain ⟨⟨r, w₂⟩, he, hv⟩ := Option.map_eq_some_iff.1 (hrun.symm.trans h)
    rcases hs.ends he with ⟨o, rfl, ho⟩ | ⟨m, rfl⟩
    · exact .inl ⟨o, (Prod.mk.inj hv).1.symm, ho⟩
    · exact .inr ⟨_, (Prod.mk.inj hv).1.symm, .inl rfl⟩
  · obtain ⟨rfl, -⟩ := Prod.mk.inj (Option.some.inj ((invoke_of_answer hstart depth).symm.trans h))
    exact .inr ⟨_, rfl, .inr rfl⟩

end World

open World in
/-- If some constructor takes the arguments, the one of least rank is started and nothing else. If
none does, the default constructor is started exactly when the type has one and there are no
arguments; otherwise the answer is an error of argument count. What is started ends with an instance
of the type or with its failure, and there is no other result. -/
theorem construction_outcome {w : World} {t : TypeRef} (hb : w.Built t) {args : List Value}
    (hargs : ∀ v ∈ args, v.isError = false) (depth : Nat) :
    let c := w.catalog t
    let ps := (Value.payloads w.next args).1
    let next := (Value.payloads w.next args).2
    let callee := t.name ++ ".new"
    ((∃ s ∈ c.constructors, s.Takes ps) → ∃ r : Resolution, r.Offered next c.constructors ps ∧
      (∀ r' : Resolution, r'.Offered next c.constructors ps → r.rank ≤ r'.rank) ∧
      w.start (.type t) args =
        .body r.signature none r.binding.arguments { w with next := r.binding.next }) ∧
    ((¬ ∃ s ∈ c.constructors, s.Takes ps) →
      (∀ s, w.start (.type t) args = .body s none [] w ↔ c.defaultConstructor = some s ∧
        args = []) ∧
      (¬ (c.defaultConstructible = true ∧ args = []) → ∀ call, w.invokeWith call (.type t) args =
        some (.error (.invalidArgumentCount callee args.length), w))) ∧
    (∀ s receiver bound w₁, w.start (.type t) args = .body s receiver bound w₁ →
      let ended := s.body.run (evaluator depth) receiver bound w₁
      (invoke (depth + 1) (.type t) args w).isSome = ended.isSome ∧
      (∀ m w', ended = some (.error m, w') →
        invoke (depth + 1) (.type t) args w = some (.error (.unknown s!"{callee}: {m}"), w')) ∧
      ∀ p w', ended = some (.ok p, w') → ∃ o, p = .object o ∧ o.type = t ∧
        invoke (depth + 1) (.type t) args w = some (.object o, w')) ∧
    ∀ v w', invoke (depth + 1) (.type t) args w = some (v, w') → (∃ o, v = .object o ∧ o.type = t) ∨
      ∃ e, v = .error e ∧ (e.code = .unknownError ∨ e.code = .invalidArgumentCount) := by
  intro c ps next callee
  refine ⟨fun htakes => ?_, fun hno => ⟨fun s => start_default_iff hb hargs hno, fun hleft call =>
    ?_⟩,
    fun s receiver bound w₁ h => ?_, fun v w' => invoke_type_cases hb hargs⟩
  · obtain ⟨r, hr⟩ := (Overload.exists_resolve_ok_iff next _ _ c.constructorName).2 htakes
    obtain ⟨hoffered, hleast⟩ := Overload.resolve_ok_iff_least.1 hr
    exact ⟨r, hoffered, hleast, start_type_of_ok hargs hr⟩
  · rw [invokeWith_eq_start, start_type_of_not_takes hb hargs hno]
    split
    · rename_i d hd
      exact absurd ⟨by rw [Catalog.defaultConstructible, hd]; rfl, rfl⟩ hleft
    · rfl
  · obtain ⟨rfl, hs, hrun⟩ := invoke_of_start_type hb hargs h depth
    refine ⟨by rw [hrun, Option.isSome_map], fun m w' he => by
      rw [hrun, he]; rfl, fun p w' he => ?_⟩
    rcases hs.ends he with ⟨o, hp, ho⟩ | ⟨m, hm⟩
    · obtain rfl := Except.ok.inj hp
      exact ⟨o, rfl, ho, by rw [hrun, he]; rfl⟩
    · contradiction

open World in
/-- A constructor that takes an integer and fails, next to a default constructor: the text that
reads as an integer goes to the one, no arguments go to the other, and a boolean is reported as a
wrong number of arguments. -/
theorem construction_outcome_node :
    let broken : Constructor := ⟨[{ name := "hp", type := .int }], fun _ => .fail "boom"⟩
    let r : Registration :=
      { name := "Node", constructors := [broken], defaultCode := some (.done .null) }
    let t : TypeRef := ⟨.declared 0, "Node"⟩
    let w : World :=
      { next := 1, catalogs := OrderedMap.insert ∅ 0 (r.freeze (.declared 0)),
        statics := OrderedMap.insert ∅ 0 ∅ }
    declare r ∅ default = .ok (t, w) ∧
      (∃ w', invoke 1 (.type t) [.text ⟨9, "7"⟩] w =
        some (.error (.unknown "Node.new: boom"), w')) ∧
      (∃ o w', invoke 1 (.type t) [] w = some (.object o, w') ∧ o.type = t) ∧
      invoke 1 (.type t) [.bool true] w =
        some (.error (.invalidArgumentCount "Node.new" 1), w) := by
  intro broken r t w
  have hdeclared : declare r ∅ default = .ok (t, w) := rfl
  have hb : w.Built t := built_declare hdeclared
  let s : Signature := r.constructorSignature t broken
  let d : Signature := r.constructorSignature t ⟨[], fun _ => .done .null⟩
  have hread : w.start (.type t) [.text ⟨9, "7"⟩] = .body s none [.int 7] w := rfl
  have hfew : ¬ ∃ s ∈ (w.catalog t).constructors, s.Takes [] := by
    rintro ⟨s', hs', harity, -⟩
    obtain rfl := List.mem_singleton.1 hs'
    contradiction
  have hrefused : ¬ ∃ s ∈ (w.catalog t).constructors, s.Takes [.bool true] := by
    rintro ⟨s', hs', -, hadmits⟩
    obtain rfl := List.mem_singleton.1 hs'
    have hconverts := hadmits 0 (.bool true) rfl
    contradiction
  have htext : ∀ v ∈ [Value.text ⟨9, "7"⟩], v.isError = false := by simp [Value.isError]
  have hbool : ∀ v ∈ [Value.bool true], v.isError = false := by simp [Value.isError]
  have hempty : ∀ v ∈ ([] : List Value), v.isError = false := by simp
  obtain ⟨-, -, hbroken, -⟩ := construction_outcome hb htext 0
  obtain ⟨-, hdefault, hplain, -⟩ := construction_outcome hb hempty 0
  obtain ⟨-, hnone, -, -⟩ := construction_outcome hb hbool 0
  obtain ⟨-, hfails, -⟩ := hbroken s none [.int 7] w hread
  obtain ⟨-, -, hmakes⟩ := hplain d none [] w (((hdefault hfew).1 d).2 ⟨rfl, rfl⟩)
  obtain ⟨o, -, ho, hmade⟩ := hmakes _ _ rfl
  exact ⟨hdeclared, ⟨_, hfails "boom" _ rfl⟩, ⟨o, _, hmade, ho⟩,
    (hnone hrefused).2 (by simp) (evaluator 0)⟩

end LateBound
