import LateBound.Proofs.BuiltinCall
import LateBound.Proofs.ErrorOperand
/-! What an invocation runs and what becomes of it. A type, a method group and a function differ in
their candidates, receivers and names, and a type may have a default constructor. Otherwise they go
one way: one overload is chosen, its body is run once, and its end is turned into a value. -/
namespace LateBound

structure Choice where
  signature : Signature
  arguments : List Payload
  next : Nat

namespace Value

def receiver? : Value → Option Value
  | .method g => g.target
  | _ => none

end Value

def Choice.receiver? (c : Choice) (target : Value) : Option Value :=
  c.signature.receiverOf target.receiver?

namespace World

def candidates (w : World) : Value → List Signature
  | .type t => (w.catalog t).constructors
  | .method g => w.overloads g
  | .function f => [w.signature f]
  | _ => []

def calleeName (w : World) : Value → String
  | .type t => (w.catalog t).constructorName
  | .method g => g.qualifiedName
  | .function f => (w.signature f).name
  | v => v.typeName

/-- What is left when no candidate applies: the default constructor, for a type without
arguments. -/
def fallback? (w : World) (target : Value) (args : List Value) : Option Signature :=
  match target with
  | .type t => if args.isEmpty then (w.catalog t).defaultConstructor else none
  | _ => none

def choice? (w : World) (target : Value) (args : List Value) : Option Choice :=
  let (ps, next) := Value.payloads w.next args
  match Overload.resolve next (w.candidates target) ps (w.calleeName target) with
  | .ok r => some ⟨r.signature, r.binding.arguments, r.binding.next⟩
  | .error _ => (w.fallback? target args).map fun s => ⟨s, [], w.next⟩

/-- Nothing is to run: an argument is an error, nothing applies, or the receiver is in use. -/
def Quiet (w : World) (target : Value) (args : List Value) : Prop :=
  (∃ e, firstError? args = some e) ∨ w.choice? target args = none ∨
    ∃ c o, w.choice? target args = some c ∧ (c.receiver? target).bind w.heldReceiver? = some o

end World

namespace World

variable {w : World} {target : Value} {args : List Value}

theorem startOverloads_of_ok {candidates : List Signature} {callee : String} {r : Resolution}
    {receiver : Option Value} (he : firstError? args = none)
    (hr : Overload.resolve (Value.payloads w.next args).2 candidates
      (Value.payloads w.next args).1 callee =
      .ok r) : w.startOverloads candidates receiver args callee =
        r.signature.start receiver r.binding.arguments { w with next := r.binding.next } := by
  simp [startOverloads, he, hr]

theorem startOverloads_of_error {candidates : List Signature} {callee : String} {e : Failure}
    {receiver : Option Value} (he : firstError? args = none)
    (hr : Overload.resolve (Value.payloads w.next args).2 candidates
      (Value.payloads w.next args).1 callee =
      .error e) : w.startOverloads candidates receiver args callee = .answer (.error e) w := by
  simp [startOverloads, he, hr]

theorem start_of_ok {r : Resolution} (ht : .invocable ∈ target.capabilities)
    (he : firstError? args = none)
    (hr : Overload.resolve (Value.payloads w.next args).2 (w.candidates target)
      (Value.payloads w.next args).1 (w.calleeName target) = .ok r) :
    w.start target args =
      r.signature.start target.receiver? r.binding.arguments { w with next := r.binding.next } := by
  cases target with
  | type t =>
    have hr : Overload.resolve _ (w.catalog t).constructors _ (w.catalog t).constructorName = _ :=
      hr
    simp [start, startConstruct, he, hr, Value.receiver?]
  | method g => exact startOverloads_of_ok he hr
  | function f => exact startOverloads_of_ok he hr
  | _ => simp [Value.capabilities] at ht

theorem start_of_error {e : Failure} (ht : .invocable ∈ target.capabilities)
    (he : firstError? args = none)
    (hr : Overload.resolve (Value.payloads w.next args).2 (w.candidates target)
      (Value.payloads w.next args).1 (w.calleeName target) = .error e) :
    match w.fallback? target args with
    | some s => w.start target args = s.start target.receiver? [] w
    | none => ∃ e, w.start target args = .answer (.error e) w := by
  cases target with
  | type t =>
    have hr : Overload.resolve _ (w.catalog t).constructors _ (w.catalog t).constructorName = _ :=
      hr
    rw [start, startConstruct, he, fallback?]
    cases hf : (if args.isEmpty then (w.catalog t).defaultConstructor else none) with
    | none =>
      refine ⟨.invalidArgumentCount (w.catalog t).constructorName args.length, ?_⟩
      simp only [hr]
    | some s => simp only [hr, Value.receiver?]
  | method g => exact ⟨e, startOverloads_of_error he hr⟩
  | function f => exact ⟨e, startOverloads_of_error he hr⟩
  | _ => simp [Value.capabilities] at ht

/-- What is chosen is started, and without a choice there is an error. -/
theorem start_eq_choice (ht : .invocable ∈ target.capabilities) (he : firstError? args = none) :
    match w.choice? target args with
    | some c => w.start target args =
        c.signature.start target.receiver? c.arguments { w with next := c.next }
    | none => ∃ e, w.start target args = .answer (.error e) w := by
  cases hr : Overload.resolve (Value.payloads w.next args).2 (w.candidates target)
      (Value.payloads w.next args).1 (w.calleeName target) with
  | ok r =>
    have hc : w.choice? target args = some ⟨r.signature, r.binding.arguments, r.binding.next⟩ := by
      simp [choice?, hr]
    rw [hc]
    exact start_of_ok ht he hr
  | error e =>
    have hc : w.choice? target args = (w.fallback? target args).map fun s => ⟨s, [], w.next⟩ := by
      simp [choice?, hr]
    have hs := start_of_error ht he hr
    rw [hc]
    cases hf : w.fallback? target args with
    | none => rwa [hf] at hs
    | some s => rwa [hf] at hs

theorem choice?_next_le {c : Choice} (h : w.choice? target args = some c) : w.next ≤ c.next := by
  unfold choice? at h
  dsimp only at h
  split at h
  · rename_i r hr
    obtain rfl := Option.some.inj h
    obtain ⟨-, hb, -⟩ := (Overload.resolve_ok_iff_least.1 hr).1
    exact Nat.le_trans (Value.payloads_next_le w.next args) (Signature.bind_next_le hb)
  · obtain ⟨s, -, rfl⟩ := Option.map_eq_some_iff.1 h
    exact Nat.le_refl _

theorem start_of_quiet (ht : .invocable ∈ target.capabilities) (h : w.Quiet target args) :
    ∃ e n, w.next ≤ n ∧ w.start target args = .answer (.error e) { w with next := n } := by
  cases he : firstError? args with
  | some v =>
    obtain ⟨e, rfl⟩ := Value.isError_iff.1 (List.find?_some he)
    have hne : target.isError = false := by
      cases target with
      | error e => simp [Value.capabilities] at ht
      | _ => rfl
    exact ⟨e, w.next, Nat.le_refl _, by rw [start_error_argument w hne he, if_pos ht]⟩
  | none =>
    have hs := start_eq_choice (w := w) ht he
    cases hc : w.choice? target args with
    | none =>
      rw [hc] at hs
      obtain ⟨e, hs⟩ := hs
      exact ⟨e, w.next, Nat.le_refl _, hs⟩
    | some c =>
      rw [hc] at hs
      obtain ⟨o, ho⟩ : ∃ o, (c.receiver? target).bind w.heldReceiver? = some o := by
        rcases h with ⟨e, h⟩ | h | ⟨c', o, hc', ho⟩
        · simp [he] at h
        · simp [hc] at h
        · obtain rfl := Option.some.inj (hc.symm.trans hc')
          exact ⟨o, ho⟩
      have hheld : (c.signature.receiverOf target.receiver?).bind
          ({ w with next := c.next } : World).heldReceiver? = some o := ho
      exact ⟨o.inUseFailure, c.next, choice?_next_le hc, hs.trans (Signature.start_of_held hheld _)⟩

theorem start_of_not_quiet (ht : .invocable ∈ target.capabilities) (h : ¬ w.Quiet target args) :
    ∃ c, w.choice? target args = some c ∧ (c.receiver? target).bind w.heldReceiver? = none ∧
      w.start target args =
        .body c.signature (c.receiver? target) c.arguments { w with next := c.next } := by
  rw [Quiet, not_or, not_or] at h
  obtain ⟨herror, hchoice, hheld⟩ := h
  have he : firstError? args = none := by
    cases he : firstError? args with
    | none => rfl
    | some e => exact absurd ⟨e, he⟩ herror
  have hs := start_eq_choice (w := w) ht he
  cases hc : w.choice? target args with
  | none => exact absurd hc hchoice
  | some c =>
    rw [hc] at hs
    have hfree : (c.signature.receiverOf target.receiver?).bind
        ({ w with next := c.next } : World).heldReceiver? = none := by
      cases ho : (c.receiver? target).bind w.heldReceiver? with
      | none => exact ho
      | some o => exact absurd ⟨c, o, hc, ho⟩ hheld
    exact ⟨c, rfl, hfree, hs.trans (Signature.start_of_free hfree _)⟩

/-- An invocation is answered at once, or starts a body on a receiver that nobody holds. -/
theorem start_cases (w : World) (target : Value) (args : List Value) :
    (∃ v n, w.next ≤ n ∧ w.start target args = .answer v { w with next := n }) ∨
      ∃ s receiver ps n, w.next ≤ n ∧ receiver.bind w.heldReceiver? = none ∧
        w.start target args = .body s receiver ps { w with next := n } := by
  by_cases ht : .invocable ∈ target.capabilities
  · by_cases hq : w.Quiet target args
    · obtain ⟨e, n, hn, hs⟩ := start_of_quiet ht hq
      exact .inl ⟨.error e, n, hn, hs⟩
    · obtain ⟨c, hc, hfree, hs⟩ := start_of_not_quiet ht hq
      exact .inr ⟨c.signature, c.receiver? target, c.arguments, c.next, choice?_next_le hc, hfree,
        hs⟩
  · cases target with
    | type t => exact absurd List.mem_cons_self ht
    | method g => exact absurd List.mem_cons_self ht
    | function f => exact absurd List.mem_cons_self ht
    | _ => exact .inl ⟨_, w.next, Nat.le_refl _, rfl⟩

/-- The arguments of a forwarded call as the group receives them, and the world then. -/
def passOn (w : World) (args : List Value) : List Value × World :=
  let (ps, next) := Value.payloads w.next args
  ({ w with next } : World).boxAll ps

theorem start_forwarding (w : World) (id : Nat) (g : MethodGroup) (he : firstError? args = none) :
    w.start (.function (.forwarding id g)) args =
      .body (w.signature (.forwarding id g)) none (Value.payloads w.next args).1
        { w with next := (Value.payloads w.next args).2 } := by
  have hres := Overload.resolve_any (s := w.signature (.forwarding id g)) nofun rfl
    (Value.payloads_ne_boxed w.next args) (Value.payloads w.next args).2
    (w.signature (.forwarding id g)).name
  rw [start, startOverloads_of_ok he hres]
  simp [signature, Signature.start, Signature.receiverOf]

theorem invokeWith_forwarding (call : Caller) (w : World) (id : Nat) (g : MethodGroup)
    (he : firstError? args = none) :
    w.invokeWith call (.function (.forwarding id g)) args =
      call (.invoke (.method g) (w.passOn args).1) (w.passOn args).2 := by
  rw [invokeWith_eq_start, start_forwarding w id g he, Start.run]
  simp only [signature, Body.run, enter, leave, passOn, Option.map_map]
  cases call (.invoke (.method g) _) _ <;> rfl

theorem name_of_construct {t : TypeRef} {r : Registration} {key : TypeKey} {c : Choice}
    (hr : w.catalog t = r.freeze key) (hc : w.choice? (.type t) args = some c) :
    c.signature.name = r.name ++ ".new" := by
  unfold choice? at hc
  dsimp only at hc
  split at hc
  · rename_i res hres
    obtain rfl := Option.some.inj hc
    obtain ⟨hd, -⟩ := (Overload.resolve_ok_iff_least.1 hres).1
    have hmem : res.signature ∈ (w.catalog t).constructors := List.mem_of_getElem? hd
    rw [hr] at hmem
    obtain ⟨d, -, hd⟩ := List.mem_map.1 hmem
    rw [← hd]
    rfl
  · obtain ⟨s, hs, rfl⟩ := Option.map_eq_some_iff.1 hc
    have hs : (if args.isEmpty then (w.catalog t).defaultConstructor else none) = some s := hs
    rw [hr] at hs
    obtain ⟨-, hs⟩ := Option.ite_none_right_eq_some.1 hs
    obtain ⟨code, -, rfl⟩ := Option.map_eq_some_iff.1 hs
    rfl

end World

open World in
/-- An invocation that is quiet gives an error and changes nothing but the numbers taken, whatever
host code would do. Any other runs the body of its choice, once, on the arguments bound, and nothing
else: its message becomes an error under the name of the signature, its payload is boxed unless the
signature gives nothing back, and what is boxed already comes back as it is. -/
theorem invoke_outcome {target : Value} (ht : .invocable ∈ target.capabilities) (args : List Value)
    (w : World) (depth : Nat) :
    (w.Quiet target args → ∃ e n, w.start target args = .answer (.error e) { w with next := n } ∧
      ∀ call, w.invokeWith call target args = some (.error e, { w with next := n })) ∧
    (¬ w.Quiet target args → ∃ c, w.choice? target args = some c ∧
      let receiver := c.receiver? target
      let ended := c.signature.body.run (evaluator depth) receiver c.arguments
        (({ w with next := c.next } : World).enter receiver)
      w.start target args = .body c.signature receiver c.arguments { w with next := c.next } ∧
      (invoke (depth + 1) target args w).isSome = ended.isSome ∧
      (∀ m w', ended = some (.error m, w') → invoke (depth + 1) target args w =
        some (.error (.unknown s!"{c.signature.name}: {m}"), w'.leave receiver)) ∧
      (∀ p w', ended = some (.ok p, w') → invoke (depth + 1) target args w =
        some (if c.signature.returnsVoid then (.void, w'.leave receiver)
          else (w'.leave receiver).box p)) ∧
      ∀ t r key, target = .type t → w.catalog t = Registration.freeze r key →
        c.signature.name = r.name ++ ".new") ∧
    ∀ v, w.box (.boxed v) = (v, w) := by
  refine ⟨fun h => ?_, fun h => ?_, fun v => rfl⟩
  · obtain ⟨e, n, -, hs⟩ := start_of_quiet ht h
    exact ⟨e, n, hs, fun call => by rw [invokeWith_eq_start, hs, Start.run]⟩
  · obtain ⟨c, hc, -, hs⟩ := start_of_not_quiet ht h
    have hrun : invoke (depth + 1) target args w = _ :=
      (w.invoke_succ depth target args).trans (congrArg (Start.run (evaluator depth)) hs)
    refine ⟨c, hc, hs, ?_, fun m w' he => ?_, fun p w' he => ?_, ?_⟩
    · rw [hrun, Start.run, Option.isSome_map]
    · rw [hrun, Start.run, he]
      rfl
    · rw [hrun, Start.run, he]
      rfl
    · rintro t r key rfl hr
      exact name_of_construct hr hc

open World in
/-- A function that fails, on a text that reads as its argument and on one that does not. -/
theorem invoke_outcome_function :
    let s : Signature :=
      { name := "f", parameters := [{ name := "n", type := .int }], returns := .int
        body := .free fun _ => .fail "boom" }
    let made := newFunction s default
    let f : Value := .function made.1
    invoke 1 f [.text ⟨5, "7"⟩] made.2 = some (.error (.unknown "f: boom"), made.2) ∧
      ∃ e n, invoke 1 f [.text ⟨5, "x"⟩] made.2 = some (.error e, { made.2 with next := n }) := by
  intro s made f
  have hf : .invocable ∈ f.capabilities := List.mem_cons_self
  have hread : made.2.choice? f [.text ⟨5, "7"⟩] = some ⟨s, [.int 7], 1⟩ := rfl
  have hquiet : ¬ made.2.Quiet f [.text ⟨5, "7"⟩] := by
    rintro (⟨e, he⟩ | hn | ⟨c, o, hc, ho⟩)
    · contradiction
    · exact absurd (hread.symm.trans hn) (Option.some_ne_none _)
    · obtain rfl := Option.some.inj (hread.symm.trans hc)
      contradiction
  obtain ⟨-, hruns, -⟩ := invoke_outcome hf [.text ⟨5, "7"⟩] made.2 0
  obtain ⟨c, hc, -, -, hfail, -⟩ := hruns hquiet
  obtain rfl := Option.some.inj (hread.symm.trans hc)
  obtain ⟨hstops, -⟩ := invoke_outcome hf [.text ⟨5, "x"⟩] made.2 0
  obtain ⟨e, n, -, herror⟩ := hstops (.inr (.inl rfl))
  exact ⟨hfail "boom" made.2 rfl, e, n, herror (evaluator 0)⟩

end LateBound
