import Mathlib.Data.List.Forall2
import LateBound.Proofs.ArgumentBinding
import LateBound.Proofs.Dispatch
import LateBound.Proofs.ListCall
import LateBound.Proofs.Stability
/-! How the methods of the built-in kinds read their arguments. Each is declared with parameters of
the types that its body reads, and what is bound to a parameter has its type, so only a null in the
place of a text cannot be read. Such a null was given, since no text has a default. -/
namespace LateBound

namespace Payload

variable {p : Payload} {t : DeclaredType} {next : Nat} {c : Conversion}

theorem payload_eq_null_iff (hb : ∀ v, p ≠ .boxed v) (h : p.convert next t = some c) :
    c.payload = .null ↔ p = .null := by
  rw [convert_of_ne_boxed hb] at h
  constructor
  · intro hc
    cases convertPlain_converts h with
    | kept _ _ h | widened _ _ h =>
      obtain rfl := Option.some.inj h
      exact hc
    | made ht hany _ _ => exact absurd (by rw [← ht, hc, naturalType]) hany
  · rintro rfl
    exact payload_of_convertPlain_null h

theorem Settled.eq_null_or_text (h : p.Settled .string) : p = .null ∨ ∃ t, p = .text t := by
  rcases h.inhabits with hp | hp | hp | ⟨_, -, hp⟩ | ⟨_, _, _, -, hp, -⟩
  · exact .inl hp
  · contradiction
  · cases p with
    | text t => exact .inr ⟨t, rfl⟩
    | _ => contradiction
  · contradiction
  · contradiction

theorem Settled.eq_int (h : p.Settled .int) : ∃ n, p = .int n := by
  cases p with
  | int n => exact ⟨n, rfl⟩
  | null => exact absurd (h.nullable rfl) nofun
  | _ =>
    rcases h.inhabits with hp | hp | hp | ⟨_, -, hp⟩ | ⟨_, _, _, -, hp, -⟩ <;> contradiction

end Payload

namespace Value

theorem payload_eq_null_iff (next : Nat) (v : Value) :
    (v.payload next).1 = .null ↔ v = .null ∨ v = .void ∨ v.isError = true := by
  cases v with
  | number n => cases n <;> simp [payload, Payload.number, isError]
  | _ => simp [payload, isError]

theorem getElem?_payloads {vs : List Value} {i : Nat} {v : Value}
    (h : vs[i]? = some v) (next : Nat) :
    ∃ n, (payloads next vs).1[i]? = some (v.payload n).1 := by
  induction vs generalizing next i with
  | nil => contradiction
  | cons u vs ih =>
    cases i with
    | zero =>
      obtain rfl := Option.some.inj h
      exact ⟨next, rfl⟩
    | succ i => exact ih h _

end Value

theorem bindArguments_settled {next index : Nat} {ps : List Parameter}
    {args : List Payload} {b : Binding}
    (h : bindArguments next index ps args = .ok b) (hlength : args.length ≤ ps.length)
    (hd : ∀ p ∈ ps.drop args.length, (p.default.getD .null).Settled p.type) :
    List.Forall₂ Payload.Settled b.arguments (ps.map (·.type)) := by
  induction args generalizing next index ps b with
  | nil =>
    obtain rfl := Except.ok.inj h
    rw [List.forall₂_map_left_iff, List.forall₂_map_right_iff, List.forall₂_same]
    exact hd
  | cons a as ih =>
    cases ps with
    | nil => contradiction
    | cons p ps =>
      cases hc : a.convert next p.type with
      | none => simp [bindArguments, hc] at h
      | some c =>
        rw [bindArguments_cons_some hc] at h
        cases hb : bindArguments c.next (index + 1) ps as with
        | error r => simp [hb, Except.map] at h
        | ok b' =>
          rw [List.tail_cons, hb] at h
          obtain rfl := Except.ok.inj h
          exact .cons (Payload.settled_of_convert hc) (ih hb (Nat.le_of_succ_le_succ hlength) hd)

theorem Signature.settled_of_bind {s : Signature} {next : Nat} {args : List Payload} {b : Binding}
    (hs : s.isVariadic = false) (hd : ∀ p ∈ s.parameters, ∀ d, p.default = some d →
      d.Settled p.type)
    (h : s.bind next args = .ok b) :
    List.Forall₂ Payload.Settled b.arguments (s.parameters.map (·.type)) := by
  unfold bind at h
  split at h
  · rename_i haccepts
    have hcount : s.minArity ≤ args.length ∧ args.length ≤ s.parameters.length := by
      simpa [acceptsArity, hs] using haccepts
    refine bindArguments_settled h hcount.2 fun p hp => ?_
    obtain ⟨d, hdefault⟩ :=
      Option.isSome_iff_exists.1 (s.requiredUpTo_minArity.isSome_default hcount.1 p hp)
    rw [hdefault]
    exact hd p (List.mem_of_mem_drop hp) d hdefault
  · contradiction

abbrev HostKind.word : HostKind := .integer ⟨true, .w64⟩

/-- The kinds that a method of a string reads its arguments as, in order. -/
def TextMethod.reads : TextMethod → List HostKind
  | .toUpper | .toLower | .trim => []
  | .contains | .startsWith | .endsWith | .indexOf | .split => [.string]
  | .substring => [.word, .word]
  | .replace => [.string, .string]

def ListMethod.reads : ListMethod → List HostKind
  | .add | .contains | .indexOf => [.payload]
  | .insert => [.word, .payload]
  | .removeAt => [.word]
  | .clear => []

def DictMethod.reads : DictMethod → List HostKind
  | .containsKey | .remove => [.payload]
  | .get => [.payload, .payload]
  | .clear => []

namespace BuiltinMethod

def reads : BuiltinMethod → List HostKind
  | .boolToText | .number _ => []
  | .string m => m.reads
  | .list m => m.reads
  | .dict m => m.reads

def kind : BuiltinMethod → BuiltinKind
  | .boolToText => .bool
  | .number _ => .number
  | .string _ => .string
  | .list _ => .list
  | .dict _ => .dict

/-- The arguments have the types that the method reads. -/
def Fits (m : BuiltinMethod) (args : List Payload) : Prop :=
  List.Forall₂ (fun p k => p.Settled k.declaredType) args m.reads

/-- A null stands where the method reads a text. -/
def NullText (m : BuiltinMethod) (args : List Payload) (i : Nat) : Prop :=
  m.reads[i]? = some .string ∧ args[i]? = some .null

instance (m : BuiltinMethod) (args : List Payload) : DecidablePred (m.NullText args) :=
  fun _ => inferInstanceAs (Decidable (_ ∧ _))

variable {m : BuiltinMethod} {args : List Payload} {i : Nat} {k : HostKind}

theorem reads_cases (m : BuiltinMethod) :
    ∀ k ∈ m.reads, k = .payload ∨ k = .string ∨ k = .word := by
  cases m with
  | boolToText => nofun
  | number m => nofun
  | string m => cases m <;> decide
  | list m => cases m <;> decide
  | dict m => cases m <;> decide

theorem Fits.exists_settled (h : m.Fits args) (hk : m.reads[i]? = some k) :
    ∃ p, args[i]? = some p ∧ p.Settled k.declaredType := by
  obtain ⟨hi, rfl⟩ := List.getElem?_eq_some_iff.1 hk
  obtain ⟨hlength, hget⟩ := List.forall₂_iff_get.1 h
  have hargs : i < args.length := hlength ▸ hi
  exact ⟨args[i], List.getElem?_eq_getElem hargs, hget i hargs hi⟩

theorem not_nullText (h : .string ∉ m.reads) : ¬ m.NullText args i :=
  fun hnull => h (List.mem_of_getElem? hnull.1)

theorem not_nullText_of_read (hk : m.reads[i]? = some k) (hne : k ≠ .string) :
    ¬ m.NullText args i :=
  fun hnull => hne (Option.some.inj (hk.symm.trans hnull.1))

theorem Fits.exists_argument_iff (h : m.Fits args) (hk : m.reads[i]? = some k) (w : World) :
    (∃ x, k.argument w args i = .ok x) ↔ ¬ m.NullText args i := by
  obtain ⟨p, hp, hsettled⟩ := h.exists_settled hk
  rcases m.reads_cases k (List.mem_of_getElem? hk) with rfl | rfl | rfl
  · have hread : HostKind.payload.argument w args i = .ok p := by
      simp [HostKind.argument, hp, HostKind.read, HostKind.read?]
    exact iff_of_true ⟨p, hread⟩ (not_nullText_of_read hk (by decide))
  · rcases Payload.Settled.eq_null_or_text hsettled with rfl | ⟨t, rfl⟩
    · simp [NullText, hk, hp, HostKind.argument, HostKind.read, HostKind.read?, Payload.text?]
    · simp [NullText, hp, HostKind.argument, HostKind.read, HostKind.read?, Payload.text?]
  · obtain ⟨n, rfl⟩ := Payload.Settled.eq_int hsettled
    obtain ⟨hholds, hread⟩ := HostKind.argument_word hp w
    exact iff_of_true ⟨_, hread⟩ (not_nullText_of_read hk (by decide))

end BuiltinMethod

namespace BuiltinKind

/-- The signature of a method: its parameters are of the types that the body reads, and so are their
defaults. No text has a default. -/
structure Declares (s : Signature) (m : BuiltinMethod) : Prop where
  body_eq : s.body = .builtin m
  isStatic_eq : s.isStatic = false
  isVariadic_eq : s.isVariadic = false
  types_eq : s.parameters.map (·.type) = m.reads.map (·.declaredType)
  default_settled : ∀ p ∈ s.parameters, ∀ d, p.default = some d → d.Settled p.type
  string_required : ∀ p ∈ s.parameters, p.type = .string → p.default = none

theorem declares_instanceMethod {name : String} {ps : List Parameter}
    {returns : DeclaredType} {m : BuiltinMethod}
    (ht : ps.map (·.type) = m.reads.map (·.declaredType))
    (hd : ∀ p ∈ ps, p.default = none ∨ p.type ≠ .string ∧ ∃ d, p.default = some d ∧
      d.Settled p.type) :
    Declares (instanceMethod name ps returns m) m where
  body_eq := rfl
  isStatic_eq := rfl
  isVariadic_eq := rfl
  types_eq := ht
  default_settled p hp d h := by
    rcases hd p hp with hnone | ⟨-, d', hd', hsettled⟩
    · rw [hnone] at h
      contradiction
    · rwa [Option.some.inj (h.symm.trans hd')]
  string_required p hp h := (hd p hp).resolve_right fun hd => hd.1 h

theorem declares_of_mem (kind : BuiltinKind) :
    ∀ s ∈ kind.registration.methods, ∃ m, m.kind = kind ∧ Declares s m := by
  have hlength : Payload.Settled (.int (-1)) .int := Payload.settled_of_naturalType rfl nofun
  have hfallback : Payload.Settled .null .any := Payload.settled_null rfl
  intro s hs
  cases kind with
  | bool =>
    simp only [registration, boolMethods, List.mem_cons, List.not_mem_nil, or_false] at hs
    subst hs
    exact ⟨_, rfl, declares_instanceMethod rfl (by simp)⟩
  | number =>
    simp only [registration, numberMethods, List.mem_cons, List.not_mem_nil, or_false] at hs
    rcases hs with rfl | rfl | rfl | rfl | rfl | rfl | rfl <;>
      exact ⟨_, rfl, declares_instanceMethod rfl (by simp)⟩
  | string =>
    simp only [registration, textMethods, List.mem_cons, List.not_mem_nil, or_false] at hs
    rcases hs with rfl | rfl | rfl | rfl | rfl | rfl | rfl | rfl | rfl | rfl <;>
      exact ⟨_, rfl, declares_instanceMethod rfl (by simp [hlength])⟩
  | list =>
    simp only [registration, listMethods, List.mem_cons, List.not_mem_nil, or_false] at hs
    rcases hs with rfl | rfl | rfl | rfl | rfl | rfl <;>
      exact ⟨_, rfl, declares_instanceMethod rfl (by simp)⟩
  | dict =>
    simp only [registration, dictMethods, List.mem_cons, List.not_mem_nil, or_false] at hs
    rcases hs with rfl | rfl | rfl | rfl <;>
      exact ⟨_, rfl, declares_instanceMethod rfl (by simp [hfallback])⟩

end BuiltinKind

theorem Signature.bound_null_iff {s : Signature} {next : Nat} {args : List Payload} {b : Binding}
    (h : s.bind next args = .ok b) (ha : ∀ a ∈ args, ∀ v, a ≠ .boxed v) {i : Nat} {p : Parameter}
    (hp : s.parameters[i]? = some p) (hd : p.default = none) :
    b.arguments[i]? = some .null ↔ args[i]? = some .null := by
  unfold bind at h
  split at h
  · rename_i haccepts
    obtain ⟨cs, hcs, harguments, -, -⟩ := exists_conversions h
    have hi : i < args.length := by
      by_contra hpast
      have hmin : s.minArity ≤ args.length := by
        simp only [acceptsArity, Bool.and_eq_true, decide_eq_true_eq] at haccepts
        exact haccepts.1
      have hdrop : (s.parameters.drop args.length)[i - args.length]? = some p := by
        rw [List.getElem?_drop, Nat.add_sub_cancel' (Nat.not_lt.1 hpast), hp]
      have hleft : p ∈ s.parameters.drop args.length := List.mem_of_getElem? hdrop
      have hsome := s.requiredUpTo_minArity.isSome_default hmin p hleft
      rw [hd] at hsome
      contradiction
    have hic : i < cs.length := hcs.length_eq ▸ hi
    obtain ⟨n, -, hconvert⟩ :=
      hcs.converted i args[i] cs[i] (List.getElem?_eq_getElem hi) (List.getElem?_eq_getElem hic)
    have hbound : b.arguments[i]? = some cs[i].payload := by
      rw [harguments, List.getElem?_append_left (by simpa using hic)]
      simp [hic]
    rw [hbound, List.getElem?_eq_getElem hi, Option.some.injEq, Option.some.injEq]
    exact Payload.payload_eq_null_iff (ha _ (List.getElem_mem hi)) hconvert
  · contradiction

namespace BuiltinKind.Declares

variable {s : Signature} {m : BuiltinMethod} {next : Nat} {args : List Payload} {b : Binding}

theorem fits (h : Declares s m) (hb : s.bind next args = .ok b) : m.Fits b.arguments := by
  have hsettled := Signature.settled_of_bind h.isVariadic_eq h.default_settled hb
  rwa [h.types_eq, List.forall₂_map_right_iff] at hsettled

theorem nullText_iff (h : Declares s m) (hb : s.bind next args = .ok b)
    (ha : ∀ a ∈ args, ∀ v, a ≠ .boxed v)
    (i : Nat) : m.NullText b.arguments i ↔ m.reads[i]? = some .string ∧ args[i]? = some .null := by
  refine and_congr_right fun hread => ?_
  have htypes : (s.parameters.map (·.type))[i]? = some .string := by
    rw [h.types_eq, List.getElem?_map, hread]
    rfl
  rw [List.getElem?_map, Option.map_eq_some_iff] at htypes
  obtain ⟨p, hp, ht⟩ := htypes
  exact Signature.bound_null_iff hb ha hp (h.string_required p (List.mem_of_getElem? hp) ht)

end BuiltinKind.Declares

namespace World

variable {w : World} {args : List Value} {receiver : Value} {kind : BuiltinKind}

theorem payloads_null_iff (he : firstError? args = none) (next i : Nat) :
    (Value.payloads next args).1[i]? = some .null ↔ args[i]? = some .null ∨
    args[i]? = some .void := by
  cases hv : args[i]? with
  | none =>
    have hmiss : (Value.payloads next args).1[i]? = none := by
      rw [List.getElem?_eq_none_iff] at hv ⊢
      rwa [Value.length_payloads]
    simp [hmiss]
  | some v =>
    obtain ⟨n, hn⟩ := Value.getElem?_payloads hv next
    have herror : v.isError = false := by
      simpa using List.find?_eq_none.1 he v (List.mem_of_getElem? hv)
    simp [hn, Value.payload_eq_null_iff, herror]

theorem declares_of_getNamed {call : Caller} {w₀ w₁ : World} {name : String} {g : MethodGroup}
    {s : Signature} (hk : receiver.builtinKind? = some kind)
    (hg : w₀.getNamed call receiver name = some (.method g, w₁)) (hs : s ∈ w.overloads g) :
    g.target = some receiver ∧ ∃ m, m.kind = kind ∧ BuiltinKind.Declares s m := by
  obtain ⟨is, rfl⟩ := eq_bound_of_getNamed hk hg
  have hgroup := Registration.forall_group kind.declares_of_mem
  have hdeclared : s ∈ kind.catalog.overloads name := mem_overloads hs
  exact ⟨rfl, hgroup.getD (fun _ h => absurd h List.not_mem_nil) s hdeclared⟩

end World

end LateBound
