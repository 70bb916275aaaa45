import LateBound.Proofs.DictLookup
import LateBound.Proofs.Numeral
import LateBound.Proofs.TextCall
/-! Scalars as texts. An integer or a truth value written as a text is read back from it, whether it
was converted or asked for its text, and a dictionary of integer keys takes a text that says an
integer for that integer. -/
namespace LateBound

namespace Text

variable {t : Text} {n : Int64} {b : Bool}

def SaysInt (t : Text) (n : Int64) : Prop :=
  ∃ body, Surrounds body t.chars ∧ Decimal.Numeral body n.toInt

def SaysBool (t : Text) (b : Bool) : Prop :=
  ∃ body, Surrounds body t.chars ∧ Spells (boolText b).toList body

theorem readInt64?_trim_iff : Decimal.readInt64? (trim t.chars) = some n ↔ t.SaysInt n := by
  rw [Decimal.readInt64?_eq_some_iff]
  exact exists_surrounds_iff fun _ h => Decimal.Numeral.not_blank h

theorem readBool?_trim_iff : readBool? (trim t.chars) = some b ↔ t.SaysBool b := by
  rw [readBool?_eq_some_iff]
  exact exists_surrounds_iff fun _ h => Spells.not_blank h

theorem saysInt_of_content (h : t.content = Decimal.intText n.toInt) : t.SaysInt n := by
  have hchars : t.chars = Decimal.intDigits n.toInt := by
    rw [chars, h, Decimal.intText, String.toList_ofList]
  refine ⟨Decimal.intDigits n.toInt, ?_,
    Decimal.readInt64?_eq_some_iff.1 (Decimal.readInt64?_intDigits n)⟩
  rw [hchars]
  exact surrounds_self _

theorem saysBool_of_content (h : t.content = boolText b) : t.SaysBool b := by
  refine ⟨(boolText b).toList, ?_, List.forall₂_same.2 fun _ _ => .inl rfl⟩
  rw [chars, h]
  exact surrounds_self _

end Text

namespace Payload

variable {t : Text} {next : Nat} {c : Conversion}

theorem convert_text_int_iff : (Payload.text t).convert next .int = some c ↔
    ∃ n, t.SaysInt n ∧ c = ⟨.int n, Conversion.lossyCost, next⟩ := by
  have hconvert : (Payload.text t).convert next .int =
      (Decimal.readInt64? (Text.trim t.chars)).bind fun n => Conversion.lossy next (.int n) := rfl
  simp only [hconvert, Option.bind_eq_some_iff, Text.readInt64?_trim_iff, Conversion.lossy,
    Option.some.injEq,
    eq_comm (b := c)]

theorem convert_text_bool_iff : (Payload.text t).convert next .bool = some c ↔
    ∃ b, t.SaysBool b ∧ c = ⟨.bool b, Conversion.lossyCost, next⟩ := by
  have hconvert : (Payload.text t).convert next .bool =
      (Text.readBool? (Text.trim t.chars)).bind fun b => Conversion.lossy next (.bool b) := rfl
  simp only [hconvert, Option.bind_eq_some_iff, Text.readBool?_trim_iff, Conversion.lossy,
    Option.some.injEq,
    eq_comm (b := c)]

/-- Converted to a string, the payload is a text that converts back to it, and `to_string` gives the
same text. -/
def SurvivesText (p : Payload) (declared : DeclaredType) (w : World) (depth : Nat) : Prop :=
  ∃ u c, p.convert w.next .string = some c ∧ c.payload = .text u ∧
    (∀ next, ((Payload.text u).convert next declared).map (·.payload) = some p) ∧
    ∃ v w', World.callNamed (depth + 1) w (w.box p).1 "to_string" [] = some (.text v, w') ∧
      v.content = u.content

theorem survivesText_int (n : Int64) (w : World) (depth : Nat) :
    (Payload.int n).SurvivesText .int w depth := by
  refine ⟨⟨w.next, Decimal.intText n.toInt⟩, _, rfl, rfl, fun next => ?_, ?_⟩
  · rw [convert_text_int_iff.2 ⟨n, Text.saysInt_of_content rfl, rfl⟩]
    rfl
  · have hs : BuiltinKind.instanceMethod "to_string" [] .string (.number .toText) ∈
        BuiltinKind.number.registration.methods := by
          simp [BuiltinKind.registration, BuiltinKind.numberMethods]
    have hkind : (Value.int n).builtinKind? = some .number := rfl
    exact ⟨_, _, World.callNamed_method hkind hs rfl rfl rfl depth, rfl⟩

theorem survivesText_bool (b : Bool) (w : World) (depth : Nat) :
    (Payload.bool b).SurvivesText .bool w depth := by
  refine ⟨⟨w.next, boolText b⟩, _, rfl, rfl, fun next => ?_, ?_⟩
  · rw [convert_text_bool_iff.2 ⟨b, Text.saysBool_of_content rfl, rfl⟩]
    rfl
  · have hs : BuiltinKind.instanceMethod "to_string" [] .string .boolToText ∈
        BuiltinKind.bool.registration.methods := by
          simp [BuiltinKind.registration, BuiltinKind.boolMethods]
    have hkind : (Value.bool b).builtinKind? = some .bool := rfl
    exact ⟨_, _, World.callNamed_method hkind hs rfl rfl rfl depth, String.ofList_toList⟩

end Payload

namespace Value

@[simp] theorem payload_text (next : Nat) (t : Text) : (Value.text t).payload next =
    (.text t, next) := rfl

@[simp] theorem payload_int (next : Nat) (n : Int64) : (Value.int n).payload next =
    (.int n, next) := rfl

end Value

section Keys

variable {w : World} {d : DictRef} {t : Text} {n : Int64}

theorem DictRef.key?_of_saysInt (hd : d.key = .int) (ht : t.SaysInt n) (next : Nat) :
    d.key? next (.text t) = some (.int n, next) := by
  rw [key?, hd, Payload.convert_text_int_iff.2 ⟨n, ht, rfl⟩]
  rfl

theorem DictRef.key?_int (hd : d.key = .int) (n : Int64) (next : Nat) :
    d.key? next (.int n) = some (.int n, next) := by
  rw [key?, hd]
  rfl

namespace World

theorem find?_of_saysInt (hd : d.key = .int) (ht : t.SaysInt n) (w : World) :
    d.find? w (.text t) = d.find? w (.int n) := by
  rw [DictRef.find?, DictRef.find?, DictRef.key?_of_saysInt hd ht, DictRef.key?_int hd]

theorem setAt_of_saysInt (hd : d.key = .int) (ht : t.SaysInt n) (w : World) (item : Value) :
    w.setAt (.dict d) (.text t) item = w.setAt (.dict d) (.int n) item := by
  simp only [setAt, setEntry?, Value.payload_text, Value.payload_int, DictRef.key?_of_saysInt hd ht,
    DictRef.key?_int hd]
  rfl

theorem getAt_of_key? {v : Value} {k : Key} {i : Nat} (hv : v.isError = false)
    (hk : d.key? (v.payload w.next).2 (v.payload w.next).1 = some (k, i)) :
    w.getAt (.dict d) v = w.readAs v ((w.entries d).get? k) := by
  simp only [getAt, getAt?, getEntry, hv, Bool.false_eq_true, if_false, DictRef.readKey?, hk,
    Option.bind_some]
  cases (w.entries d).get? k <;> rfl

theorem callNamed_of_saysInt (hd : d.key = .int) (ht : t.SaysInt n) (w : World) (depth : Nat) :
    callNamed (depth + 1) w (.dict d) "contains_key" [.text t] =
        callNamed (depth + 1) w (.dict d) "contains_key" [.int n] ∧
      callNamed (depth + 1) w (.dict d) "remove" [.text t] = callNamed (depth + 1) w
        (.dict d) "remove" [.int n] ∧
      ∀ others : List Value, others.length ≤ 1 →
        callNamed (depth + 1) w (.dict d) "get" (.text t :: others) =
        callNamed (depth + 1) w (.dict d) "get" (.int n :: others) := by
  refine ⟨?_, ?_, fun others hlength => ?_⟩
  · rw [callNamed_containsKey w d rfl, callNamed_containsKey w d rfl]
    simp only [Value.payload_text, Value.payload_int, find?_of_saysInt hd ht]
  · rw [callNamed_remove w d rfl, callNamed_remove w d rfl]
    simp only [Value.payload_text, Value.payload_int, DictRef.key?_of_saysInt hd ht,
      DictRef.key?_int hd]
  · have htextFirst : firstError? (.text t :: others) = firstError? others := rfl
    have hintFirst : firstError? (.int n :: others) = firstError? others := rfl
    cases he : firstError? others with
    | none =>
      rw [callNamed_get w d (htextFirst.trans he) hlength,
        callNamed_get w d (hintFirst.trans he) hlength]
      simp only [Value.payload_text, Value.payload_int, find?_of_saysInt hd ht]
    | some e =>
      have hs : DictMethod.get.signature ∈ BuiltinKind.dictMethods := DictMethod.get.signature_mem
      have htextCall := w.callNamed_error_argument d hs (htextFirst.trans he) depth
      exact htextCall.trans (w.callNamed_error_argument d hs (hintFirst.trans he) depth).symm

end World

end Keys

open World in
/-- An integer and a truth value convert to a text and back, and `to_string` gives the same text. A
text converts to an integer when it says one, a numeral within the range with white space around it,
and to a truth value when it is the word of one in any case. In a dictionary of integer keys a text
that says an integer, as its decimals do, stands for it: writing, finding and removing by it are the
same, and reading differs only in the key that a miss tells of. -/
theorem scalars_survive_text (w : World) (depth : Nat) :
    (∀ n : Int64, (Payload.int n).SurvivesText .int w depth) ∧
    (∀ b : Bool, (Payload.bool b).SurvivesText .bool w depth) ∧
    (∀ (t : Text) (next : Nat) (c : Conversion), (Payload.text t).convert next .int = some c ↔
      ∃ n, t.SaysInt n ∧ c = ⟨.int n, Conversion.lossyCost, next⟩) ∧
    (∀ (t : Text) (next : Nat) (c : Conversion), (Payload.text t).convert next .bool = some c ↔
      ∃ b, t.SaysBool b ∧ c = ⟨.bool b, Conversion.lossyCost, next⟩) ∧
    (∀ (t : Text) (n : Int64), t.content = Decimal.intText n.toInt → t.SaysInt n) ∧
    ∀ (d : DictRef) (t : Text) (n : Int64), d.key = .int → t.SaysInt n →
      (∀ item : Value, w.setAt (.dict d) (.text t) item = w.setAt (.dict d) (.int n) item) ∧
      callNamed (depth + 1) w (.dict d) "contains_key" [.text t] =
        callNamed (depth + 1) w (.dict d) "contains_key" [.int n] ∧
      callNamed (depth + 1) w (.dict d) "remove" [.text t] = callNamed (depth + 1) w
        (.dict d) "remove" [.int n] ∧
      (∀ others : List Value, others.length ≤ 1 →
        callNamed (depth + 1) w (.dict d) "get" (.text t :: others) =
        callNamed (depth + 1) w (.dict d) "get" (.int n :: others)) ∧
      w.getAt (.dict d) (.text t) = w.readAs (.text t) ((w.entries d).get? (.int n)) ∧
      w.getAt (.dict d) (.int n) = w.readAs (.int n) ((w.entries d).get? (.int n)) := by
  refine ⟨fun n => Payload.survivesText_int n w depth, fun b => Payload.survivesText_bool b w depth,
    fun _ _ _ => Payload.convert_text_int_iff, fun _ _ _ => Payload.convert_text_bool_iff,
    fun _ _ => Text.saysInt_of_content, fun d t n hd ht => ?_⟩
  obtain ⟨hcontains, hremove, hget⟩ := callNamed_of_saysInt hd ht w depth
  have hreadText : w.getAt (.dict d) (.text t) = w.readAs (.text t) ((w.entries d).get? (.int n)) :=
    getAt_of_key? rfl (DictRef.key?_of_saysInt hd ht w.next)
  have hreadInt : w.getAt (.dict d) (.int n) = w.readAs (.int n) ((w.entries d).get? (.int n)) :=
    getAt_of_key? rfl (DictRef.key?_int hd n w.next)
  exact ⟨setAt_of_saysInt hd ht w, hcontains, hremove, hget, hreadText, hreadInt⟩

open World in
/-- The sign, the zero and the blanks do not matter. -/
theorem scalars_survive_text_padded :
    let made := newUntypedDict [(.int 3, .bool true)] default
    let t : Text := ⟨9, " +03\n"⟩
    made.1.key = .int ∧ t.SaysInt 3 ∧
      (Payload.text t).convert 0 .int = some ⟨.int 3, Conversion.lossyCost, 0⟩ ∧
      made.2.getAt (.dict made.1) (.text t) = (.bool true, made.2) ∧
      callNamed 1 made.2 (.dict made.1) "remove" [.text t] =
        callNamed 1 made.2 (.dict made.1) "remove" [.int 3] := by
  intro made t
  have hkey : made.1.key = .int := rfl
  have hnumeral : Decimal.Numeral ['+', '0', '3'] (3 : Int64).toInt :=
    .plus (Decimal.digits_iff.2 ⟨nofun, rfl⟩)
  have hsays : t.SaysInt 3 :=
    ⟨_, ⟨[' '], ['\n'], by simp [t, Text.chars], by simp [Text.isBlank], by simp [Text.isBlank]⟩,
      hnumeral⟩
  obtain ⟨-, -, hint, -, -, hdict⟩ := scalars_survive_text made.2 0
  obtain ⟨-, -, hremove, -, hread, -⟩ := hdict made.1 t 3 hkey hsays
  exact ⟨hkey, hsays, (hint t 0 _).2 ⟨3, hsays, rfl⟩, hread, hremove⟩

end LateBound
