import LateBound.Proofs.BuiltinRefusal
/-! Calls of the methods of a text, each told by what it makes of the characters. Texts come back as
new texts, and the parts of one in a new list. -/
namespace LateBound

namespace TextMethod

def signature : TextMethod → Signature
  | .toUpper => BuiltinKind.instanceMethod "to_upper" [] .string (.string .toUpper)
  | .toLower => BuiltinKind.instanceMethod "to_lower" [] .string (.string .toLower)
  | .trim => BuiltinKind.instanceMethod "trim" [] .string (.string .trim)
  | .contains =>
    BuiltinKind.instanceMethod "contains" [{ name := "needle", type := .string }]
      .bool (.string .contains)
  | .startsWith =>
    BuiltinKind.instanceMethod "starts_with" [{ name := "prefix", type := .string }]
      .bool (.string .startsWith)
  | .endsWith =>
    BuiltinKind.instanceMethod "ends_with" [{ name := "suffix", type := .string }]
      .bool (.string .endsWith)
  | .indexOf =>
    BuiltinKind.instanceMethod "index_of" [{ name := "needle", type := .string }] .int
      (.string .indexOf)
  | .substring =>
    BuiltinKind.instanceMethod "substring"
      [{ name := "start", type := .int },
        { name := "length", type := .int, default := some (.int (-1)) }]
      .string (.string .substring)
  | .split =>
    BuiltinKind.instanceMethod "split" [{ name := "separator", type := .string }]
      (.list .string) (.string .split)
  | .replace =>
    BuiltinKind.instanceMethod "replace"
      [{ name := "from", type := .string }, { name := "to", type := .string }]
      .string (.string .replace)

theorem signature_mem (m : TextMethod) : m.signature ∈ BuiltinKind.textMethods := by
  cases m <;> simp [signature, BuiltinKind.textMethods]

theorem body_signature (m : TextMethod) : m.signature.body = .builtin (.string m) := by
  cases m <;> rfl

end TextMethod

namespace World

def giveText (s : List Char) (w : World) : Value × World :=
  let (t, w) := w.newText (String.ofList s)
  (.text t, w)

section Calls

variable (w) (t u r : Text) (depth : Nat)

theorem callNamed_textMethod (m : TextMethod) (args : List Value)
    (ps : List Payload) {cost : UInt32}
    (hargs : firstError? args = none)
    (hb : m.signature.bind (Value.payloads w.next args).2 (Value.payloads w.next args).1 =
      .ok ⟨ps, cost, w.next⟩)
    (depth : Nat) :
    callNamed (depth + 1) w (.text t) m.signature.name args =
      match m.run t ps w with
      | .ok (p, w') => some (Signature.finish m.signature.name m.signature.returnsVoid (.ok p) w')
      | .error message => some (.error (.unknown s!"{m.signature.name}: {message}"), w) :=
  callNamed_method rfl m.signature_mem m.body_signature hargs hb depth

theorem textCall_contains : callNamed (depth + 1) w (.text t) "contains" [.text u] =
    some (.bool (Text.indexOf? u.chars t.chars).isSome, w) :=
  callNamed_textMethod w t .contains [.text u] [.text u] rfl rfl depth

theorem textCall_startsWith : callNamed (depth + 1) w (.text t) "starts_with" [.text u] =
    some (.bool (u.chars.isPrefixOf t.chars), w) :=
  callNamed_textMethod w t .startsWith [.text u] [.text u] rfl rfl depth

theorem textCall_endsWith : callNamed (depth + 1) w (.text t) "ends_with" [.text u] =
    some (.bool (u.chars.isSuffixOf t.chars), w) :=
  callNamed_textMethod w t .endsWith [.text u] [.text u] rfl rfl depth

theorem textCall_indexOf : callNamed (depth + 1) w (.text t) "index_of" [.text u] =
    some (w.box (positionPayload (Text.indexOf? u.chars t.chars))) :=
  callNamed_textMethod w t .indexOf [.text u] [.text u] rfl rfl depth

theorem textCall_replace : callNamed (depth + 1) w (.text t) "replace" [.text u, .text r] =
    some (w.giveText (Text.replace u.chars r.chars t.chars)) :=
  callNamed_textMethod w t .replace [.text u, .text r] [.text u, .text r] rfl rfl depth

theorem textCall_split : callNamed (depth + 1) w (.text t) "split" [.text u] =
    let (p, w') := (HostKind.sequence .string).write
      ((Text.split u.chars t.chars).map String.ofList) w
    some (w'.box p) :=
  callNamed_textMethod w t .split [.text u] [.text u] rfl rfl depth

def afterCut (w : World) : Except String (List Char) → Value × World
  | .ok s => w.giveText s
  | .error message => (.error (.unknown s!"substring: {message}"), w)

theorem textCall_substring (a b : Int64) :
    callNamed (depth + 1) w (.text t) "substring" [.int a, .int b] =
      some (w.afterCut (TextMethod.cut t.chars a.toInt b.toInt)) := by
  refine (callNamed_textMethod w t .substring [.int a, .int b] [.int a, .int b] rfl rfl depth).trans
    ?_
  rw [TextMethod.run_substring]
  cases TextMethod.cut t.chars a.toInt b.toInt <;> rfl

theorem textCall_substring_default (a : Int64) :
    callNamed (depth + 1) w (.text t) "substring" [.int a] =
      some (w.afterCut (TextMethod.cut t.chars a.toInt (-1))) := by
  refine (callNamed_textMethod w t .substring [.int a] [.int a, .int (-1)] rfl rfl depth).trans ?_
  rw [TextMethod.run_substring]
  have hdefault : (-1 : Int64).toInt = -1 := by decide
  rw [hdefault]
  cases TextMethod.cut t.chars a.toInt (-1) <;> rfl

end Calls

end World

end LateBound
