import Mathlib.Data.Nat.Find
import Mathlib.Order.Bounds.Basic
import LateBound.Proofs.BuiltinReading
import LateBound.Proofs.ContainerTyping
/-! What the methods of the built-in kinds refuse. Apart from a null in the place of a text, a text
refuses to be cut, and a list to be written, outside of its range, and a list refuses items that do
not convert to its element type. -/
namespace LateBound

namespace BuiltinMethod

/-- The messages that a method refuses with: of the first null where it reads a text, of a cut of a
text or an index of a list out of range, and of an item that a list cannot store. -/
inductive Refuses (w : World) : BuiltinMethod → Value → List Payload → String → Prop
  | nullText {m : BuiltinMethod} {receiver : Value} {args : List Payload} {i : Nat}
      (hi : IsLeast {i | m.NullText args i} i) :
      Refuses w m receiver args (HostKind.string.unexpectedArgument i .null)
  | start {t : Text} {a b : Int64} (ha : ¬ (0 ≤ a.toInt ∧ a.toInt ≤ t.chars.length)) :
      Refuses w (.string .substring) (.text t) [.int a, .int b]
        (TextMethod.outOfRange a.toInt t.chars.length)
  | length {t : Text} {a b : Int64} (ha : 0 ≤ a.toInt ∧ a.toInt ≤ t.chars.length) (hb : 0 ≤ b.toInt)
      (hend : t.chars.length < a.toInt + b.toInt) :
      Refuses w (.string .substring) (.text t) [.int a, .int b] (TextMethod.pastEnd b.toInt)
  | addItem {l : ListRef} {item : Payload} {message : String}
      (hitem : l.storable w.next item = .error message) :
      Refuses w (.list .add) (.list l) [item] message
  | insertItem {l : ListRef} {k : Int64} {item : Payload} {message : String}
      (hitem : l.storable w.next item = .error message) :
      Refuses w (.list .insert) (.list l) [.int k, item] message
  | insertAt {l : ListRef} {k : Int64} {item : Payload} {c : Conversion}
      (hitem : l.storable w.next item = .ok c)
      (hk : ¬ (0 ≤ k.toInt ∧ k.toInt ≤ (w.items l).length)) :
      Refuses w (.list .insert) (.list l) [.int k, item]
      (ListMethod.outOfRange k.toInt (w.items l).length)
  | removeAt {l : ListRef} {k : Int64} (hk : ¬ (0 ≤ k.toInt ∧ k.toInt < (w.items l).length)) :
      Refuses w (.list .removeAt) (.list l) [.int k]
      (ListMethod.outOfRange k.toInt (w.items l).length)

def isPartial : BuiltinMethod → Bool
  | .string .substring | .list .add | .list .insert | .list .removeAt => true
  | _ => false

variable {m : BuiltinMethod} {args : List Payload} {receiver : Value} {w : World} {message : String}

theorem refuses_iff (hm : m.isPartial = false) :
    m.Refuses w receiver args message ↔ ∃ i, IsLeast {i | m.NullText args i} i ∧
      message = HostKind.string.unexpectedArgument i .null := by
  constructor
  · intro hrefuses
    cases hrefuses with
    | nullText hi => exact ⟨_, hi, rfl⟩
    | _ => contradiction
  · rintro ⟨i, hi, rfl⟩
    exact .nullText hi

theorem not_refuses (hm : m.isPartial = false) (h : .string ∉ m.reads) :
    ¬ m.Refuses w receiver args message := by
  rw [refuses_iff hm]
  rintro ⟨i, hi, -⟩
  exact not_nullText h hi.1

end BuiltinMethod

theorem TextMethod.cut_eq_error_iff {s : List Char} {start length : Int} {message : String} :
    cut s start length = .error message ↔
      ¬ (0 ≤ start ∧ start ≤ s.length) ∧ message = outOfRange start s.length ∨
        (0 ≤ start ∧ start ≤ s.length) ∧ 0 ≤ length ∧ s.length < start + length ∧
        message = pastEnd length := by
  by_cases hstart : 0 ≤ start ∧ start ≤ s.length
  · by_cases hlength : length < 0
    · simp [cut, hstart, hlength, Int.not_le.2 hlength]
    · have hpositive : 0 ≤ length := Int.not_lt.1 hlength
      by_cases hend : start + length ≤ s.length
      · simp [cut, hstart, hlength, hend, Int.not_lt.2 hend]
      · simp [cut, hstart, hlength, hend, hpositive, Int.not_le.1 hend, eq_comm]
  · simp [cut, hstart, eq_comm]

namespace TextMethod

variable {m : TextMethod} {args : List Payload}

theorem run_of_nullText {i : Nat} (h : (BuiltinMethod.string m).Fits args)
    (hi : IsLeast {i | (BuiltinMethod.string m).NullText args i} i) (t : Text) (w : World) :
    m.run t args w = .error (HostKind.string.unexpectedArgument i .null) := by
  obtain ⟨⟨hread, hnull⟩, hleast⟩ := hi
  cases m with
  | toUpper | toLower | trim => contradiction
  | contains | startsWith | endsWith | indexOf | split =>
    cases h with
    | cons _ hrest =>
      cases hrest
      cases i with
      | zero =>
        obtain rfl := Option.some.inj hnull
        rfl
      | succ i => contradiction
  | substring =>
    rcases i with _ | _ | i <;> contradiction
  | replace =>
    cases h with
    | cons hp hrest =>
      cases hrest with
      | cons _ hrest =>
        cases hrest
        rcases i with _ | _ | i
        · obtain rfl := Option.some.inj hnull
          rfl
        · obtain rfl := Option.some.inj hnull
          rcases Payload.Settled.eq_null_or_text hp with rfl | ⟨u, rfl⟩
          · exact absurd (hleast ⟨rfl, rfl⟩) (Nat.not_succ_le_zero 0)
          · rfl
        · contradiction

/-- Without such a null, only a substring can be refused. -/
theorem exists_run (h : (BuiltinMethod.string m).Fits args) (hm : m ≠ .substring)
    (hn : ∀ i, ¬ (BuiltinMethod.string m).NullText args i) (t : Text) (w : World) :
    ∃ r, m.run t args w = .ok r := by
  cases m with
  | toUpper | toLower | trim => exact ⟨_, rfl⟩
  | contains | startsWith | endsWith | indexOf | split =>
    cases h with
    | cons hp hrest =>
      cases hrest
      rcases Payload.Settled.eq_null_or_text hp with rfl | ⟨u, rfl⟩
      · exact absurd ⟨rfl, rfl⟩ (hn 0)
      · exact ⟨_, rfl⟩
  | substring => contradiction
  | replace =>
    cases h with
    | cons hp hrest =>
      cases hrest with
      | cons hq hrest =>
        cases hrest
        rcases Payload.Settled.eq_null_or_text hp with rfl | ⟨u, rfl⟩
        · exact absurd ⟨rfl, rfl⟩ (hn 0)
        · rcases Payload.Settled.eq_null_or_text hq with rfl | ⟨u', rfl⟩
          · exact absurd ⟨rfl, rfl⟩ (hn 1)
          · exact ⟨_, rfl⟩

theorem run_substring (t : Text) (a b : Int64) (w : World) :
    substring.run t [.int a, .int b] w = (cut t.chars a.toInt b.toInt).map w.textResult := by
  have hfirst : ([.int a, .int b] : List Payload)[0]? = some (.int a) := rfl
  have hsecond : ([.int a, .int b] : List Payload)[1]? = some (.int b) := rfl
  obtain ⟨ha, hstart⟩ := HostKind.argument_word hfirst w
  obtain ⟨hb, hlength⟩ := HostKind.argument_word hsecond w
  rw [run, hstart, hlength]
  dsimp only [bind, Except.bind]
  cases cut t.chars a.toInt b.toInt <;> rfl

theorem run_substring_eq_error_iff (h : (BuiltinMethod.string .substring).Fits args) (t : Text)
    (w : World)
    {message : String} : substring.run t args w = .error message ↔
      BuiltinMethod.Refuses w (.string .substring) (.text t) args message := by
  cases h with
  | cons ha hrest =>
    cases hrest with
    | cons hb hrest =>
      cases hrest
      obtain ⟨a, rfl⟩ := Payload.Settled.eq_int ha
      obtain ⟨b, rfl⟩ := Payload.Settled.eq_int hb
      have hrun : substring.run t [.int a, .int b] w = .error message ↔
          cut t.chars a.toInt b.toInt = .error message := by
        rw [run_substring]
        cases cut t.chars a.toInt b.toInt <;> simp [Except.map]
      rw [hrun, cut_eq_error_iff]
      constructor
      · rintro (⟨hstart, rfl⟩ | ⟨hstart, hlength, hend, rfl⟩)
        · exact .start hstart
        · exact .length hstart hlength hend
      · intro hrefuses
        cases hrefuses with
        | nullText hi => exact absurd hi.1 (BuiltinMethod.not_nullText (by decide))
        | start hstart => exact .inl ⟨hstart, rfl⟩
        | length hstart hlength hend => exact .inr ⟨hstart, hlength, hend, rfl⟩

theorem run_eq_error_iff (h : (BuiltinMethod.string m).Fits args) (t : Text)
    (w : World) {message : String} :
    m.run t args w = .error message ↔
      BuiltinMethod.Refuses w (.string m) (.text t) args message := by
  by_cases hm : m = .substring
  · subst hm
    exact run_substring_eq_error_iff h t w
  · have htotal : (BuiltinMethod.string m).isPartial = false := by
      cases m <;> first | rfl | contradiction
    rw [BuiltinMethod.refuses_iff htotal]
    by_cases hnull : ∃ i, (BuiltinMethod.string m).NullText args i
    · have hleast : IsLeast {i | (BuiltinMethod.string m).NullText args i} (Nat.find hnull) :=
        ⟨Nat.find_spec hnull, fun i hi => Nat.find_min' hnull hi⟩
      rw [run_of_nullText h hleast, Except.error.injEq]
      constructor
      · rintro rfl
        exact ⟨_, hleast, rfl⟩
      · rintro ⟨i, hi, rfl⟩
        rw [hi.unique hleast]
    · obtain ⟨r, hrun⟩ := exists_run h hm (not_exists.1 hnull) t w
      rw [hrun]
      refine iff_of_false nofun ?_
      rintro ⟨i, hi, -⟩
      exact hnull ⟨i, hi.1⟩

end TextMethod

namespace World

theorem insertItem?_eq_none_iff {w : World} {l : ListRef} {i : Int} {p : Payload} :
    w.insertItem? l i p = none ↔ ¬ (0 ≤ i ∧ i ≤ (w.items l).length) := by
  unfold insertItem?
  split <;> simp_all

theorem removeItem?_eq_none_iff {w : World} {l : ListRef} {i : Int} :
    w.removeItem? l i = none ↔ ¬ (0 ≤ i ∧ i < (w.items l).length) := by
  unfold removeItem?
  split
  · rename_i hi
    rw [Option.map_eq_none_iff, List.getElem?_eq_none_iff]
    omega
  · simp_all

end World

namespace ListMethod

variable {m : ListMethod} {args : List Payload} {message : String}

theorem run_add_eq_error_iff (l : ListRef) (w : World) (item : Payload) :
    add.run l [item] w = .error message ↔ l.storable w.next item = .error message := by
  have hrun : add.run l [item] w =
      (l.storable w.next item).bind fun c =>
        .ok (.null, { w with next := c.next }.appendItem l c.payload) := rfl
  rw [hrun]
  cases l.storable w.next item <;> simp [Except.bind]

theorem run_insert_eq_error_iff (l : ListRef) (w : World) (k : Int64) (item : Payload) :
    insert.run l [.int k, item] w = .error message ↔
      l.storable w.next item = .error message ∨
        (∃ c, l.storable w.next item = .ok c) ∧ ¬ (0 ≤ k.toInt ∧ k.toInt ≤ (w.items l).length) ∧
          message = outOfRange k.toInt (w.items l).length := by
  obtain ⟨hk, hindex⟩ := HostKind.argument_int w k [item]
  have hitem : HostKind.payload.argument w [.int k, item] 1 = .ok item := rfl
  rw [run, hindex, hitem]
  dsimp only [bind, Except.bind]
  cases l.storable w.next item with
  | error e => simp
  | ok c =>
    dsimp only
    have hrange : World.insertItem? { w with next := c.next } l k.toInt c.payload = none ↔
        ¬ (0 ≤ k.toInt ∧ k.toInt ≤ (w.items l).length) := World.insertItem?_eq_none_iff
    rw [← hrange]
    cases World.insertItem? { w with next := c.next } l k.toInt c.payload with
    | none => simp [throw, throwThe, MonadExceptOf.throw, eq_comm]
    | some w' => simp [pure, Except.pure]

theorem run_removeAt_eq_error_iff (l : ListRef) (w : World) (k : Int64) :
    removeAt.run l [.int k] w = .error message ↔
      ¬ (0 ≤ k.toInt ∧ k.toInt < (w.items l).length) ∧
      message = outOfRange k.toInt (w.items l).length := by
  obtain ⟨hk, hindex⟩ := HostKind.argument_int w k []
  rw [run, hindex, ← World.removeItem?_eq_none_iff]
  dsimp only [bind, Except.bind]
  cases w.removeItem? l k.toInt with
  | none => simp [throw, throwThe, MonadExceptOf.throw, eq_comm]
  | some r => simp [pure, Except.pure]

theorem run_eq_error_iff (h : (BuiltinMethod.list m).Fits args) (l : ListRef) (w : World) :
    m.run l args w = .error message ↔ BuiltinMethod.Refuses w (.list m) (.list l) args message := by
  have hstrings : .string ∉ (BuiltinMethod.list m).reads := by cases m <;> decide
  cases m with
  | add =>
    cases h with
    | cons _ hrest =>
      cases hrest
      rw [run_add_eq_error_iff]
      refine ⟨.addItem, fun hrefuses => ?_⟩
      cases hrefuses with
      | nullText hi => exact absurd hi.1 (BuiltinMethod.not_nullText hstrings)
      | addItem hitem => exact hitem
  | insert =>
    cases h with
    | cons hindex hrest =>
      cases hrest with
      | cons _ hrest =>
        cases hrest
        obtain ⟨k, rfl⟩ := Payload.Settled.eq_int hindex
        rw [run_insert_eq_error_iff]
        constructor
        · rintro (hitem | ⟨⟨c, hitem⟩, hk, rfl⟩)
          · exact .insertItem hitem
          · exact .insertAt hitem hk
        · intro hrefuses
          cases hrefuses with
          | nullText hi => exact absurd hi.1 (BuiltinMethod.not_nullText hstrings)
          | insertItem hitem => exact .inl hitem
          | insertAt hitem hk => exact .inr ⟨⟨_, hitem⟩, hk, rfl⟩
  | removeAt =>
    cases h with
    | cons hindex hrest =>
      cases hrest
      obtain ⟨k, rfl⟩ := Payload.Settled.eq_int hindex
      rw [run_removeAt_eq_error_iff]
      constructor
      · rintro ⟨hk, rfl⟩
        exact .removeAt hk
      · intro hrefuses
        cases hrefuses with
        | nullText hi => exact absurd hi.1 (BuiltinMethod.not_nullText hstrings)
        | removeAt hk => exact ⟨hk, rfl⟩
  | contains | indexOf =>
    cases h with
    | cons _ hrest =>
      cases hrest
      exact iff_of_false nofun (BuiltinMethod.not_refuses rfl hstrings)
  | clear => exact iff_of_false nofun (BuiltinMethod.not_refuses rfl hstrings)

end ListMethod

theorem DictMethod.exists_run {m : DictMethod} {args : List Payload}
    (h : (BuiltinMethod.dict m).Fits args)
    (d : DictRef) (w : World) : ∃ r, m.run d args w = .ok r := by
  cases m with
  | containsKey =>
    cases h with
    | cons _ hrest =>
      cases hrest
      exact ⟨_, rfl⟩
  | remove =>
    cases h with
    | @cons p _ _ _ _ hrest =>
      cases hrest
      have hkey : HostKind.payload.argument w [p] 0 = .ok p := rfl
      simp only [run, hkey, bind, Except.bind]
      split <;> exact ⟨_, rfl⟩
  | get =>
    cases h with
    | cons _ hrest =>
      cases hrest with
      | cons _ hrest =>
        cases hrest
        exact ⟨_, rfl⟩
  | clear => exact ⟨_, rfl⟩

namespace BuiltinMethod

variable {m : BuiltinMethod} {args : List Payload} {receiver : Value} {w : World} {message : String}

inductive Of : BuiltinMethod → Value → Prop
  | bool (b : Bool) : Of .boolToText (.bool b)
  | number (m : NumberMethod) (n : Number) : Of (.number m) (.number n)
  | string (m : TextMethod) (t : Text) : Of (.string m) (.text t)
  | list (m : ListMethod) (l : ListRef) : Of (.list m) (.list l)
  | dict (m : DictMethod) (d : DictRef) : Of (.dict m) (.dict d)

theorem of_builtinKind (h : receiver.builtinKind? = some m.kind) : m.Of receiver := by
  cases m <;> cases receiver <;>
    first
    | exact .bool _
    | exact .number _ _
    | exact .string _ _
    | exact .list _ _
    | exact .dict _ _
    | simp [Value.builtinKind?, kind] at h

/-- A method refuses what is listed and nothing else, run on a value of its kind and on arguments of
the types that it reads. -/
theorem run_eq_error_iff (hm : m.Of receiver) (h : m.Fits args) :
    m.run (some receiver) args w = .error message ↔ m.Refuses w receiver args message := by
  cases hm with
  | bool b => exact iff_of_false nofun (not_refuses rfl List.not_mem_nil)
  | number m n => exact iff_of_false nofun (not_refuses rfl List.not_mem_nil)
  | string m t => exact m.run_eq_error_iff h t w
  | list m l => exact m.run_eq_error_iff h l w
  | dict m d =>
    have hstrings : .string ∉ (BuiltinMethod.dict m).reads := by cases m <;> decide
    obtain ⟨r, hrun⟩ := m.exists_run h d w
    have hok : (BuiltinMethod.dict m).run (some (.dict d)) args w = .ok r := hrun
    rw [hok]
    exact iff_of_false nofun (not_refuses rfl hstrings)

end BuiltinMethod

section Result

variable {args : List Payload} {w w' : World} {p : Payload} {v : Value}

theorem NumberMethod.ne_boxed_of_run {m : NumberMethod} {n : Number} (h : m.run n w = (p, w')) :
    p ≠ .boxed v := by
  rintro rfl
  have hp : (m.run n w).1 = .boxed v := congrArg Prod.fst h
  cases m with
  | absolute | round mode => cases n <;> exact nomatch hp
  | toInt | toFloat => exact nomatch hp
  | toText => cases n <;> exact nomatch hp

theorem TextMethod.ne_boxed_of_run {m : TextMethod} {t : Text} (h : m.run t args w = .ok (p, w')) :
    p ≠ .boxed v := by
  rintro rfl
  rcases TextMethod.run_cases h with ⟨-, hscalar⟩ | ⟨s, hs⟩ | ⟨xs, hx⟩
  · exact hscalar
  · exact nomatch congrArg Prod.fst hs
  · exact nomatch congrArg Prod.fst hx

theorem ListMethod.ne_boxed_of_run {m : ListMethod} {l : ListRef}
    (h : m.run l args w = .ok (p, w')) :
    p ≠ .boxed v := by
  rintro rfl
  cases m with
  | add =>
    obtain ⟨item, -, h⟩ := bind_eq_ok_iff.1 h
    obtain ⟨c, -, h⟩ := bind_eq_ok_iff.1 h
    exact nomatch congrArg Prod.fst (Except.ok.inj h)
  | insert =>
    obtain ⟨index, -, h⟩ := bind_eq_ok_iff.1 h
    obtain ⟨item, -, h⟩ := bind_eq_ok_iff.1 h
    obtain ⟨c, -, h⟩ := bind_eq_ok_iff.1 h
    split at h
    · exact nomatch congrArg Prod.fst (Except.ok.inj h)
    · contradiction
  | removeAt =>
    obtain ⟨index, -, h⟩ := bind_eq_ok_iff.1 h
    split at h
    · exact nomatch congrArg Prod.fst (Except.ok.inj h)
    · contradiction
  | contains | indexOf =>
    obtain ⟨item, -, h⟩ := bind_eq_ok_iff.1 h
    exact nomatch congrArg Prod.fst (Except.ok.inj h)
  | clear => exact nomatch congrArg Prod.fst (Except.ok.inj h)

theorem DictMethod.eq_boxed_of_run {m : DictMethod} {d : DictRef}
    (ha : (BuiltinMethod.dict m).Fits args)
    (h : m.run d args w = .ok (.boxed v, w')) :
    m = .get ∧ ∃ key, args.head? = some key ∧ d.find? w key = some (.boxed v) := by
  cases m with
  | containsKey =>
    obtain ⟨key, -, h⟩ := bind_eq_ok_iff.1 h
    exact nomatch congrArg Prod.fst (Except.ok.inj h)
  | remove =>
    obtain ⟨key, -, h⟩ := bind_eq_ok_iff.1 h
    split at h <;> exact nomatch congrArg Prod.fst (Except.ok.inj h)
  | get =>
    cases ha with
    | @cons key _ _ _ _ hrest =>
      cases hrest with
      | @cons fallback _ _ _ hfallback hrest =>
        cases hrest
        refine ⟨rfl, key, rfl, ?_⟩
        have hgiven : (d.find? w key).getD fallback = .boxed v :=
          congrArg Prod.fst (Except.ok.inj h)
        cases hfind : d.find? w key with
        | none =>
          rw [hfind] at hgiven
          exact absurd hgiven (hfallback.bare v)
        | some item =>
          rw [hfind] at hgiven
          exact congrArg some hgiven
  | clear => exact nomatch congrArg Prod.fst (Except.ok.inj h)

end Result

namespace BuiltinMethod

variable {m : BuiltinMethod} {args : List Payload} {receiver : Value} {w : World}

/-- What a method gives is no error, but for an error that a dictionary holds. -/
theorem eq_get_of_run (hm : m.Of receiver) (h : m.Fits args) {p : Payload}
    {w' : World} {e : Failure}
    (hrun : m.run (some receiver) args w = .ok (p, w')) (he : (w'.box p).1 = .error e) :
    m = .dict .get ∧ ∃ d key, receiver = .dict d ∧ args.head? = some key ∧
      d.find? w key = some (.boxed (.error e)) := by
  obtain rfl : p = .boxed (.error e) := by
    cases p with
    | boxed v => exact congrArg Payload.boxed he
    | _ => contradiction
  cases hm with
  | bool b => exact nomatch congrArg Prod.fst (Except.ok.inj hrun)
  | number m n => exact absurd rfl (m.ne_boxed_of_run (Except.ok.inj hrun))
  | string m t => exact absurd rfl (m.ne_boxed_of_run hrun)
  | list m l => exact absurd rfl (m.ne_boxed_of_run hrun)
  | dict m d =>
    obtain ⟨rfl, key, hkey, hfind⟩ := m.eq_boxed_of_run h hrun
    exact ⟨rfl, d, key, rfl, hkey, hfind⟩

end BuiltinMethod

namespace World

variable {w : World} {args : List Value} {receiver : Value} {kind : BuiltinKind}

theorem invoke_of_resolve {g : MethodGroup} {r : Resolution} {m : BuiltinMethod}
    (ht : g.target = some receiver)
    (ho : receiver.object? = none) (hd : BuiltinKind.Declares r.signature m)
    (he : firstError? args = none)
    (hr : Overload.resolve (Value.payloads w.next args).2 (w.overloads g)
      (Value.payloads w.next args).1
      g.qualifiedName = .ok r) (depth : Nat) :
    invoke (depth + 1) (.method g) args w =
      match m.run (some receiver) r.binding.arguments { w with next := r.binding.next } with
      | .ok (p, w') => some (Signature.finish r.signature.name r.signature.returnsVoid (.ok p) w')
      | .error message =>
        some (.error (.unknown s!"{r.signature.name}: {message}"),
          { w with next := r.binding.next }) := by
  rw [invoke_succ, start, startOverloads_of_ok he hr, ht,
    Signature.start_of_method hd.isStatic_eq ho,
    Start.run_body_of_method ho, hd.body_eq, Body.run]
  cases m.run (some receiver) r.binding.arguments { w with next := r.binding.next } <;> rfl

end World

open World in
/-- When overload resolution chooses a method of a built-in kind, its body reads all its arguments,
but for a null or void given where it reads a text. Such a null, a cut or an index out of range and
an item that does not convert are what the call makes an error of. Otherwise it gives no error,
unless `get` finds one in the dictionary. -/
theorem builtin_refusal {receiver : Value} {kind : BuiltinKind} {call : Caller} {w₀ w₁ w : World}
    {name : String} {g : MethodGroup} {args : List Value} {r : Resolution}
    (hk : receiver.builtinKind? = some kind)
    (hg : w₀.getNamed call receiver name = some (.method g, w₁)) (he : firstError? args = none)
    (hr : Overload.resolve (Value.payloads w.next args).2 (w.overloads g)
      (Value.payloads w.next args).1
      g.qualifiedName = .ok r) (depth : Nat) :
    let bound := r.binding.arguments
    let w' : World := { w with next := r.binding.next }
    ∃ m, r.signature.body = .builtin m ∧
      (∀ (i : Nat) (k : HostKind), m.reads[i]? = some k → ((∃ x, k.argument w' bound i = .ok x) ↔
        ¬ (k = .string ∧ (args[i]? = some .null ∨ args[i]? = some .void)))) ∧
      (∀ message, m.Refuses w' receiver bound message → invoke (depth + 1) (.method g) args w =
        some (.error (.unknown s!"{r.signature.name}: {message}"), w')) ∧
      ((∀ message, ¬ m.Refuses w' receiver bound message) →
        ∃ v w'', invoke (depth + 1) (.method g) args w = some (v, w'') ∧
          ∀ e, v = .error e → m = .dict .get ∧ ∃ d key, receiver = .dict d ∧
            bound.head? = some key ∧
            d.find? w' key = some (.boxed (.error e))) := by
  intro bound w'
  obtain ⟨hd, hb, -⟩ := (Overload.resolve_ok_iff_least.1 hr).1
  obtain ⟨htarget, m, hkind, hdeclares⟩ := declares_of_getNamed hk hg (List.mem_of_getElem? hd)
  have hof : m.Of receiver := BuiltinMethod.of_builtinKind (by rw [hk, hkind])
  have hfits : m.Fits bound := hdeclares.fits hb
  have hinvoke := invoke_of_resolve htarget (Value.object?_of_builtinKind hk) hdeclares he hr depth
  refine ⟨m, hdeclares.body_eq, fun i k hread => ?_, fun message hrefuses => ?_, fun hno => ?_⟩
  · rw [hfits.exists_argument_iff hread,
      hdeclares.nullText_iff hb (Value.payloads_ne_boxed w.next args),
      payloads_null_iff he, hread, Option.some.injEq]
  · rw [hinvoke, (BuiltinMethod.run_eq_error_iff hof hfits).2 hrefuses]
  · cases hrun : m.run (some receiver) bound w' with
    | error message =>
      exact absurd ((BuiltinMethod.run_eq_error_iff hof hfits).1 hrun) (hno message)
    | ok result =>
      obtain ⟨p, w''⟩ := result
      let ended := Signature.finish r.signature.name r.signature.returnsVoid (.ok p) w''
      have hended : ended = if r.signature.returnsVoid then (.void, w'') else w''.box p := rfl
      rw [hrun] at hinvoke
      refine ⟨ended.1, ended.2, hinvoke, fun e hv => ?_⟩
      rw [hended] at hv
      split at hv
      · contradiction
      · exact BuiltinMethod.eq_get_of_run hof hfits hrun hv

open World in
/-- A text is read as the index, and lies beyond a list of one. -/
theorem builtin_refusal_insert :
    let made := newUntypedList [.int 7] default
    let g : MethodGroup := .bound (.list made.1) (.builtin .list) "insert" [0]
    (∀ call, made.2.getNamed call (.list made.1) "insert" = some (.method g, made.2)) ∧
      invoke 1 (.method g) [.text ⟨9, "5"⟩, .int 1] made.2 =
        some (.error (.unknown "insert: index 5 out of range for length 1"), made.2) := by
  intro made g
  have hg (call : Caller) : made.2.getNamed call (.list made.1) "insert" =
    some (.method g, made.2) := rfl
  let args : List Value := [.text ⟨9, "5"⟩, .int 1]
  let r : Resolution := ⟨0, ListMethod.insert.signature, ⟨[.int 5, .int 1], 3, 1⟩, 0⟩
  have hargs : firstError? args = none := rfl
  have hr : Overload.resolve (Value.payloads made.2.next args).2 (made.2.overloads g)
      (Value.payloads made.2.next args).1 g.qualifiedName = .ok r := rfl
  obtain ⟨m, hm, -, hrefuses, -⟩ := builtin_refusal rfl (hg (evaluator 0)) hargs hr 0
  obtain rfl := Body.builtin.inj hm
  have hmessage : "insert" ++ ": " ++ ListMethod.outOfRange (5 : Int64).toInt 1 =
      "insert: index 5 out of range for length 1" := by decide
  have hcall : invoke 1 (.method g) args made.2 =
      some (.error (.unknown ("insert" ++ ": " ++ ListMethod.outOfRange (5 : Int64).toInt 1)),
        made.2) :=
    hrefuses _ (.insertAt rfl (by decide))
  rw [hmessage] at hcall
  exact ⟨hg, hcall⟩

open World in
/-- Null is chosen for a text, which the method then cannot read. -/
theorem null_text_refused :
    let t : Value := .text ⟨9, "abc"⟩
    let g : MethodGroup := .bound t (.builtin .string) "contains" [0]
    (∀ call, (default : World).getNamed call t "contains" = some (.method g, default)) ∧
      (∃ r, Overload.resolve 0 ((default : World).overloads g) [.null] g.qualifiedName = .ok r ∧
        HostKind.string.argument default r.binding.arguments 0 =
          .error "argument 0 is null, expected string") ∧
      invoke 1 (.method g) [.null] default =
        some (.error (.unknown "contains: argument 0 is null, expected string"), default) :=
  ⟨fun _ => rfl, ⟨_, rfl, rfl⟩, rfl⟩

end LateBound
