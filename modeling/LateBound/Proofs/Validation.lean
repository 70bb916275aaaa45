import LateBound.Proofs.Declaration
/-! Which declarations of a host type are accepted, and what is reported of the others. The checks
come to three conditions on what was declared, whatever the order of the parts; the report names the
first offender, names before defaults. In an accepted type the parameters that must be given are
those without a default. -/
namespace LateBound

namespace Parameter

def Trailing (ps : List Parameter) : Prop :=
  ps.Pairwise fun p q => p.default.isSome → q.default.isSome

/-- The first parameter without a default that follows one with a default, said by what stands
before it. -/
def FirstMisplaced (ps : List Parameter) (p : Parameter) : Prop :=
  ∃ before after, ps = before ++ p :: after ∧ Trailing before ∧ (∃ q ∈ before, q.default.isSome) ∧
    p.default = none

def required (ps : List Parameter) : List Parameter := ps.filter (·.default.isNone)

variable {ps : List Parameter} {p : Parameter}

theorem isSome_default_iff (p : Parameter) :
    p.default.isSome = true ↔ ¬ p.default.isNone = true := by
  cases p.default <;> simp

theorem trailing_iff : Trailing ps ↔ misplaced? ps = none := by
  induction ps with
  | nil => exact iff_of_true List.Pairwise.nil rfl
  | cons p rest ih =>
    rw [Trailing, List.pairwise_cons, misplaced?]
    by_cases hp : p.default.isSome
    · simp only [hp, if_true, true_implies, List.find?_eq_none, ← isSome_default_iff]
      exact ⟨And.left, fun h => ⟨h, List.pairwise_of_forall_mem_list fun _ _ q hq _ => h q hq⟩⟩
    · rw [if_neg hp, ← ih]
      exact ⟨And.right, fun h => ⟨fun _ _ hsome => absurd hsome hp, h⟩⟩

theorem not_firstMisplaced_nil : ¬ FirstMisplaced [] p := by
  rintro ⟨before, after, h, -⟩
  simp at h

theorem firstMisplaced_cons_of_isSome {q : Parameter} (hq : q.default.isSome = true) :
    FirstMisplaced (q :: ps) p ↔ ps.find? (·.default.isNone) = some p := by
  rw [List.find?_eq_some_iff_append]
  constructor
  · rintro ⟨before, after, hsplit, htrailing, hsome, hnone⟩
    cases before with
    | nil => exact absurd hsome (by simp)
    | cons b before =>
      obtain ⟨rfl, rfl⟩ := List.cons.inj hsplit
      have hbefore := (List.pairwise_cons.1 htrailing).1
      exact ⟨by simp [hnone], before, after, rfl, fun a ha => by simpa using hbefore a ha hq⟩
  · rintro ⟨hnone, before, after, rfl, hbefore⟩
    have hdefaults : ∀ a ∈ q :: before, a.default.isSome = true :=
      List.forall_mem_cons.2 ⟨hq, fun a ha => by simpa using hbefore a ha⟩
    exact ⟨q :: before, after, rfl, List.pairwise_of_forall_mem_list fun _ _ a ha _ =>
      hdefaults a ha,
      ⟨q, List.mem_cons_self, hq⟩, by simpa using hnone⟩

theorem firstMisplaced_cons_of_none {q : Parameter} (hq : q.default = none) :
    FirstMisplaced (q :: ps) p ↔ FirstMisplaced ps p := by
  constructor
  · rintro ⟨before, after, hsplit, htrailing, ⟨a, ha, hsome⟩, hnone⟩
    cases before with
    | nil => exact absurd ha List.not_mem_nil
    | cons b before =>
      obtain ⟨rfl, rfl⟩ := List.cons.inj hsplit
      have ha : a ∈ before := (List.mem_cons.1 ha).resolve_left (by rintro rfl; simp [hq] at hsome)
      exact ⟨before, after, rfl, (List.pairwise_cons.1 htrailing).2, ⟨a, ha, hsome⟩, hnone⟩
  · rintro ⟨before, after, rfl, htrailing, ⟨a, ha, hsome⟩, hnone⟩
    exact ⟨q :: before, after, rfl, List.pairwise_cons.2 ⟨by simp [hq], htrailing⟩,
      ⟨a, List.mem_cons_of_mem q ha, hsome⟩, hnone⟩

theorem firstMisplaced_iff : FirstMisplaced ps p ↔ misplaced? ps = some p := by
  induction ps with
  | nil => simp [not_firstMisplaced_nil, misplaced?]
  | cons q rest ih =>
    rw [misplaced?]
    cases hq : q.default with
    | some d =>
      have hsome : q.default.isSome = true := by simp [hq]
      rw [firstMisplaced_cons_of_isSome hsome]
      rfl
    | none =>
      rw [firstMisplaced_cons_of_none hq, ih]
      rfl

end Parameter

theorem Signature.minArity_of_trailing {s : Signature} (h : Parameter.Trailing s.parameters) :
    s.minArity = (Parameter.required s.parameters).length := by
  obtain ⟨given, left, hps, hgiven, hleft⟩ :=
    (Parameter.misplaced?_eq_none_iff _).1 (Parameter.trailing_iff.1 h)
  have hrequired : Parameter.required s.parameters = given := by
    have hnone : left.filter (·.default.isNone) = [] :=
      List.filter_eq_nil_iff.2 fun p hp => p.isSome_default_iff.1 (hleft p hp)
    have hall : given.filter (·.default.isNone) = given :=
      List.filter_eq_self.2 fun p hp => by simp [hgiven p hp]
    rw [Parameter.required, hps, List.filter_append, hnone, hall, List.append_nil]
  have hstop : given.reverse.dropWhile (·.default.isSome) = given.reverse := by
    have hreversed : ∀ p ∈ given.reverse, p.default = none := fun p hp =>
      hgiven p (List.mem_reverse.1 hp)
    cases hg : given.reverse with
    | nil => rfl
    | cons p rest => simp [hreversed p (by simp [hg])]
  have hdrop : s.parameters.reverse.dropWhile (·.default.isSome) = given.reverse := by
    rw [hps, List.reverse_append,
      List.dropWhile_append_of_pos fun p hp => hleft p (List.mem_reverse.1 hp), hstop]
  rw [minArity, hdrop, List.length_reverse, hrequired]

namespace Registration

variable {r : Registration} {key : TypeKey} {n : String}

theorem firstRepeat?_eq_some_iff {seen names : List String} :
    firstRepeat? seen names = some n ↔ ∃ before after, names = before ++ n :: after ∧ before.Nodup ∧
      (∀ m ∈ before, m ∉ seen) ∧ (n ∈ before ∨ n ∈ seen) := by
  induction names generalizing seen with
  | nil => simp [firstRepeat?]
  | cons m rest ih =>
    rw [firstRepeat?]
    by_cases hm : m ∈ seen
    · rw [if_pos hm, Option.some.injEq]
      constructor
      · rintro rfl
        exact ⟨[], rest, rfl, List.nodup_nil, fun _ h => absurd h List.not_mem_nil, .inr hm⟩
      · rintro ⟨before, after, hsplit, -, hseen, -⟩
        cases before with
        | nil => exact (List.cons.inj hsplit).1
        | cons b before =>
          obtain ⟨rfl, -⟩ := List.cons.inj hsplit
          exact absurd hm (hseen m List.mem_cons_self)
    · rw [if_neg hm, ih]
      constructor
      · rintro ⟨before, after, rfl, hnodup, hseen, hn⟩
        have hnew : m ∉ before := fun h => hseen m h (by simp)
        refine ⟨m :: before, after, rfl, List.nodup_cons.2 ⟨hnew, hnodup⟩,
          List.forall_mem_cons.2 ⟨hm, fun x hx h => hseen x hx (by simp [h])⟩, ?_⟩
        simpa [or_assoc, or_comm, or_left_comm] using hn
      · rintro ⟨before, after, hsplit, hnodup, hseen, hn⟩
        cases before with
        | nil =>
          obtain ⟨rfl, -⟩ := List.cons.inj hsplit
          simp [hm] at hn
        | cons b before =>
          obtain ⟨rfl, rfl⟩ := List.cons.inj hsplit
          obtain ⟨hnew, hrest⟩ := List.nodup_cons.1 hnodup
          refine ⟨before, after, rfl, hrest, fun x hx h => ?_, ?_⟩
          · rcases List.mem_append.1 h with h | h
            · exact hseen x (List.mem_cons_of_mem m hx) h
            · obtain rfl := List.mem_singleton.1 h
              exact hnew hx
          · simpa [or_assoc, or_comm, or_left_comm] using hn

variable {e : CatalogError}

theorem defaultProblem?_eq_none_iff {callee : String} {ps : List Parameter} :
    defaultProblem? callee ps = none ↔ Parameter.Trailing ps := by
  rw [defaultProblem?, Option.map_eq_none_iff, Parameter.trailing_iff]

theorem defaultProblem?_eq_some_iff {callee : String} {ps : List Parameter} :
    defaultProblem? callee ps = some e ↔
      ∃ p, Parameter.FirstMisplaced ps p ∧ .defaultNotTrailing callee p.name = e := by
  simp only [defaultProblem?, Option.map_eq_some_iff, Parameter.firstMisplaced_iff]

/-- Of those declared with parameters, the first whose defaults do not come last is reported. -/
def ReportsDefault {α : Type} (declared : List α) (callee : α → String)
    (parameters : α → List Parameter)
    (e : CatalogError) : Prop :=
  ∃ before a after p, declared = before ++ a :: after ∧
    (∀ b ∈ before, Parameter.Trailing (parameters b)) ∧
    Parameter.FirstMisplaced (parameters a) p ∧ e = .defaultNotTrailing (callee a) p.name

section Defaults

variable {α : Type} {declared : List α} {callee : α → String} {parameters : α → List Parameter}

theorem findSome?_defaultProblem?_eq_none_iff :
    (declared.findSome? fun a => defaultProblem? (callee a) (parameters a)) = none ↔
      ∀ a ∈ declared, Parameter.Trailing (parameters a) := by
  simp only [List.findSome?_eq_none_iff, defaultProblem?_eq_none_iff]

theorem findSome?_defaultProblem?_eq_some_iff :
    (declared.findSome? fun a => defaultProblem? (callee a) (parameters a)) = some e ↔
      ReportsDefault declared callee parameters e := by
  simp only [List.findSome?_eq_some_iff, defaultProblem?_eq_none_iff, defaultProblem?_eq_some_iff]
  constructor
  · rintro ⟨before, a, after, hsplit, ⟨p, hp, rfl⟩, hbefore⟩
    exact ⟨before, a, after, p, hsplit, hbefore, hp, rfl⟩
  · rintro ⟨before, a, after, p, hsplit, hbefore, hp, rfl⟩
    exact ⟨before, a, after, hsplit, ⟨p, hp, rfl⟩, hbefore⟩

end Defaults

/-- Of the names of accessors, the first that stands before itself is reported. -/
def ReportsAccessor (r : Registration) (e : CatalogError) : Prop :=
  ∃ before n after, r.accessorNames = before ++ n :: after ∧ before.Nodup ∧ n ∈ before ∧
    e = .duplicateMember r.name n

/-- Of the methods, the first that has the name of an accessor is reported. -/
def ReportsMethod (r : Registration) (e : CatalogError) : Prop :=
  ∃ before s after, r.methods = before ++ s :: after ∧ (∀ t ∈ before, t.name ∉ r.accessorNames) ∧
    s.name ∈ r.accessorNames ∧ e = .duplicateMember r.name s.name

structure NamesApart (r : Registration) : Prop where
  accessors : r.accessorNames.Nodup
  methods : ∀ s ∈ r.methods, s.name ∉ r.accessorNames

theorem nameProblem?_eq_none_iff_apart : r.nameProblem? = none ↔ r.NamesApart :=
  nameProblem?_eq_none_iff.trans ⟨fun h => ⟨h.1, h.2⟩, fun h => ⟨h.accessors, h.methods⟩⟩

theorem nameProblem?_eq_some_iff : r.nameProblem? = some e ↔
    r.ReportsAccessor e ∨ r.accessorNames.Nodup ∧ r.ReportsMethod e := by
  unfold nameProblem?
  cases hf : firstRepeat? [] r.accessorNames with
  | some n =>
    obtain ⟨before, after, hsplit, hnodup, -, hn⟩ := firstRepeat?_eq_some_iff.1 hf
    have hrepeat : ¬ r.accessorNames.Nodup := by
      intro h
      have hnone : firstRepeat? [] r.accessorNames = none := firstRepeat?_eq_none_iff.2 ⟨h, by simp⟩
      rw [hf] at hnone
      contradiction
    simp only [hrepeat, false_and, or_false, Option.some.injEq]
    constructor
    · rintro rfl
      exact ⟨before, n, after, hsplit, hnodup, by simpa using hn, rfl⟩
    · rintro ⟨before', n', after', hsplit', hnodup', hn', rfl⟩
      have hf' : firstRepeat? [] r.accessorNames = some n' :=
        firstRepeat?_eq_some_iff.2 ⟨before', after', hsplit', hnodup', by simp, .inl hn'⟩
      obtain rfl := Option.some.inj (hf.symm.trans hf')
      rfl
  | none =>
    have hnodup := (firstRepeat?_eq_none_iff.1 hf).1
    have hno : ¬ r.ReportsAccessor e := by
      rintro ⟨before, n, after, hsplit, -, hn, -⟩
      rw [hsplit, List.nodup_append] at hnodup
      exact hnodup.2.2 n hn n List.mem_cons_self rfl
    simp only [hno, hnodup, true_and, false_or, Option.map_eq_some_iff,
      List.find?_eq_some_iff_append]
    constructor
    · rintro ⟨s, ⟨hs, before, after, hsplit, hbefore⟩, rfl⟩
      exact ⟨before, s, after, hsplit, fun t ht => by
        simpa using hbefore t ht, by simpa using hs, rfl⟩
    · rintro ⟨before, s, after, hsplit, hbefore, hs, rfl⟩
      exact ⟨s, ⟨by simpa using hs, before, after, hsplit, fun t ht => by simpa using hbefore t ht⟩,
        rfl⟩

/-- The one thing reported of a declaration: names come first, of accessors before those of methods,
then the defaults of methods, then those of constructors. -/
inductive Reported (r : Registration) (e : CatalogError) : Prop
  | accessor (h : r.ReportsAccessor e)
  | method (haccessors : r.accessorNames.Nodup) (h : r.ReportsMethod e)
  | methodDefault (hnames : r.NamesApart) (h : ReportsDefault r.methods (·.name) (·.parameters) e)
  | constructorDefault (hnames : r.NamesApart)
      (hmethods : ∀ s ∈ r.methods, Parameter.Trailing s.parameters)
      (h : ReportsDefault r.constructors (fun _ => r.constructorName) (·.parameters) e)

theorem problem?_eq_none_iff : r.problem? = none ↔ r.NamesApart ∧
    (∀ s ∈ r.methods, Parameter.Trailing s.parameters) ∧
      ∀ c ∈ r.constructors, Parameter.Trailing c.parameters := by
  rw [problem?, Option.or_eq_none_iff, Option.or_eq_none_iff, nameProblem?_eq_none_iff_apart,
    findSome?_defaultProblem?_eq_none_iff, findSome?_defaultProblem?_eq_none_iff, and_assoc]

theorem problem?_eq_some_iff : r.problem? = some e ↔ r.Reported e := by
  rw [problem?, Option.or_eq_some_iff, Option.or_eq_some_iff, Option.or_eq_none_iff,
    nameProblem?_eq_some_iff, nameProblem?_eq_none_iff_apart, findSome?_defaultProblem?_eq_some_iff,
    findSome?_defaultProblem?_eq_some_iff, findSome?_defaultProblem?_eq_none_iff]
  constructor
  · rintro (((h | ⟨hn, h⟩) | ⟨hn, h⟩) | ⟨⟨hn, hm⟩, h⟩)
    · exact .accessor h
    · exact .method hn h
    · exact .methodDefault hn h
    · exact .constructorDefault hn hm h
  · rintro (h | ⟨hn, h⟩ | ⟨hn, h⟩ | ⟨hn, hm, h⟩)
    · exact .inl (.inl (.inl h))
    · exact .inl (.inl (.inr ⟨hn, h⟩))
    · exact .inl (.inr ⟨hn, h⟩)
    · exact .inr ⟨⟨hn, hm⟩, h⟩

theorem build_eq_error_iff : r.build key = .error e ↔ r.Reported e := by
  rw [← problem?_eq_some_iff, build]
  cases r.problem? <;> simp

theorem minArity_of_build {c : Catalog} (h : r.build key = .ok c) :
    (∀ name, ∀ s ∈ c.overloads name, s.minArity = (Parameter.required s.parameters).length) ∧
      ∀ s ∈ c.constructors, s.minArity = (Parameter.required s.parameters).length := by
  obtain ⟨-, hmethods, hconstructors⟩ := problem?_eq_none_iff.1 ((r.build_eq_ok_iff key c).1 h).1
  constructor
  · intro name s hs
    rw [overloads_of_build h] at hs
    exact Signature.minArity_of_trailing (hmethods s (List.mem_filter.1 hs).1)
  · intro s hs
    rw [eq_freeze_of_build h] at hs
    obtain ⟨constructor, hmem, rfl⟩ := List.mem_map.1 hs
    exact Signature.minArity_of_trailing (hconstructors constructor hmem)

end Registration

/-- One step of declaring a host type. -/
inductive Declaration
  | property (a : Accessor)
  | field (a : Accessor)
  | method (s : Signature)
  | constructor (c : Constructor)
  | defaultCode (code : Program)
  | display (parts : List DisplayPart)

namespace Declaration

def property? : Declaration → Option Accessor
  | .property a => some a
  | _ => none

def field? : Declaration → Option Accessor
  | .field a => some a
  | _ => none

def method? : Declaration → Option Signature
  | .method s => some s
  | _ => none

def constructor? : Declaration → Option Constructor
  | .constructor c => some c
  | _ => none

end Declaration

namespace Registration

def declare (r : Registration) : Declaration → Registration
  | .property a => r.property a
  | .field a => r.field a
  | .method s => r.method s
  | .constructor c => r.construct c
  | .defaultCode code => { r with defaultCode := some code }
  | .display parts => { r with display := some parts }

def ofDeclarations (name : String) (representation : Representation) (ds : List Declaration) :
    Registration :=
  ds.foldl declare { name, representation }

/-- Members of one sort are kept in the order they are declared in. -/
theorem foldl_declare {α : Type} {part : Registration → List α} {part? : Declaration → Option α}
    (h : ∀ r d, part (r.declare d) = part r ++ (part? d).toList) (r : Registration)
    (ds : List Declaration) :
    part (ds.foldl declare r) = part r ++ ds.filterMap part? := by
  induction ds generalizing r with
  | nil => simp
  | cons d ds ih =>
    rw [List.foldl_cons, ih, h, List.append_assoc, List.filterMap_cons]
    cases part? d <;> rfl

theorem name_foldl_declare (r : Registration) (ds : List Declaration) : (ds.foldl declare r).name =
    r.name := by
  induction ds generalizing r with
  | nil => rfl
  | cons d ds ih =>
    rw [List.foldl_cons, ih]
    cases d <;> rfl

/-- What was declared of a type, each sort of member in the order of declaration. -/
structure Collects (r : Registration) (name : String) (ds : List Declaration) : Prop where
  name_eq : r.name = name
  properties_eq : r.properties = ds.filterMap Declaration.property?
  fields_eq : r.fields = ds.filterMap Declaration.field?
  methods_eq : r.methods = ds.filterMap Declaration.method?
  constructors_eq : r.constructors = ds.filterMap Declaration.constructor?

theorem collects_ofDeclarations (name : String) (representation : Representation)
    (ds : List Declaration) :
    (ofDeclarations name representation ds).Collects name ds where
  name_eq := name_foldl_declare _ ds
  properties_eq := foldl_declare
    (fun r d => by cases d <;> simp [declare, property, field, method, construct,
    Declaration.property?]) _ ds
  fields_eq := foldl_declare (fun r d => by
    cases d <;> simp [declare, property, field, method, construct,
    Declaration.field?]) _ ds
  methods_eq := foldl_declare (fun r d => by
    cases d <;> simp [declare, property, field, method, construct,
    Declaration.method?]) _ ds
  constructors_eq := foldl_declare
    (fun r d => by cases d <;> simp [declare, property, field, method, construct,
    Declaration.constructor?]) _ ds

end Registration

open Registration in
/-- A type is accepted exactly when the names of its properties and fields differ, no method has one
of them, and in all methods and constructors defaults come last. Otherwise the first offender is
reported. In an accepted type every method and constructor asks for as many arguments as it has
parameters without default. -/
theorem validation_exact (name : String) (representation : Representation) (ds : List Declaration)
    (key : TypeKey) :
    let r := ofDeclarations name representation ds
    r.Collects name ds ∧
    ((∃ c, r.build key = .ok c) ↔
      ((r.properties ++ r.fields).map (·.name)).Nodup ∧
      (∀ s ∈ r.methods, ∀ a ∈ r.properties ++ r.fields, s.name ≠ a.name) ∧
      (∀ s ∈ r.methods, Parameter.Trailing s.parameters) ∧
      ∀ c ∈ r.constructors, Parameter.Trailing c.parameters) ∧
    (∀ e, r.build key = .error e ↔ r.Reported e) ∧
    ∀ c, r.build key = .ok c →
      (∀ name, ∀ s ∈ c.overloads name, s.minArity = (Parameter.required s.parameters).length) ∧
        ∀ s ∈ c.constructors, s.minArity = (Parameter.required s.parameters).length := by
  intro r
  refine ⟨collects_ofDeclarations name representation ds, ?_, fun e => build_eq_error_iff,
    fun c hc => minArity_of_build hc⟩
  have haccepted : (∃ c, r.build key = .ok c) ↔ r.problem? = none := by
    simp only [build_eq_ok_iff, exists_and_left, exists_eq, and_true]
  have hapart : r.NamesApart ↔ ((r.properties ++ r.fields).map (·.name)).Nodup ∧
      ∀ s ∈ r.methods, ∀ a ∈ r.properties ++ r.fields, s.name ≠ a.name := by
    have hname (s : Signature) :
        s.name ∉ r.accessorNames ↔ ∀ a ∈ r.properties ++ r.fields, s.name ≠ a.name := by
      simp only [accessorNames, List.mem_map, not_exists, not_and, ne_comm, ne_eq]
    exact ⟨fun h => ⟨h.accessors, fun s hs => (hname s).1 (h.methods s hs)⟩,
      fun h => ⟨h.1, fun s hs => (hname s).2 (h.2 s hs)⟩⟩
  rw [haccepted, problem?_eq_none_iff, hapart, and_assoc]

open Registration in
/-- A method with one default asks for one argument of two. A field that repeats a property is
reported, and not the constructor declared before both whose default stands first. -/
theorem validation_exact_greet :
    let mark : Parameter := { name := "mark", type := .string, default := some (.text ⟨0, "!"⟩) }
    let guest : Parameter := { name := "guest", type := .string }
    let greet : Signature :=
      { name := "greet", parameters := [guest, mark], returns := .string, body := .free fun _ =>
        .done .null }
    let hp : Accessor := ⟨"hp", .int, false, none, none⟩
    let accepted := ofDeclarations "Node" .slots [.method greet, .property hp, .method greet]
    let refused := ofDeclarations "Node" .slots
      [.constructor ⟨[mark, guest], fun _ => .done .null⟩, .field hp, .method greet, .property hp]
    (∃ c, accepted.build (.declared 0) = .ok c ∧ greet.minArity = 1) ∧
      refused.build (.declared 0) = .error (.duplicateMember "Node" "hp") := by
  intro mark guest greet hp accepted refused
  obtain ⟨-, hok, -, harity⟩ :=
    validation_exact "Node" .slots [.method greet, .property hp, .method greet]
    (.declared 0)
  obtain ⟨-, -, herror, -⟩ := validation_exact "Node" .slots
    [.constructor ⟨[mark, guest], fun _ => .done .null⟩, .field hp, .method greet, .property hp]
      (.declared 0)
  have hgreet : Parameter.Trailing greet.parameters := Parameter.trailing_iff.2 rfl
  obtain ⟨c, hc⟩ := hok.2 ⟨List.nodup_singleton _, by
    simp [ofDeclarations, declare, method, property, greet, hp],
    by simpa [ofDeclarations, declare, method, property] using hgreet,
    by simp [ofDeclarations, declare, method, property]⟩
  have hmem : greet ∈ c.overloads "greet" := by
    rw [overloads_of_build hc]
    exact List.mem_cons_self
  exact ⟨⟨c, hc, (harity c hc).1 "greet" greet hmem⟩,
    (herror _).2 (.accessor ⟨["hp"], "hp", [], rfl, List.nodup_singleton _, List.mem_cons_self,
      rfl⟩)⟩

end LateBound
