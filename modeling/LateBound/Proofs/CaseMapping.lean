import LateBound.Text.CaseMap
/-! Case mapping settles at once: what a text is written as in one case, mapping to that case again
leaves as it is. The tables decide it, since no code point that they map to is one that they map. -/
namespace LateBound
namespace Text

namespace CaseRun

def imageFirst (r : CaseRun) : Nat := (r.first + r.offset).toNat

def imageLast (r : CaseRun) : Nat := (r.last + r.offset).toNat

/-- Whether a code point is none of the run. -/
def misses (r : CaseRun) (n : Nat) : Bool :=
  Nat.blt n r.first || Nat.blt r.last n || Nat.blt 0 ((n - r.first) % r.step)

/-- Whether no code point of `r'` is one that `r` maps to: the runs lie apart, or every other code
point is one of `r'`, and those between them are what `r` maps to. -/
def apart (r r' : CaseRun) : Bool :=
  Nat.blt r.imageLast r'.first || Nat.blt r'.last r.imageFirst ||
    (Nat.blt 0 r.imageFirst && Nat.beq r'.step 2 &&
      (Nat.beq r.step 2 || Nat.beq r.imageFirst r.imageLast) &&
      Nat.beq ((r.imageFirst + r'.first) % 2) 1)

variable {r r' : CaseRun} {n m : Nat}

theorem image?_of_misses (h : r.misses n = true) : r.image? n = none := by
  simp only [misses, Bool.or_eq_true, Nat.blt_eq] at h
  exact if_neg (by omega)

theorem image?_bounds (h : r.image? n = some m) : r.imageFirst ≤ m ∧ m ≤ r.imageLast ∧
    (0 < r.imageFirst → r.step = 2 → m % 2 = r.imageFirst % 2) := by
  obtain ⟨⟨hfirst, hlast, hstep⟩, h⟩ := Option.ite_none_right_eq_some.1 h
  obtain rfl := Option.some.inj h
  unfold imageFirst imageLast
  refine ⟨by omega, by omega, fun hpos htwo => ?_⟩
  rw [htwo] at hstep
  omega

theorem misses_of_apart (h : r.apart r' = true) (hn : r.image? n = some m) :
    r'.misses m = true := by
  obtain ⟨hfirst, hlast, hparity⟩ := image?_bounds hn
  simp only [apart, Bool.or_eq_true, Bool.and_eq_true, Nat.blt_eq, Nat.beq_eq] at h
  simp only [misses, Bool.or_eq_true, Nat.blt_eq]
  rcases h with (h | h) | ⟨⟨⟨hpos, htwo⟩, hr⟩, hodd⟩
  · omega
  · omega
  · have hm : m % 2 = r.imageFirst % 2 := by
      rcases hr with hr | hr
      · exact hparity hpos hr
      · omega
    rw [htwo]
    omega

end CaseRun

/-- The code point is not mapped. -/
structure Unmapped (runs : List CaseRun) (expansions : List (Nat × List Nat)) (n : Nat) : Prop where
  outside : ∀ r ∈ runs, r.image? n = none
  absent : ∀ e ∈ expansions, n ≠ e.1

/-- No code point that the table maps to is mapped, nor is zero. -/
structure Settles (runs : List CaseRun) (expansions : List (Nat × List Nat)) : Prop where
  zero : Unmapped runs expansions 0
  run : ∀ r ∈ runs, ∀ n m, r.image? n = some m → Unmapped runs expansions m
  expansion : ∀ e ∈ expansions, ∀ m ∈ e.2, Unmapped runs expansions m

section MapCase

variable {runs : List CaseRun} {expansions : List (Nat × List Nat)} {c d : Char} {n : Nat}

theorem mapCase_of_unmapped (h : Unmapped runs expansions c.toNat) :
    mapCase runs expansions c = [c] := by
  have hlookup : expansions.lookup c.toNat = none :=
    List.lookup_eq_none_iff.2 fun e he => bne_iff_ne.2 (h.absent e he)
  have hruns : runs.findSome? (·.image? c.toNat) = none := List.findSome?_eq_none_iff.2 h.outside
  rw [mapCase, hlookup, hruns]
  rfl

theorem Settles.unmapped_ofNat (h : Settles runs expansions) (hn : Unmapped runs expansions n) :
    Unmapped runs expansions (Char.ofNat n).toNat := by
  by_cases hvalid : n.isValidChar
  · have hself : (Char.ofNat n).toNat = n := by rw [Char.ofNat, dif_pos hvalid]; rfl
    rwa [hself]
  · have hzero : (Char.ofNat n).toNat = 0 := by rw [Char.ofNat, dif_neg hvalid]; rfl
    rw [hzero]
    exact h.zero

theorem Settles.unmapped (h : Settles runs expansions) (hd : d ∈ mapCase runs expansions c) :
    Unmapped runs expansions d.toNat := by
  unfold mapCase at hd
  cases hlookup : expansions.lookup c.toNat with
  | some image =>
    obtain ⟨l, l', rfl, -⟩ := List.lookup_eq_some_iff.1 hlookup
    rw [hlookup] at hd
    obtain ⟨m, hm, rfl⟩ := List.mem_map.1 hd
    exact h.unmapped_ofNat (h.expansion (c.toNat, image) (by simp) m hm)
  | none =>
    simp only [hlookup, List.mem_singleton] at hd
    cases hrun : runs.findSome? (·.image? c.toNat) with
    | none =>
      obtain rfl : d = c := by simpa [hrun] using hd
      exact ⟨List.findSome?_eq_none_iff.1 hrun,
        fun e he => bne_iff_ne.1 (List.lookup_eq_none_iff.1 hlookup e he)⟩
    | some m =>
      obtain rfl : d = Char.ofNat m := by simpa [hrun] using hd
      obtain ⟨r, hr, hm⟩ := List.exists_of_findSome?_eq_some hrun
      exact h.unmapped_ofNat (h.run r hr _ m hm)

end MapCase

section Tables

variable (runs : List CaseRun) (expansions : List (Nat × List Nat))

def isUnmapped (n : Nat) : Bool :=
  runs.all (·.misses n) && expansions.all fun e => !Nat.beq n e.1

/-- Whether the table settles, said by its runs as a whole. -/
def settlesByRuns : Bool :=
  isUnmapped runs expansions 0 && (runs.all fun r => runs.all r.apart) &&
    (runs.all fun r => expansions.all fun e =>
      Nat.blt e.1 r.imageFirst || Nat.blt r.imageLast e.1) &&
      expansions.all fun e => e.2.all (isUnmapped runs expansions)

variable {runs expansions}

theorem unmapped_of_isUnmapped {n : Nat} (h : isUnmapped runs expansions n = true) :
    Unmapped runs expansions n := by
  simp only [isUnmapped, Bool.and_eq_true, List.all_eq_true] at h
  refine ⟨fun r hr => CaseRun.image?_of_misses (h.1 r hr), fun e he heq => ?_⟩
  have hne := h.2 e he
  rw [heq, Nat.beq_refl] at hne
  contradiction

theorem settles_of_runs (h : settlesByRuns runs expansions = true) : Settles runs expansions := by
  simp only [settlesByRuns, Bool.and_eq_true, List.all_eq_true, Bool.or_eq_true, Nat.blt_eq] at h
  obtain ⟨⟨⟨hzero, hapart⟩, houtside⟩, hexpansion⟩ := h
  refine ⟨unmapped_of_isUnmapped hzero, fun r hr n m hm => ⟨fun r' hr' => ?_, fun e he => ?_⟩,
    fun e he m hm => unmapped_of_isUnmapped (hexpansion e he m hm)⟩
  · exact CaseRun.image?_of_misses (CaseRun.misses_of_apart (hapart r hr r' hr') hm)
  · obtain ⟨hfirst, hlast, -⟩ := CaseRun.image?_bounds hm
    have hkey := houtside r hr e he
    omega

end Tables

theorem settles_upper : Settles upperRuns upperExpansions := settles_of_runs (by decide +kernel)

theorem settles_lower : Settles lowerRuns lowerExpansions := settles_of_runs (by decide +kernel)

theorem upperChar_of_mem {c d : Char} (h : d ∈ upperChar c) : upperChar d = [d] :=
  mapCase_of_unmapped (settles_upper.unmapped h)

theorem lowerChar_of_mem {c d : Char} (h : d ∈ lowerChar c) : lowerChar d = [d] :=
  mapCase_of_unmapped (settles_lower.unmapped h)

theorem toUpper_of_forall {s : List Char} (h : ∀ c ∈ s, upperChar c = [c]) : toUpper s = s := by
  induction s with
  | nil => rfl
  | cons c s ih =>
    obtain ⟨hc, hs⟩ := List.forall_mem_cons.1 h
    rw [toUpper, List.flatMap_cons, hc]
    exact congrArg (c :: ·) (ih hs)

/-- Text in upper case is left as it is by upper case. -/
theorem toUpper_toUpper (s : List Char) : toUpper (toUpper s) = toUpper s := by
  refine toUpper_of_forall fun c hc => ?_
  obtain ⟨d, -, hd⟩ := List.mem_flatMap.1 hc
  exact upperChar_of_mem hd

theorem lowerFrom_of_forall {s : List Char} (h : ∀ c ∈ s, lowerChar c = [c]) (before : List Char) :
    lowerFrom before s = s := by
  induction s generalizing before with
  | nil => rfl
  | cons c s ih =>
    obtain ⟨hc, hs⟩ := List.forall_mem_cons.1 h
    have hne : c ≠ 'Σ' := by
      rintro rfl
      exact absurd hc (by decide +kernel)
    rw [lowerFrom, if_neg hne, hc, ih hs]
    rfl

theorem lowerChar_of_mem_lowerFrom {s before : List Char} {c : Char} (h : c ∈ lowerFrom before s) :
    lowerChar c = [c] := by
  induction s generalizing before with
  | nil => contradiction
  | cons d s ih =>
    rcases List.mem_append.1 h with h | h
    · by_cases hd : d = 'Σ'
      · rw [if_pos hd, List.mem_singleton] at h
        obtain rfl := h
        split <;> decide +kernel
      · rw [if_neg hd] at h
        exact lowerChar_of_mem h
    · exact ih h

/-- Text in lower case is left as it is by lower case, its sigmas included. -/
theorem toLower_toLower (s : List Char) : toLower (toLower s) = toLower s :=
  lowerFrom_of_forall (fun _ hc => lowerChar_of_mem_lowerFrom hc) []

end Text

end LateBound
