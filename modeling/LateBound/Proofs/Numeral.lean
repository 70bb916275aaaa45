import Mathlib
import LateBound.Conversion
/-! What texts say. An integer is written by a numeral, digits with at most one sign, and a truth
value by its word in any case, both with white space around them. Readers accept these and
nothing else. -/
namespace LateBound

namespace Text

variable {body s : List Char}

/-- The text is the body with white space around it. -/
def Surrounds (body s : List Char) : Prop :=
  ∃ lead trail, s = lead ++ (body ++ trail) ∧ (∀ c ∈ lead, isBlank c = true) ∧
    ∀ c ∈ trail, isBlank c = true

theorem surrounds_self (s : List Char) : Surrounds s s := ⟨[], [], by simp, nofun, nofun⟩

theorem trimLeft_append {lead : List Char} (h : ∀ c ∈ lead, isBlank c = true) (s : List Char) :
    trimLeft (lead ++ s) = trimLeft s := List.dropWhile_append_of_pos h

theorem trimLeft_of_bare (h : ∀ c ∈ s, isBlank c = false) : trimLeft s = s := by
  cases s with
  | nil => rfl
  | cons c s => exact trimLeft_of_not_blank (h c List.mem_cons_self)

theorem surrounds_trim (s : List Char) : Surrounds (trim s) s := by
  let m := trimLeft s
  refine ⟨s.takeWhile isBlank, (m.reverse.takeWhile isBlank).reverse, ?_, fun c hc =>
    List.mem_takeWhile_imp hc,
    fun c hc => List.mem_takeWhile_imp (List.mem_reverse.1 hc)⟩
  have hfront : s = s.takeWhile isBlank ++ m := List.takeWhile_append_dropWhile.symm
  have hback : m.reverse = m.reverse.takeWhile isBlank ++ trimLeft m.reverse :=
    List.takeWhile_append_dropWhile.symm
  have hwhole : m = trim s ++ (m.reverse.takeWhile isBlank).reverse := by
    rw [trim, trimRight, ← List.reverse_append]
    exact List.reverse_eq_iff.1 hback
  rw [← hwhole]
  exact hfront

theorem trim_of_surrounds (h : Surrounds body s) (hb : ∀ c ∈ body, isBlank c = false) :
    trim s = body := by
  obtain ⟨lead, trail, rfl, hlead, htrail⟩ := h
  have hback : trimRight (body ++ trail) = body := by
    rw [trimRight, List.reverse_append, trimLeft_append (by simpa using htrail),
      trimLeft_of_bare (by simpa using hb), List.reverse_reverse]
  rw [trim, trimLeft_append hlead]
  cases body with
  | nil =>
    have hblank : trimLeft ([] ++ trail) = [] := List.dropWhile_eq_nil_iff.2 htrail
    rw [hblank]
    rfl
  | cons c body =>
    have hfront : trimLeft (c :: body ++ trail) = c :: body ++ trail :=
      trimLeft_of_not_blank (hb c List.mem_cons_self)
    rw [hfront, hback]

theorem exists_surrounds_iff {P : List Char → Prop}
    (hP : ∀ body, P body → ∀ c ∈ body, isBlank c = false) :
    P (trim s) ↔ ∃ body, Surrounds body s ∧ P body := by
  constructor
  · intro h
    exact ⟨trim s, surrounds_trim s, h⟩
  · rintro ⟨body, hs, h⟩
    rwa [trim_of_surrounds hs (hP body h)]

end Text

namespace Integer64

theorem ofInt?_eq_some_iff {i : Int} {n : Int64} : ofInt? i = some n ↔ i = n.toInt := by
  constructor
  · intro h
    unfold ofInt? at h
    split at h
    · rename_i hfits
      have hleast : Int64.minValue.toInt = -2 ^ 63 := by decide
      have hgreatest : Int64.maxValue.toInt = 2 ^ 63 - 1 := by decide
      rw [← Option.some.inj h, Int64.toInt_ofInt_of_le (by omega) (by omega)]
    · contradiction
  · rintro rfl
    exact ofInt?_toInt n

end Integer64

namespace Decimal

variable {s ds : List Char}

def Digits (ds : List Char) : Prop := ds ≠ [] ∧ ∀ c ∈ ds, '0' ≤ c ∧ c ≤ '9'

/-- What digits stand for, the last of them for the units. -/
def digitsValue (ds : List Char) : Nat :=
  Nat.ofDigits 10 (ds.map fun c => c.toNat - '0'.toNat).reverse

/-- The numerals of an integer: digits, with at most one sign before them. -/
inductive Numeral : List Char → Int → Prop
  | unsigned {ds : List Char} (h : Digits ds) : Numeral ds (digitsValue ds)
  | plus {ds : List Char} (h : Digits ds) : Numeral ('+' :: ds) (digitsValue ds)
  | minus {ds : List Char} (h : Digits ds) : Numeral ('-' :: ds) (-(digitsValue ds : Int))

theorem digitsValue_cons (c : Char) (ds : List Char) :
    digitsValue (c :: ds) = (c.toNat - '0'.toNat) * 10 ^ ds.length + digitsValue ds := by
  simp only [digitsValue, List.map_cons, List.reverse_cons, Nat.ofDigits_append,
    List.length_reverse,
    List.length_map, Nat.ofDigits_singleton]
  ring

theorem ofDigitChars_eq_digitsValue (ds : List Char) (n : Nat) :
    Nat.ofDigitChars 10 ds n = n * 10 ^ ds.length + digitsValue ds := by
  induction ds generalizing n with
  | nil => simp [digitsValue]
  | cons c ds ih =>
    rw [Nat.ofDigitChars_cons, ih, digitsValue_cons, List.length_cons]
    ring

theorem isDigit_iff {c : Char} : c.isDigit = true ↔ '0' ≤ c ∧ c ≤ '9' := by
  simp [Char.isDigit, Char.le_def]

theorem digits_iff : Digits ds ↔ ds ≠ [] ∧ ds.all Char.isDigit = true := by
  simp only [Digits, List.all_eq_true, isDigit_iff]

theorem readNat?_eq_some_iff {n : Nat} : readNat? s = some n ↔ Digits s ∧ n = digitsValue s := by
  have hvalue : Nat.ofDigitChars 10 s 0 = digitsValue s := by simp [ofDigitChars_eq_digitsValue]
  rw [readNat?, digits_iff, hvalue]
  split
  · rename_i h
    rw [Option.some.injEq, eq_comm]
    exact (and_iff_right h).symm
  · rename_i h
    exact iff_of_false (by simp) fun h' => h h'.1

/-- A numeral is read as its integer, and nothing else is read. -/
theorem readInt?_eq_some_iff {i : Int} : readInt? s = some i ↔ Numeral s i := by
  constructor
  · intro h
    unfold readInt? at h
    split at h
    · obtain ⟨n, hn, rfl⟩ := Option.map_eq_some_iff.1 h
      obtain ⟨hdigits, rfl⟩ := readNat?_eq_some_iff.1 hn
      exact .minus hdigits
    · obtain ⟨n, hn, rfl⟩ := Option.map_eq_some_iff.1 h
      obtain ⟨hdigits, rfl⟩ := readNat?_eq_some_iff.1 hn
      exact .plus hdigits
    · obtain ⟨n, hn, rfl⟩ := Option.map_eq_some_iff.1 h
      obtain ⟨hdigits, rfl⟩ := readNat?_eq_some_iff.1 hn
      exact .unsigned hdigits
  · intro h
    cases h with
    | unsigned hdigits =>
      have hread := readNat?_eq_some_iff.2 ⟨hdigits, rfl⟩
      cases s with
      | nil => exact absurd rfl hdigits.1
      | cons c s =>
        have hc := hdigits.2 c List.mem_cons_self
        rw [readInt?_of_ne_sign (by rintro rfl; revert hc; decide)
          (by rintro rfl; revert hc; decide), hread]
        rfl
    | plus hdigits =>
      have hsign (ds : List Char) : readInt? ('+' :: ds) = (readNat? ds).map Int.ofNat := by
        unfold readInt?
        split <;> simp_all
      rw [hsign, readNat?_eq_some_iff.2 ⟨hdigits, rfl⟩]
      rfl
    | minus hdigits =>
      rw [readInt?_minus, readNat?_eq_some_iff.2 ⟨hdigits, rfl⟩]
      rfl

theorem readInt64?_eq_some_iff {n : Int64} : readInt64? s = some n ↔ Numeral s n.toInt := by
  simp only [readInt64?, Option.bind_eq_some_iff, readInt?_eq_some_iff,
    Integer64.ofInt?_eq_some_iff]
  exact exists_eq_right

theorem Digits.not_blank (h : Digits ds) : ∀ c ∈ ds, Text.isBlank c = false := by
  intro c hc
  obtain ⟨hlow, hhigh⟩ := h.2 c hc
  have hleast : 48 ≤ c.toNat := hlow
  have hgreatest : c.toNat ≤ 57 := hhigh
  simp only [Text.isBlank, Bool.or_eq_false_iff, Bool.and_eq_false_iff, decide_eq_false_iff_not,
    beq_eq_false_iff_ne]
  omega

theorem Numeral.not_blank {i : Int} (h : Numeral s i) : ∀ c ∈ s, Text.isBlank c = false := by
  cases h with
  | unsigned hdigits => exact hdigits.not_blank
  | plus hdigits | minus hdigits =>
    rw [List.forall_mem_cons]
    exact ⟨by decide, hdigits.not_blank⟩

theorem lower_eq_iff {l c : Char} (hl : lower l = l) : lower c = l ↔ c = l ∨ c = l.toUpper := by
  constructor
  · intro h
    by_cases hc : c.isUpper = true
    · right
      calc c = c.toUpper := (Char.toUpper_eq_of_not_isLower (Char.not_isLower_of_isUpper hc)).symm
        _ = (lower c).toUpper := (Char.toUpper_toLower_eq_toUpper c).symm
        _ = l.toUpper := by rw [h]
    · left
      exact (Char.toLower_eq_of_not_isUpper hc).symm.trans h
  · rintro (rfl | rfl)
    · exact hl
    · exact (Char.toLower_toUpper_eq_toLower l).trans hl

end Decimal

namespace Text

variable {word s : List Char}

def Spells (word s : List Char) : Prop := List.Forall₂ (fun l c => c = l ∨ c = l.toUpper) word s

theorem Spells.exists_letter (h : Spells word s) {c : Char} (hc : c ∈ s) :
    ∃ l ∈ word, c = l ∨ c = l.toUpper := by
  induction h with
  | nil => contradiction
  | @cons l _ _ _ hl _ ih =>
    rcases List.mem_cons.1 hc with rfl | hc
    · exact ⟨l, List.mem_cons_self, hl⟩
    · obtain ⟨m, hm, hspelled⟩ := ih hc
      exact ⟨m, List.mem_cons_of_mem l hm, hspelled⟩

theorem map_lower_eq_iff (hword : ∀ l ∈ word, Decimal.lower l = l) :
    s.map Decimal.lower = word ↔ Spells word s := by
  induction word generalizing s with
  | nil => simp [Spells]
  | cons l word ih =>
    rw [List.forall_mem_cons] at hword
    cases s with
    | nil => simp [Spells]
    | cons c s =>
      rw [List.map_cons, List.cons.injEq, Decimal.lower_eq_iff hword.1, ih hword.2, Spells, Spells,
        List.forall₂_cons]

theorem sameWord_iff (hword : ∀ l ∈ word, Decimal.lower l = l) :
    Decimal.sameWord s word = true ↔ Spells word s := by
  have hsmall : word.map Decimal.lower = word :=
    List.map_congr_left hword |>.trans (List.map_id word)
  rw [Decimal.sameWord, beq_iff_eq, hsmall, map_lower_eq_iff hword]

/-- The word of a truth value is read as that value, and nothing else is read. -/
theorem readBool?_eq_some_iff {b : Bool} : readBool? s = some b ↔ Spells (boolText b).toList s := by
  have htrue : Decimal.sameWord s ['t', 'r', 'u', 'e'] = true ↔ Spells ['t', 'r', 'u', 'e'] s :=
    sameWord_iff (by simp [Decimal.lower])
  have hfalse : Decimal.sameWord s ['f', 'a', 'l', 's', 'e'] = true ↔
    Spells ['f', 'a', 'l', 's', 'e'] s :=
    sameWord_iff (by simp [Decimal.lower])
  have hapart : Spells ['t', 'r', 'u', 'e'] s → ¬ Spells ['f', 'a', 'l', 's', 'e'] s :=
    fun h h' => absurd (h.length_eq.trans h'.length_eq.symm) (by decide)
  simp only [readBool?, htrue, hfalse]
  cases b with
  | true =>
    show _ ↔ Spells ['t', 'r', 'u', 'e'] s
    split <;> simp_all
  | false =>
    show _ ↔ Spells ['f', 'a', 'l', 's', 'e'] s
    split <;> simp_all

theorem Spells.not_blank {b : Bool} (h : Spells (boolText b).toList s) :
    ∀ c ∈ s, isBlank c = false := by
  have hletters : ∀ l ∈ (boolText b).toList, isBlank l = false ∧ isBlank l.toUpper = false := by
    cases b <;> simp [boolText, isBlank]
  intro c hc
  obtain ⟨l, hl, rfl | rfl⟩ := h.exists_letter hc
  · exact (hletters _ hl).1
  · exact (hletters _ hl).2

end Text

end LateBound
