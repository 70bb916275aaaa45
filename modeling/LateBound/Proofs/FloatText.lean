import Mathlib
import LateBound.Decimal.Layout
import LateBound.Proofs.DecimalReading
import LateBound.Proofs.FloatReading
import LateBound.Proofs.ShortestDecimal
/-! The text of a float is read as the float, in every layout. A layout writes the shortest decimal
of the float with a point or a power of ten, and both are read as that decimal. -/
namespace LateBound
namespace Decimal

open Binary

section Reader

variable {whole places rest : List Char}

/-- The text goes on with no digit. -/
def Ends (rest : List Char) : Prop := ∀ c ∈ rest.head?, c.isDigit = false

theorem ends_nil : Ends [] := nofun

theorem ends_cons {c : Char} (hc : c.isDigit = false) (rest : List Char) : Ends (c :: rest) := by
  rintro d ⟨⟩
  exact hc

theorem takeWhile_digits (h : ∀ c ∈ whole, c.isDigit = true) (hrest : Ends rest) :
    (whole ++ rest).takeWhile Char.isDigit = whole := by
  rw [List.takeWhile_append_of_pos h]
  cases rest with
  | nil => simp
  | cons c rest => simp [hrest c rfl]

theorem dropWhile_digits (h : ∀ c ∈ whole, c.isDigit = true) (hrest : Ends rest) :
    (whole ++ rest).dropWhile Char.isDigit = rest := by
  rw [List.dropWhile_append_of_pos h]
  cases rest with
  | nil => rfl
  | cons c rest => simp [hrest c rfl]

theorem readMagnitude?_whole (hwhole : ∀ c ∈ whole, c.isDigit = true) (hne : whole ≠ [])
    (hrest : Ends rest) (hpoint : rest.head? ≠ some '.') :
    readMagnitude? (whole ++ rest) =
      (readPower? rest).map fun e => nearest (Nat.ofDigitChars 10 whole 0) e := by
  unfold readMagnitude?
  rw [takeWhile_digits hwhole hrest, dropWhile_digits hwhole hrest]
  dsimp only
  split
  · exact absurd rfl hpoint
  · simp [hne]

theorem readMagnitude?_point (hwhole : ∀ c ∈ whole, c.isDigit = true)
    (hplaces : ∀ c ∈ places, c.isDigit = true) (hne : whole ≠ []) (hrest : Ends rest) :
    readMagnitude? (whole ++ '.' :: (places ++ rest)) = (readPower? rest).map fun e =>
      nearest (Nat.ofDigitChars 10 (whole ++ places) 0) (e - places.length) := by
  have hdot : Ends ('.' :: (places ++ rest)) := ends_cons rfl _
  unfold readMagnitude?
  rw [takeWhile_digits hwhole hdot, dropWhile_digits hwhole hdot]
  dsimp only
  simp only [takeWhile_digits hplaces hrest, dropWhile_digits hplaces hrest]
  simp [hne]

theorem lower_of_isDigit {c : Char} (h : c.isDigit = true) : lower c = c :=
  Char.toLower_eq_of_not_isUpper (by grind [Char.isDigit, Char.isUpper])

theorem sameWord_of_digit {c d : Char} (hd : d.isDigit = true) (hc : (lower c).isDigit = false)
    (s word : List Char) : sameWord (d :: s) (c :: word) = false := by
  rw [sameWord, List.map_cons, List.map_cons, lower_of_isDigit hd, beq_eq_false_iff_ne]
  intro h
  rw [← (List.cons.inj h).1, hd] at hc
  contradiction

theorem exists_digit (hwhole : ∀ c ∈ whole, c.isDigit = true) (hne : whole ≠ []) :
    ∃ d ∈ (whole ++ rest).head?, d.isDigit = true := by
  obtain ⟨d, ds, rfl⟩ := List.exists_cons_of_ne_nil hne
  exact ⟨d, rfl, hwhole d List.mem_cons_self⟩

theorem readUnsigned?_of_digits (hwhole : ∀ c ∈ whole, c.isDigit = true) (hne : whole ≠ []) :
    readUnsigned? (whole ++ rest) = readMagnitude? (whole ++ rest) := by
  obtain ⟨d, ds, rfl⟩ := List.exists_cons_of_ne_nil hne
  have hd := hwhole d List.mem_cons_self
  unfold readUnsigned?
  rw [List.cons_append, sameWord_of_digit hd rfl, sameWord_of_digit hd rfl,
    sameWord_of_digit hd rfl]
  rfl

end Reader

section Layout

theorem isDigit_natDigits (n : Nat) : ∀ c ∈ natDigits n, c.isDigit = true :=
  fun c hc => Nat.isDigit_of_mem_toDigits (by decide) (by decide) hc

theorem isDigit_zeros (n : Nat) : ∀ c ∈ zeros n, c.isDigit = true := by
  intro c hc
  rw [List.eq_of_mem_replicate hc]
  rfl

theorem ofDigitChars_natDigits (n : Nat) : Nat.ofDigitChars 10 (natDigits n) 0 = n :=
  Nat.ofDigitChars_ten_toDigits

theorem natDigits_ne_nil (n : Nat) : natDigits n ≠ [] := Nat.toDigits_ne_nil

/-- The text starts with a digit and is read as the decimal, rounded to a float. -/
structure Says (s : List Char) (q : ℚ) : Prop where
  digit : ∃ d ∈ s.head?, d.isDigit = true
  value : ∃ (c : Nat) (k : Int), readUnsigned? s = some (nearest c k) ∧ (c * 10 ^ k : ℚ) = q

variable {whole places rest : List Char} {c : Nat} {p : Int} {q : ℚ}

theorem says_whole (hwhole : ∀ c ∈ whole, c.isDigit = true) (hne : whole ≠ []) (hrest : Ends rest)
    (hpoint : rest.head? ≠ some '.') (hpower : readPower? rest = some p)
    (hc : Nat.ofDigitChars 10 whole 0 = c) (hq : (c * 10 ^ p : ℚ) = q) : Says (whole ++ rest) q :=
  ⟨exists_digit hwhole hne, c, p, by
    rw [readUnsigned?_of_digits hwhole hne, readMagnitude?_whole hwhole hne hrest hpoint, hpower,
      hc, Option.map_some], hq⟩

theorem says_point (hwhole : ∀ c ∈ whole, c.isDigit = true)
    (hplaces : ∀ c ∈ places, c.isDigit = true) (hne : whole ≠ []) (hrest : Ends rest)
    (hpower : readPower? rest = some p) (hc : Nat.ofDigitChars 10 (whole ++ places) 0 = c)
    (hq : (c * 10 ^ (p - places.length) : ℚ) = q) : Says (whole ++ '.' :: (places ++ rest)) q :=
  ⟨exists_digit hwhole hne, c, p - places.length, by
    rw [readUnsigned?_of_digits hwhole hne, readMagnitude?_point hwhole hplaces hne hrest, hpower,
      hc, Option.map_some], hq⟩

theorem says_shifted (n k : Nat) (wholePoint : Bool) :
    Says (natDigits n ++ zeros k ++ if wholePoint then ['.', '0'] else []) (n * 10 ^ k) := by
  have hwhole : ∀ c ∈ natDigits n ++ zeros k, c.isDigit = true := by
    intro c hc
    exact (List.mem_append.1 hc).elim (isDigit_natDigits n c) (isDigit_zeros k c)
  have hne : natDigits n ++ zeros k ≠ [] := by simp [natDigits_ne_nil]
  have hvalue : Nat.ofDigitChars 10 (natDigits n ++ zeros k) 0 = 10 ^ k * n := by
    rw [Nat.ofDigitChars_append, ofDigitChars_natDigits, zeros, Nat.ofDigitChars_replicate_zero]
  cases wholePoint with
  | false =>
    refine says_whole hwhole hne ends_nil nofun rfl hvalue ?_
    push_cast
    ring
  | true =>
    have hplaces : ∀ c ∈ ['0'], c.isDigit = true := by simp
    refine says_point (c := 10 * (10 ^ k * n)) hwhole hplaces hne ends_nil rfl ?_ ?_
    · rw [Nat.ofDigitChars_append, hvalue]
      rfl
    · have hplace : (0 : Int) - (['0'].length : Nat) = -1 := rfl
      rw [hplace, zpow_neg_one]
      push_cast
      field_simp

theorem says_split (n k : Nat) (h : k < (natDigits n).length) :
    Says ((natDigits n).take ((natDigits n).length - k) ++
      '.' :: (natDigits n).drop ((natDigits n).length - k)) (n * 10 ^ (-k : Int)) := by
  have hlength : ((natDigits n).drop ((natDigits n).length - k)).length = k := by
    rw [List.length_drop]
    omega
  have hsome : (natDigits n).take ((natDigits n).length - k) ≠ [] := by
    rw [← List.length_pos_iff, List.length_take]
    omega
  have hwhole : ∀ c ∈ (natDigits n).take ((natDigits n).length - k), c.isDigit = true :=
    fun c hc => isDigit_natDigits n c (List.mem_of_mem_take hc)
  have hplaces : ∀ c ∈ (natDigits n).drop ((natDigits n).length - k), c.isDigit = true :=
    fun c hc => isDigit_natDigits n c (List.mem_of_mem_drop hc)
  rw [← List.append_nil (List.drop _ _)]
  refine says_point hwhole hplaces hsome ends_nil rfl (c := n) ?_ ?_
  · rw [List.take_append_drop, ofDigitChars_natDigits]
  · rw [hlength, Int.zero_sub]

theorem says_padded (n k : Nat) (h : (natDigits n).length ≤ k) :
    Says ('0' :: '.' :: zeros (k - (natDigits n).length) ++ natDigits n) (n * 10 ^ (-k : Int)) := by
  have hplaces : ∀ c ∈ zeros (k - (natDigits n).length) ++ natDigits n, c.isDigit = true := by
    intro c hc
    exact (List.mem_append.1 hc).elim (isDigit_zeros _ c) (isDigit_natDigits n c)
  have htext : '0' :: '.' :: zeros (k - (natDigits n).length) ++ natDigits n =
      ['0'] ++ '.' :: (zeros (k - (natDigits n).length) ++ natDigits n ++ []) := by
    rw [List.append_nil]
    rfl
  rw [htext]
  refine says_point (by simp) hplaces (by simp) ends_nil rfl (c := n) ?_ ?_
  · rw [Nat.ofDigitChars_append, Nat.ofDigitChars_append, zeros, Nat.ofDigitChars_replicate_zero]
    exact ofDigitChars_natDigits n
  · rw [List.length_append, zeros, List.length_replicate, Nat.sub_add_cancel h, Int.zero_sub]

theorem says_positional (wholePoint : Bool) (s : Scientific) :
    Says (positional wholePoint s) s.value := by
  unfold positional Scientific.value
  dsimp only
  split
  · rename_i hexponent
    obtain ⟨k, hk⟩ := Int.eq_ofNat_of_zero_le hexponent
    rw [hk, zpow_natCast]
    exact says_shifted s.digits k wholePoint
  · rename_i hexponent
    obtain ⟨k, hk⟩ := Int.exists_eq_neg_ofNat (Int.not_le.1 hexponent).le
    rw [hk, Int.neg_neg, Int.toNat_natCast]
    split
    · rename_i hsplit
      exact says_split s.digits k hsplit
    · rename_i hpadded
      exact says_padded s.digits k (Nat.not_lt.1 hpadded)

theorem says_withPower (s : Scientific) : Says (withPower s) s.value := by
  have hdigits := isDigit_natDigits s.digits
  have hvalue := ofDigitChars_natDigits s.digits
  have hpower (power : Int) : readPower? ('e' :: intDigits power) = some power :=
    readInt?_intDigits power
  unfold withPower Scientific.value
  dsimp only
  cases hs : natDigits s.digits with
  | nil => exact absurd hs (natDigits_ne_nil s.digits)
  | cons d rest =>
    rw [hs] at hdigits hvalue
    have hd : ∀ c ∈ [d], c.isDigit = true := by simpa using hdigits d List.mem_cons_self
    have hrest : ∀ c ∈ rest, c.isDigit = true := fun c hc => hdigits c (List.mem_cons_of_mem d hc)
    dsimp only
    split
    · rename_i hnone
      rw [hnone] at hvalue ⊢
      refine says_whole hd (by simp) (ends_cons rfl _) (by simp) (hpower _) hvalue ?_
      rw [List.length_singleton, Nat.cast_one, add_sub_cancel_right]
    · refine says_point hd hrest (by simp) (ends_cons rfl _) (hpower _) hvalue ?_
      rw [List.length_cons, Nat.cast_succ]
      congr 2
      omega

theorem Layout.says_magnitude (l : Layout) (s : Scientific) : Says (l.magnitude s) s.value := by
  unfold Layout.magnitude
  dsimp only
  split
  · split
    · exact says_positional _ s
    · exact says_withPower s
  · exact says_positional _ s

theorem readFloat?_of_says {body : List Char} (h : Says body q) (negative : Bool) :
    ∃ (c : Nat) (k : Int), (c * 10 ^ k : ℚ) = q ∧
      readFloat? (if negative then '-' :: body else body) =
        some (if negative then -nearest c k else nearest c k) := by
  obtain ⟨⟨d, hhead, hd⟩, c, k, hread, hq⟩ := h
  refine ⟨c, k, hq, ?_⟩
  cases negative with
  | true => exact congrArg (Option.map fun x => -x) hread
  | false =>
    obtain ⟨ds, rfl⟩ := List.head?_eq_some_iff.1 hhead
    simp only [Bool.false_eq_true, if_false]
    rw [← hread]
    unfold readFloat?
    split
    · rename_i hsign
      obtain ⟨rfl, rfl⟩ := List.cons.inj hsign
      contradiction
    · rename_i hsign
      obtain ⟨rfl, rfl⟩ := List.cons.inj hsign
      contradiction
    · rfl

theorem unpack_infinity : (Binary.infinity false).toModel.unpack = .infinity .positive := rfl

theorem unpack_nan : Binary.nan.toModel.unpack = .notANumber := rfl

theorem unpack_nearest_zero (k : Int) : (nearest 0 k).toModel.unpack = .zero .positive := by
  unfold nearest
  dsimp only
  rw [if_pos (.inl rfl)]
  rfl

/-- The text of a float is read as the float. -/
theorem readFloat?_chars (l : Layout) (x : Float) : readFloat? (l.chars x) = some x := by
  unfold Layout.chars
  rw [read_eq]
  cases hu : x.toModel.unpack with
  | notANumber =>
    have hnan : readFloat? ['N', 'a', 'N'] = some Binary.nan := rfl
    rw [reading, hnan]
    exact congrArg some (eq_of_unpack (unpack_nan.trans hu.symm))
  | infinity s =>
    have hread : readFloat? (if isNegative s then ['-', 'i', 'n', 'f'] else ['i', 'n', 'f']) =
        some (if isNegative s then -Binary.infinity false else Binary.infinity false) := by
      cases s <;> rfl
    rw [reading]
    dsimp only
    rw [hread]
    refine congrArg some (signed_eq ?_)
    rw [hu, unpack_infinity]
    cases s <;> rfl
  | zero s =>
    obtain ⟨c, k, hq, hread⟩ :=
      readFloat?_of_says (says_positional l.wholePoint ⟨0, 0⟩) (isNegative s)
    have hzero : (⟨0, 0⟩ : Scientific).value = 0 := by simp [Scientific.value]
    have hc : c = 0 := by
      rw [hzero, mul_eq_zero] at hq
      exact Nat.cast_eq_zero.1 (hq.resolve_right (zpow_ne_zero k (by norm_num)))
    rw [reading]
    dsimp only
    rw [if_pos rfl, hread]
    refine congrArg some (signed_eq ?_)
    rw [hu, hc, unpack_nearest_zero]
    cases s <;> rfl
  | finite s m e hm =>
    have hrange := inRange x
    rw [hu] at hrange
    obtain ⟨hc, he⟩ : Canonical m e ∧ e ≤ 971 := hrange
    obtain ⟨c, k, hq, hread⟩ := readFloat?_of_says (l.says_magnitude (shortest m e)) (isNegative s)
    have hround : RoundsTo m e (c * 10 ^ k) := hq ▸ roundsTo_shortest hc hm
    rw [reading]
    dsimp only
    rw [if_neg hm.ne', hread]
    refine congrArg some (signed_eq ?_)
    rw [hu, unpack_nearest hc he hm hround]
    cases s <;> rfl

end Layout
end Decimal
end LateBound
