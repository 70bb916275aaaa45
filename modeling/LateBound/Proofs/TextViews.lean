import LateBound.Proofs.TextBytes
import LateBound.Proofs.TextCall
/-! What the members of a text tell of its characters. Positions count characters: the length,
reading at an index, cutting out a part and searching for one all speak of the same positions, and a
search ends where cutting out as many characters as the needle has gives the needle. -/
namespace LateBound

theorem Integer64.toNat_unsigned_add {i k : Int64} (hi : 0 ≤ i.toInt) (hk : 0 ≤ k.toInt) :
    (i.toUInt64 + k.toUInt64).toNat = i.toInt + k.toInt := by
  have hstart : i.toUInt64.toNat = i.toInt.toNat :=
    Int64.toNat_toUInt64_of_le (Int64.le_iff_toInt_le.2 hi)
  have hsize : k.toUInt64.toNat = k.toInt.toNat :=
    Int64.toNat_toUInt64_of_le (Int64.le_iff_toInt_le.2 hk)
  have hstartBound := i.toInt_lt
  have hsizeBound := k.toInt_lt
  rw [UInt64.toNat_add, hstart, hsize, Nat.mod_eq_of_lt (by omega)]
  omega

namespace TextMethod

variable {s : List Char} {start length : Int}

theorem cut_of_within (hstart : 0 ≤ start) (hlength : 0 ≤ length)
    (hend : start + length ≤ s.length) :
    cut s start length = .ok ((s.drop start.toNat).take length.toNat) := by
  rw [cut, if_pos ⟨hstart, by omega⟩, if_neg (Int.not_lt.2 hlength), if_pos hend]

theorem cut_of_negative (hstart : 0 ≤ start ∧ start ≤ s.length) (hlength : length < 0) :
    cut s start length = .ok (s.drop start.toNat) := by
  rw [cut, if_pos hstart, if_pos hlength]

theorem cut_of_outside (hstart : ¬ (0 ≤ start ∧ start ≤ s.length)) :
    cut s start length = .error (outOfRange start s.length) := by
  rw [cut, if_neg hstart]

theorem cut_of_past (hstart : 0 ≤ start ∧ start ≤ s.length) (hlength : 0 ≤ length)
    (hend : s.length < start + length) : cut s start length = .error (pastEnd length) := by
  rw [cut, if_pos hstart, if_neg (Int.not_lt.2 hlength), if_neg (Int.not_le.2 hend)]

end TextMethod

namespace Text

variable {p s : List Char}

theorem isPrefixOf_eq_take (p s : List Char) : p.isPrefixOf s = decide (s.take p.length = p) := by
  rw [Bool.eq_iff_iff, List.isPrefixOf_iff_prefix, decide_eq_true_iff, List.prefix_iff_eq_take,
    eq_comm]

theorem isSuffixOf_eq_drop (p s : List Char) :
    p.isSuffixOf s = decide (s.drop (s.length - p.length) = p) := by
  rw [Bool.eq_iff_iff, List.isSuffixOf_iff_suffix, decide_eq_true_iff, List.suffix_iff_eq_drop,
    eq_comm]

end Text

namespace World

variable {w : World} {t u : Text} {depth : Nat}

theorem getNamed_length (call : Caller) (w : World) (t : Text) :
    w.getNamed call (.text t) "length" = some (w.box (HostKind.ofInt t.chars.length)) := rfl

theorem getAt_text (w : World) (t : Text) (i : Int64) :
    w.getAt (.text t) (.int i) =
      if h : 0 ≤ i.toInt ∧ i.toInt < t.chars.length then w.giveText [t.chars[i.toInt.toNat]]
      else (.error (.indexOutOfRange i.toInt t.chars.length), w) := by
  have hposition : (Value.int i).position = .ok i.toInt := rfl
  by_cases h : 0 ≤ i.toInt ∧ i.toInt < t.chars.length
  · have hlt : i.toInt.toNat < t.chars.length := by omega
    have hwithin : (Value.int i).positionWithin t.chars.length = .ok i.toInt.toNat := by
      rw [Value.positionWithin, hposition]
      exact if_pos h
    simp only [getAt, getAt?, getCharacter, hwithin, List.getElem?_eq_getElem hlt, dif_pos h,
      String.singleton_eq_ofList]
    rfl
  · have hwithin : (Value.int i).positionWithin t.chars.length =
        .error (.indexOutOfRange i.toInt t.chars.length) := by
      rw [Value.positionWithin, hposition]
      exact if_neg h
    simp only [getAt, getAt?, getCharacter, hwithin, dif_neg h]

theorem exists_length (ht : t.chars.length < 2 ^ 63) (w : World) :
    ∃ n : Int64, n.toInt = t.chars.length ∧
      ∀ call, w.getNamed call (.text t) "length" = some (.int n, w) := by
  have hword := Int64.toInt_ofNat_of_lt ht
  refine ⟨.ofNat t.chars.length, hword, fun call => ?_⟩
  rw [getNamed_length, HostKind.ofInt, ← hword, Integer64.ofInt?_toInt]
  rfl

def CutsOut (depth : Nat) (w : World) (t u : Text) (i : Int) : Prop :=
  ∃ start length : Int64, start.toInt = i ∧ length.toInt = u.chars.length ∧ ∃ v w',
    callNamed (depth + 1) w (.text t) "substring" [.int start, .int length] = some (.text v, w') ∧
      v.content = u.content

theorem substring_content_iff {a b : Int64} :
    (∃ v w', callNamed (depth + 1) w (.text t) "substring" [.int a, .int b] = some (.text v, w') ∧
      v.content = u.content) ↔ TextMethod.cut t.chars a.toInt b.toInt = .ok u.chars := by
  rw [textCall_substring]
  cases TextMethod.cut t.chars a.toInt b.toInt with
  | error message => simp [afterCut]
  | ok s =>
    have hchars : u.content = .ofList u.chars := String.ofList_toList.symm
    simp only [afterCut, giveText, newText, fresh, Option.some.injEq, Prod.mk.injEq,
      Value.text.injEq,
      Except.ok.injEq]
    constructor
    · rintro ⟨v, w', ⟨rfl, -⟩, hs⟩
      exact String.ofList_injective (hs.trans hchars)
    · rintro rfl
      exact ⟨_, _, ⟨rfl, rfl⟩, hchars.symm⟩

theorem cutsOut_iff {i : Int} (ht : t.chars.length < 2 ^ 63) :
    w.CutsOut depth t u i ↔ ∃ k : Nat, i = k ∧ Text.OccursAt u.chars t.chars k := by
  constructor
  · rintro ⟨a, b, rfl, hb, hcut⟩
    rw [substring_content_iff, hb] at hcut
    have hsize : 0 ≤ (u.chars.length : Int) := by omega
    by_cases hstart : 0 ≤ a.toInt ∧ a.toInt ≤ t.chars.length
    · refine ⟨a.toInt.toNat, by omega, Text.occursAt_iff_take.2 ⟨by omega, ?_⟩⟩
      by_cases hend : a.toInt + u.chars.length ≤ t.chars.length
      · rw [TextMethod.cut_of_within hstart.1 hsize hend] at hcut
        exact Except.ok.inj hcut
      · rw [TextMethod.cut_of_past hstart hsize (Int.not_le.1 hend)] at hcut
        contradiction
    · rw [TextMethod.cut_of_outside hstart] at hcut
      contradiction
  · rintro ⟨k, rfl, hoccurs⟩
    have hlength := hoccurs.length_le
    have hstart : (Int64.ofNat k).toInt = k := Int64.toInt_ofNat_of_lt (by omega)
    have hsize : (Int64.ofNat u.chars.length).toInt = u.chars.length :=
      Int64.toInt_ofNat_of_lt (by omega)
    refine ⟨.ofNat k, .ofNat u.chars.length, hstart, hsize, substring_content_iff.2 ?_⟩
    rw [hstart, hsize, TextMethod.cut_of_within (by omega) (by omega) (by omega), Int.toNat_natCast,
      Int.toNat_natCast, (Text.occursAt_iff_take.1 hoccurs).2]

/-- A search ends at the first position where the needle is cut out, and passes the bytes
before it. -/
theorem exists_position (ht : t.chars.length < 2 ^ 63) (w : World) (u : Text) (depth : Nat) :
    ∃ j : Int64, callNamed (depth + 1) w (.text t) "index_of" [.text u] = some (.int j, w) ∧
      callNamed (depth + 1) w (.text t) "contains" [.text u] =
        some (.bool (decide (0 ≤ j.toInt)), w) ∧
      (IsLeast {i | w.CutsOut depth t u i} j.toInt ∧
          IsLeast {b | Text.BytesAt u.content t.content b}
          (Text.bytesBefore t.content j.toInt.toNat) ∨
        j = -1 ∧ (∀ i, ¬ w.CutsOut depth t u i) ∧ ∀ b, ¬ Text.BytesAt u.content t.content b) := by
  rw [textCall_indexOf, textCall_contains]
  cases hsearch : Text.indexOf? u.chars t.chars with
  | none =>
    have hmissed : ∀ i, ¬ Text.OccursAt u.chars t.chars i :=
      (Text.indexOf?_spec u.chars t.chars).2 hsearch
    refine ⟨-1, rfl, rfl, .inr ⟨rfl, fun i hi => ?_, fun b hb => ?_⟩⟩
    · obtain ⟨k, -, hk⟩ := (cutsOut_iff ht).1 hi
      exact hmissed k hk
    · obtain ⟨k, hk⟩ := Text.exists_occursAt hb
      exact hmissed k hk
  | some k =>
    have hleast : IsLeast {i | Text.OccursAt u.chars t.chars i} k :=
      Text.indexOf?_eq_some_iff.1 hsearch
    have hlength := hleast.1.length_le
    have hword : (Int64.ofNat k).toInt = k := Int64.toInt_ofNat_of_lt (by omega)
    have hposition : 0 ≤ (Int64.ofNat k).toInt := by omega
    refine ⟨.ofNat k, rfl, by rw [decide_eq_true hposition]; rfl, .inl ⟨⟨?_, fun i hi => ?_⟩, ?_⟩⟩
    · exact (cutsOut_iff ht).2 ⟨k, hword, hleast.1⟩
    · obtain ⟨j, rfl, hj⟩ := (cutsOut_iff ht).1 hi
      rw [hword]
      exact Int.ofNat_le.2 (hleast.2 hj)
    · rw [hword]
      exact Text.isLeast_bytesAt hleast

theorem callNamed_substring_of_within {i : Int64} (hi : 0 ≤ i.toInt ∧ i.toInt ≤ t.chars.length)
    (w : World)
    (depth : Nat) :
    callNamed (depth + 1) w (.text t) "substring" [.int i] =
      some (w.giveText (t.chars.drop i.toInt.toNat)) ∧
      ∀ k : Int64, callNamed (depth + 1) w (.text t) "substring" [.int i, .int k] = some (
        if k.toInt < 0 then w.giveText (t.chars.drop i.toInt.toNat)
        else if i.toInt + k.toInt ≤ t.chars.length then
          w.giveText ((t.chars.drop i.toInt.toNat).take k.toInt.toNat)
        else (.error (.unknown s!"substring: {TextMethod.pastEnd k.toInt}"), w)) := by
  constructor
  · rw [textCall_substring_default, TextMethod.cut_of_negative hi (by decide)]
    rfl
  · intro k
    rw [textCall_substring]
    by_cases hk : k.toInt < 0
    · rw [TextMethod.cut_of_negative hi hk, if_pos hk]
      rfl
    · have hsize : 0 ≤ k.toInt := Int.not_lt.1 hk
      rw [if_neg hk]
      by_cases hend : i.toInt + k.toInt ≤ t.chars.length
      · rw [TextMethod.cut_of_within hi.1 hsize hend, if_pos hend]
        rfl
      · rw [TextMethod.cut_of_past hi hsize (Int.not_le.1 hend), if_neg hend]
        rfl

theorem callNamed_substring_of_outside {i : Int64} (hi : ¬ (0 ≤ i.toInt ∧ i.toInt ≤ t.chars.length))
    (w : World)
    (depth : Nat) :
    let refusal := s!"substring: {TextMethod.outOfRange i.toInt t.chars.length}"
    callNamed (depth + 1) w (.text t) "substring" [.int i] = some (.error (.unknown refusal), w) ∧
      ∀ k : Int64, callNamed (depth + 1) w (.text t) "substring" [.int i, .int k] =
        some (.error (.unknown refusal), w) := by
  constructor
  · rw [textCall_substring_default, TextMethod.cut_of_outside hi]
    rfl
  · intro k
    rw [textCall_substring, TextMethod.cut_of_outside hi]
    rfl

end World

open World in
/-- The members of a text tell of the same characters. Its length counts them, reading at an index
gives one of them or an error that tells the length, and a part is cut out from a position to
another or to the end. A search gives the first position where cutting out the needle's length gives
the needle, whose bytes first stand after those of the characters before it, and `-1` when there is
none. The bound on the length is that of any text in memory. -/
theorem text_views_agree (t : Text) (w : World) (depth : Nat) :
    let s := t.chars
    (s.length < 2 ^ 63 → ∃ n : Int64, n.toInt = s.length ∧
      ∀ call, w.getNamed call (.text t) "length" = some (.int n, w)) ∧
    (∀ i : Int64, w.getAt (.text t) (.int i) =
      if h : 0 ≤ i.toInt ∧ i.toInt < s.length then w.giveText [s[i.toInt.toNat]]
      else (.error (.indexOutOfRange i.toInt s.length), w)) ∧
    (∀ i : Int64, 0 ≤ i.toInt ∧ i.toInt ≤ s.length →
      callNamed (depth + 1) w (.text t) "substring" [.int i] =
        some (w.giveText (s.drop i.toInt.toNat)) ∧
      ∀ k : Int64, (0 ≤ k.toInt → (i.toUInt64 + k.toUInt64).toNat = i.toInt + k.toInt) ∧
        callNamed (depth + 1) w (.text t) "substring" [.int i, .int k] = some (
          if k.toInt < 0 then w.giveText (s.drop i.toInt.toNat)
          else if i.toInt + k.toInt ≤ s.length then w.giveText
            ((s.drop i.toInt.toNat).take k.toInt.toNat)
          else (.error (.unknown s!"substring: {TextMethod.pastEnd k.toInt}"), w))) ∧
    (∀ i : Int64, ¬ (0 ≤ i.toInt ∧ i.toInt ≤ s.length) →
      let refusal := s!"substring: {TextMethod.outOfRange i.toInt s.length}"
      callNamed (depth + 1) w (.text t) "substring" [.int i] = some (.error (.unknown refusal), w) ∧
      ∀ k : Int64, callNamed (depth + 1) w (.text t) "substring" [.int i, .int k] =
        some (.error (.unknown refusal), w)) ∧
    (s.length < 2 ^ 63 → ∀ u : Text, ∃ j : Int64,
      callNamed (depth + 1) w (.text t) "index_of" [.text u] = some (.int j, w) ∧
      callNamed (depth + 1) w (.text t) "contains" [.text u] =
        some (.bool (decide (0 ≤ j.toInt)), w) ∧
      (IsLeast {i | w.CutsOut depth t u i} j.toInt ∧
          IsLeast {b | Text.BytesAt u.content t.content b}
            (Text.bytesBefore t.content j.toInt.toNat) ∨
        j = -1 ∧ (∀ i, ¬ w.CutsOut depth t u i) ∧ ∀ b, ¬ Text.BytesAt u.content t.content b)) ∧
    ∀ u : Text,
      callNamed (depth + 1) w (.text t) "starts_with" [.text u] =
        some (.bool (decide (s.take u.chars.length = u.chars)), w) ∧
      callNamed (depth + 1) w (.text t) "ends_with" [.text u] =
        some (.bool (decide (s.drop (s.length - u.chars.length) = u.chars)), w) := by
  intro s
  refine ⟨fun ht => exists_length ht w, getAt_text w t, fun i hi => ?_,
    fun i hi => callNamed_substring_of_outside hi w depth, fun ht u => exists_position ht w u depth,
    fun u => ⟨?_, ?_⟩⟩
  · obtain ⟨hsuffix, hpart⟩ := callNamed_substring_of_within hi w depth
    exact ⟨hsuffix, fun k => ⟨Integer64.toNat_unsigned_add hi.1, hpart k⟩⟩
  · rw [textCall_startsWith, Text.isPrefixOf_eq_take]
  · rw [textCall_endsWith, Text.isSuffixOf_eq_drop]

open World in
/-- The character searched for is the second one, after the three bytes of the first. -/
theorem text_views_agree_multibyte :
    let t : Text := ⟨9, "€a€"⟩
    let u : Text := ⟨8, "a€"⟩
    t.chars.length < 2 ^ 63 ∧ callNamed 1 default (.text t) "index_of" [.text u] =
      some (.int 1, default) ∧
      IsLeast {i | CutsOut 0 default t u i} 1 ∧ IsLeast {b | Text.BytesAt u.content t.content b} 3 ∧
      callNamed 1 default (.text t) "substring" [.int 1] = some (giveText ['a', '€'] default) ∧
      callNamed 1 default (.text t) "substring" [.int 4] =
        some (.error (.unknown "substring: start 4 out of range for length 3"), default) := by
  intro t u
  have ht : t.chars.length < 2 ^ 63 := by decide
  obtain ⟨-, -, hwithin, houtside, hsearch, -⟩ := text_views_agree t default 0
  have hcall : callNamed 1 default (.text t) "index_of" [.text u] = some (.int 1, default) := by
    have hsearched : Text.indexOf? u.chars t.chars = some 1 := by decide
    rw [textCall_indexOf, hsearched]
    rfl
  obtain ⟨j, hindex, -, hleast⟩ := hsearch ht u
  obtain rfl : j = 1 := by
    rw [hcall] at hindex
    simpa [Value.int] using hindex.symm
  obtain ⟨hcut, hbytes⟩ := hleast.resolve_right fun hmissed => absurd hmissed.1 (by decide)
  have hbefore : Text.bytesBefore t.content (1 : Int64).toInt.toNat = 3 := by decide
  have hrest : t.chars.drop (1 : Int64).toInt.toNat = ['a', '€'] := by decide
  obtain ⟨hsuffix, -⟩ := hwithin 1 (by decide)
  rw [hbefore] at hbytes
  rw [hrest] at hsuffix
  have hmessage : s!"substring: {TextMethod.outOfRange (4 : Int64).toInt t.chars.length}" =
      "substring: start 4 out of range for length 3" := by decide
  exact ⟨ht, hcall, hcut, hbytes, hsuffix, hmessage ▸ (houtside 4 (by decide)).1⟩

end LateBound
