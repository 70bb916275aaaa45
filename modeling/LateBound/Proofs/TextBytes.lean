import LateBound.Proofs.TextSearch
/-! Occurrences in the bytes of a text. Bytes that begin a character are told apart from those that
go on with one, so the bytes of a pattern stand nowhere but where its characters do, and the first
place of those bytes comes after as many characters as a search of the characters passes. -/
namespace LateBound
namespace Text

variable {p s : String} {i j b : Nat}

def BytesAt (p s : String) (b : Nat) : Prop :=
  b + p.utf8ByteSize ≤ s.utf8ByteSize ∧ s.toByteArray.extract b (b + p.utf8ByteSize) = p.toByteArray

def bytesBefore (s : String) (i : Nat) : Nat := (String.ofList (s.toList.take i)).utf8ByteSize

theorem bytesBefore_zero (s : String) : bytesBefore s 0 = 0 := rfl

theorem bytesBefore_append (before rest : String) :
    bytesBefore (before ++ rest) before.toList.length = before.utf8ByteSize := by
  simp [bytesBefore]

theorem bytesBefore_mono (h : i ≤ j) : bytesBefore s i ≤ bytesBefore s j := by
  have hsplit : s.toList.take j = s.toList.take i ++ (s.toList.take j).drop i := by
    rw [← Nat.min_eq_left h, ← List.take_take, Nat.min_eq_left h, List.take_append_drop]
  rw [bytesBefore, bytesBefore, hsplit, String.ofList_append, String.utf8ByteSize_append]
  exact Nat.le_add_right _ _

theorem occursAt_iff_append : OccursAt p.toList s.toList i ↔
    ∃ before after : String, s = before ++ (p ++ after) ∧ before.toList.length = i := by
  constructor
  · rintro ⟨before, after, hs, rfl⟩
    refine ⟨.ofList before, .ofList after, ?_, by simp⟩
    apply String.toList_inj.1
    simpa using hs
  · rintro ⟨before, after, rfl, rfl⟩
    exact ⟨before.toList, after.toList, by simp, rfl⟩

theorem extract_past (before rest : String) (n : Nat) :
    (before ++ rest).toByteArray.extract before.utf8ByteSize (before.utf8ByteSize + n) =
      rest.toByteArray.extract 0 n := by
  rw [String.toByteArray_append]
  exact ByteArray.extract_append_size_add (a := before.toByteArray) (i := 0)

theorem bytesAt_of_occursAt (h : OccursAt p.toList s.toList i) : BytesAt p s (bytesBefore s i) := by
  obtain ⟨before, after, rfl, rfl⟩ := occursAt_iff_append.1 h
  rw [bytesBefore_append]
  constructor
  · simp only [String.utf8ByteSize_append]
    omega
  · rw [extract_past, String.toByteArray_append]
    exact ByteArray.extract_append_eq_left rfl

theorem isPrefix_of_extract (h : s.toByteArray.extract 0 p.utf8ByteSize = p.toByteArray) :
    p.toList <+: s.toList := by
  apply List.isPrefix_of_utf8Encode_append_eq_utf8Encode
    (s.toByteArray.extract p.utf8ByteSize s.utf8ByteSize)
  have hle : p.utf8ByteSize ≤ s.utf8ByteSize := by
    have hsize := congrArg ByteArray.size h
    rw [ByteArray.size_extract, String.size_toByteArray, String.size_toByteArray] at hsize
    omega
  rw [String.utf8Encode_toList, String.utf8Encode_toList, ← h,
    ← ByteArray.extract_eq_extract_append_extract _ (Nat.zero_le _) hle]
  exact ByteArray.extract_zero_size

/-- The bytes of a pattern begin where a character does, so they are those of an occurrence. -/
theorem exists_occursAt_of_bytesAt (hp : p ≠ "") (h : BytesAt p s b) :
    ∃ i, OccursAt p.toList s.toList i ∧ bytesBefore s i = b := by
  obtain ⟨hle, hextract⟩ := h
  have hvalid : (s.toByteArray.extract b (b + p.utf8ByteSize)).IsValidUTF8 :=
    hextract ▸ p.isValidUTF8
  have hsize : p.utf8ByteSize ≠ 0 := fun hzero => hp (String.utf8ByteSize_eq_zero_iff.1 hzero)
  have hstart : String.Pos.Raw.IsValid s ⟨b⟩ := by
    have hends := (String.Pos.Raw.isValidUTF8_extract_iff ⟨b⟩ ⟨b + p.utf8ByteSize⟩
      (Nat.le_add_right b _) hle).1 hvalid
    refine (hends.resolve_left fun heq => hsize ?_).1
    have hbyte : b = b + p.utf8ByteSize := congrArg String.Pos.Raw.byteIdx heq
    omega
  obtain ⟨before, rest, rfl, hb⟩ := String.Pos.Raw.isValid_iff_exists_append.1 hstart
  obtain rfl : b = before.utf8ByteSize := congrArg String.Pos.Raw.byteIdx hb
  rw [extract_past] at hextract
  obtain ⟨after, hafter⟩ := isPrefix_of_extract hextract
  exact ⟨before.toList.length, ⟨before.toList, after, by simp [hafter], rfl⟩,
    bytesBefore_append before rest⟩

theorem exists_occursAt (h : BytesAt p s b) : ∃ i, OccursAt p.toList s.toList i := by
  by_cases hp : p = ""
  · exact ⟨0, occursAt_zero.2 (by rw [hp]; rfl)⟩
  · obtain ⟨i, hi, -⟩ := exists_occursAt_of_bytesAt hp h
    exact ⟨i, hi⟩

theorem isLeast_bytesAt (h : IsLeast {i | OccursAt p.toList s.toList i} i) :
    IsLeast {b | BytesAt p s b} (bytesBefore s i) := by
  refine ⟨bytesAt_of_occursAt h.1, fun b hb => ?_⟩
  by_cases hp : p = ""
  · subst hp
    have hfirst : i = 0 := Nat.le_zero.1 (h.2 (occursAt_zero.2 rfl))
    rw [hfirst, bytesBefore_zero]
    exact Nat.zero_le b
  · obtain ⟨j, hj, rfl⟩ := exists_occursAt_of_bytesAt hp hb
    exact bytesBefore_mono (h.2 hj)

end Text

end LateBound
