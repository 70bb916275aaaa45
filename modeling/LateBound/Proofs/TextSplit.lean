import LateBound.Proofs.HostRepresentation
import LateBound.Proofs.TextCall
import LateBound.Proofs.TextSearch
/-! Splitting and replacing as members of a text. The parts come in a new list of new texts, and
joined by the separator they give the text back. Replacing joins the same parts by the replacement,
although it looks for the pattern on its own. -/
namespace LateBound

namespace Text

theorem ofList_chars (t : Text) : String.ofList t.chars = t.content := String.ofList_toList

theorem chars_eq_nil_iff {t : Text} : t.chars = [] ↔ t.content = "" := by
  rw [← t.ofList_chars, String.ofList_eq_empty_iff]

theorem intercalate_content (sep : Text) (parts : List Text) :
    sep.content.intercalate (parts.map (·.content)) =
      .ofList (sep.chars.intercalate (parts.map (·.chars))) := by
  apply String.toList_inj.1
  simp [String.toList_intercalate, chars, Function.comp_def]

end Text

theorem HostKind.exists_texts {w : World} {ss : List String} {ps : List Payload}
    (h : List.Forall₂ (HostKind.string.Represents w) ss ps) :
    ∃ ts : List Text, ps = ts.map .text ∧ ts.map (·.content) = ss := by
  induction h with
  | nil => exact ⟨[], rfl, rfl⟩
  | cons hp _ ih =>
    obtain ⟨t, rfl, rfl⟩ := hp
    obtain ⟨ts, rfl, rfl⟩ := ih
    exact ⟨t :: ts, rfl, rfl⟩

namespace World

variable {w w' : World} {t : Text} {l : ListRef} {parts : List Text}

theorem exists_split (t p : Text) (w : World) (depth : Nat) :
    ∃ (l : ListRef) (parts : List Text) (w' : World),
      callNamed (depth + 1) w (.text t) "split" [.text p] = some (.list l, w') ∧
      l.element = .string ∧ w'.items l = parts.map .text ∧
      parts.map (·.chars) = Text.split p.chars t.chars := by
  let strings := (Text.split p.chars t.chars).map String.ofList
  let written := (HostKind.sequence .string).write strings w
  obtain ⟨l, hl, -, helement, hitems⟩ := HostKind.represents_write (.sequence .string) strings w
  obtain ⟨parts, hparts, hcontent⟩ := HostKind.exists_texts hitems
  have hcall : callNamed (depth + 1) w (.text t) "split" [.text p] =
    some (written.2.box written.1) :=
    textCall_split w t p depth
  have hwritten : written.1 = .list l := hl
  refine ⟨l, parts, written.2, by rw [hcall, hwritten]; rfl, helement, hparts, ?_⟩
  calc parts.map (·.chars) = (parts.map (·.content)).map String.toList := by rw [List.map_map]; rfl
    _ = Text.split p.chars t.chars := by simp [hcontent, strings, Function.comp_def]

theorem exists_replace (t p r : Text) (w : World) (depth : Nat) :
    ∃ v w', callNamed (depth + 1) w (.text t) "replace" [.text p, .text r] = some (.text v, w') ∧
      v.content = .ofList (Text.replace p.chars r.chars t.chars) :=
  ⟨_, _, textCall_replace w t p r depth, rfl⟩

theorem getAt_singletons (hitems : w'.items l = parts.map .text)
    (hparts : parts.map (·.chars) = t.chars.map ([·]))
    (index : Value) : (w'.getAt (.list l) index).1.Alike (w.getAt (.text t) index).1 := by
  have hcount : parts.length = t.chars.length := by simpa using congrArg List.length hparts
  have hlength : (w'.items l).length = t.chars.length := by rw [hitems, List.length_map, hcount]
  simp only [getAt, getAt?, getListItem, getCharacter, hlength]
  cases index.positionWithin t.chars.length with
  | error e => exact .inl rfl
  | ok i =>
    have hitem : t.chars[i]?.map ([·]) = parts[i]?.map (·.chars) := by
      rw [← List.getElem?_map, ← List.getElem?_map, hparts]
    simp only [hitems, List.getElem?_map]
    cases hpart : parts[i]? with
    | none =>
      rw [hpart, Option.map_none, Option.map_eq_none_iff] at hitem
      rw [hitem]
      exact .inl rfl
    | some part =>
      rw [hpart, Option.map_some, Option.map_eq_some_iff] at hitem
      obtain ⟨c, hc, hchars⟩ := hitem
      rw [hc]
      refine .inr ⟨part, _, rfl, rfl, ?_⟩
      rw [← part.ofList_chars, ← hchars, ← String.singleton_eq_ofList]
      rfl

end World

open World in
/-- Joining the parts of a text by the separator gives the text back. No part contains a separator
that is not empty, which first occurs after a part that another one follows, and the empty one gives
the single characters, as reading at an index does. Replacing joins the parts by the replacement, or
leaves the text for the empty pattern, so that replacing a pattern by itself changes nothing. -/
theorem split_joins_back (t p : Text) (w : World) (depth : Nat) :
    ∃ (l : ListRef) (parts : List Text) (w' : World),
      callNamed (depth + 1) w (.text t) "split" [.text p] = some (.list l, w') ∧
      l.element = .string ∧ w'.items l = parts.map .text ∧
      p.content.intercalate (parts.map (·.content)) = t.content ∧
      (p.content ≠ "" →
        (∀ part ∈ parts, ¬ p.chars <:+: part.chars ∧ ∀ later depth,
          callNamed (depth + 1) later (.text part) "contains" [.text p] =
            some (.bool false, later)) ∧
        ∀ part ∈ parts.dropLast,
          IsLeast {i | Text.OccursAt p.chars (part.chars ++ p.chars) i} part.chars.length) ∧
      (p.content = "" → parts.map (·.chars) = t.chars.map ([·]) ∧
        ∀ index : Value, (w'.getAt (.list l) index).1.Alike (w.getAt (.text t) index).1) ∧
      (∀ r : Text, ∃ v w'', callNamed (depth + 1) w (.text t) "replace" [.text p, .text r] =
        some (.text v, w'') ∧
        v.content = if p.content = "" then t.content else r.content.intercalate
          (parts.map (·.content))) ∧
      ∃ v w'', callNamed (depth + 1) w (.text t) "replace" [.text p, .text p] =
        some (.text v, w'') ∧
        v.content = t.content := by
  obtain ⟨l, parts, w', hcall, helement, hitems, hparts⟩ := exists_split t p w depth
  have hback : p.content.intercalate (parts.map (·.content)) = t.content := by
    rw [Text.intercalate_content, hparts, Text.intercalate_split, Text.ofList_chars]
  have hreplace (r : Text) :
      ∃ v w'', callNamed (depth + 1) w (.text t) "replace" [.text p, .text r] =
        some (.text v, w'') ∧
        v.content = if p.content = "" then t.content else r.content.intercalate
          (parts.map (·.content)) := by
    obtain ⟨v, w'', hcalled, hv⟩ := exists_replace t p r w depth
    refine ⟨v, w'', hcalled, ?_⟩
    rw [hv, Text.replace_eq_intercalate, Text.intercalate_content, hparts, apply_ite String.ofList,
      Text.ofList_chars]
    simp only [Text.chars_eq_nil_iff]
  refine ⟨l, parts, w', hcall, helement, hitems, hback, fun hp => ?_, fun hp => ?_, hreplace, ?_⟩
  · have hnonempty : p.chars ≠ [] := mt Text.chars_eq_nil_iff.1 hp
    have hsplit : parts.map (·.chars) = Text.splitOn p.chars t.chars :=
      hparts.trans (if_neg hnonempty)
    refine ⟨fun part hpart => ?_, fun part hpart => ?_⟩
    · have hmem : part.chars ∈ Text.splitOn p.chars t.chars := hsplit ▸ List.mem_map_of_mem hpart
      have hfree : ¬ p.chars <:+: part.chars :=
        Text.not_isInfix_of_mem_splitOn hnonempty t.chars _ hmem
      refine ⟨hfree, fun later depth => ?_⟩
      rw [textCall_contains, Text.indexOf?_eq_none_iff.2 hfree]
      rfl
    · have hmem : part.chars ∈ (Text.splitOn p.chars t.chars).dropLast := by
        rw [← hsplit, ← List.map_dropLast]
        exact List.mem_map_of_mem hpart
      exact Text.isLeast_of_mem_dropLast_splitOn hnonempty t.chars _ hmem
  · have hsingle : parts.map (·.chars) = t.chars.map ([·]) := by
      rw [hparts, Text.split, if_pos (Text.chars_eq_nil_iff.2 hp)]
    exact ⟨hsingle, getAt_singletons hitems hsingle⟩
  · obtain ⟨v, w'', hcalled, hv⟩ := hreplace p
    refine ⟨v, w'', hcalled, ?_⟩
    rw [hv, hback, ite_self]

open World in
/-- Of two occurrences that overlap, the first is taken. -/
theorem split_joins_back_overlap :
    let t : Text := ⟨9, "aaa"⟩
    let p : Text := ⟨8, "aa"⟩
    let r : Text := ⟨7, "b"⟩
    ∃ l w', callNamed 1 default (.text t) "split" [.text p] = some (.list l, w') ∧
      w'.items l = [.text ⟨0, ""⟩, .text ⟨1, "a"⟩] ∧ p.content.intercalate ["", "a"] = t.content ∧
        p.content ≠ "" ∧
      callNamed 1 default (.text ⟨1, "a"⟩) "contains" [.text p] = some (.bool false, default) ∧
      ∃ v w'', callNamed 1 default (.text t) "replace" [.text p, .text r] = some (.text v, w'') ∧
        v.content = r.content.intercalate ["", "a"] := by
  intro t p r
  obtain ⟨l, parts, w', hcall, -, hitems, hback, hfree, -, hreplace, -⟩ :=
    split_joins_back t p default 0
  have hp : p.content ≠ "" := by decide
  have hsplit : Text.split p.chars t.chars = [[], ['a']] := by
    simp [Text.split, Text.splitOn, Text.extendFirst, Text.chars, t, p]
  have hcalled := textCall_split default t p 0
  rw [hsplit] at hcalled
  have hlist : w'.items l = [.text ⟨0, ""⟩, .text ⟨1, "a"⟩] := by
    cases hcall.symm.trans hcalled
    rfl
  have hinjective : Function.Injective Payload.text := fun _ _ h => Payload.text.inj h
  obtain rfl : parts = [⟨0, ""⟩, ⟨1, "a"⟩] :=
    List.map_injective_iff.2 hinjective (hitems.symm.trans hlist)
  exact ⟨l, w', hcall, hlist, hback, hp, ((hfree hp).1 ⟨1, "a"⟩ (by simp)).2 default 0, hreplace r⟩

end LateBound
