import LateBound.Text.Quoted
/-! Quoted text read back. A quoted text ends at its closing mark and nowhere before, and what
stands within the marks tells which characters were quoted. -/
namespace LateBound
namespace Text

/-- Where a reader of quoted text stands: among plain characters, behind a backslash, before the
digits of a code point, or behind digits of that value. -/
inductive QuoteState
  | plain
  | escaped
  | opened
  | digits (n : Nat)

def unescaped (c : Char) : Char :=
  if c = '0' then '\x00'
  else if c = 't' then '\t'
  else if c = 'r' then '\r'
  else if c = 'n' then '\n'
  else c

def hexValue (c : Char) : Nat := if c.isDigit then c.toNat - 48 else c.toNat - 87

def give (c : Char) (r : List Char × List Char) : List Char × List Char := (c :: r.1, r.2)

/-- The characters quoted before the closing mark, and what follows it. -/
def unquote? (mark : Char) : QuoteState → List Char → Option (List Char × List Char)
  | _, [] => none
  | .plain, c :: s =>
    if c = mark then some ([], s)
    else if c = '\\' then unquote? mark .escaped s
    else (unquote? mark .plain s).map (give c)
  | .escaped, c :: s =>
    if c = 'u' then unquote? mark .opened s
    else (unquote? mark .plain s).map (give (unescaped c))
  | .opened, c :: s => if c = '\x7b' then unquote? mark (.digits 0) s else none
  | .digits n, c :: s =>
    if c = '\x7d' then (unquote? mark .plain s).map (give (Char.ofNat n))
    else unquote? mark (.digits (16 * n + hexValue c)) s

theorem hexValue_digitChar : ∀ d : Fin 16, hexValue (Nat.digitChar d) = d := by decide

theorem digitChar_ne_brace : ∀ d : Fin 16, Nat.digitChar d ≠ '\x7d' := by decide

section Unquote

variable {mark c : Char} {s : List Char}

theorem unquote?_digit {d : Nat} (hd : d < 16) (n : Nat) :
    unquote? mark (.digits n) (Nat.digitChar d :: s) = unquote? mark (.digits (16 * n + d)) s := by
  have hvalue : hexValue (Nat.digitChar d) = d := hexValue_digitChar ⟨d, hd⟩
  rw [unquote?, if_neg (digitChar_ne_brace ⟨d, hd⟩), hvalue]

theorem unquote?_hexDigits (n : Nat) (s : List Char) :
    unquote? mark (.digits 0) (hexDigits n ++ s) = unquote? mark (.digits n) s := by
  induction n using Nat.strongRecOn generalizing s with
  | ind n ih =>
    by_cases hn : n < 16
    · rw [hexDigits, Nat.toDigits_of_lt_base hn, List.singleton_append, unquote?_digit hn,
        Nat.mul_zero, Nat.zero_add]
    · have hlast : n % 16 < 16 := Nat.mod_lt n (by decide)
      rw [hexDigits, Nat.toDigits_of_base_le (by decide) (Nat.not_lt.1 hn), List.append_assoc,
        List.singleton_append]
      calc unquote? mark (.digits 0) (hexDigits (n / 16) ++ Nat.digitChar (n % 16) :: s)
          = unquote? mark (.digits (n / 16)) (Nat.digitChar (n % 16) :: s) := ih _ (by omega) _
        _ = unquote? mark (.digits n) s := by rw [unquote?_digit hlast, Nat.div_add_mod]

theorem unquote?_codePoint (hm : mark ≠ '\\') (c : Char) (s : List Char) :
    unquote? mark .plain (codePoint c ++ s) = (unquote? mark .plain s).map (give c) := by
  simp only [codePoint, List.cons_append, List.nil_append, List.append_assoc]
  rw [unquote?, if_neg hm.symm, if_pos rfl, unquote?, if_pos rfl, unquote?, if_pos rfl,
    unquote?_hexDigits, unquote?, if_pos rfl, Char.ofNat_toNat]

theorem unquote?_backslash (hm : mark ≠ '\\') (hc : c ≠ 'u') (s : List Char) :
    unquote? mark .plain ('\\' :: c :: s) =
      (unquote? mark .plain s).map (give (unescaped c)) := by
  rw [unquote?, if_neg hm.symm, if_pos rfl, unquote?, if_neg hc]

theorem unescaped_self (hm : mark = '"' ∨ mark = '\'') (hc : c = '\\' ∨ c = mark) :
    c ≠ 'u' ∧ unescaped c = c := by
  rcases hc with rfl | rfl
  · decide
  · rcases hm with rfl | rfl <;> decide

theorem unquote?_escape (hm : mark = '"' ∨ mark = '\'') (c : Char) (s : List Char) :
    unquote? mark .plain (escape mark c ++ s) = (unquote? mark .plain s).map (give c) := by
  have hback : mark ≠ '\\' := by rcases hm with rfl | rfl <;> decide
  unfold escape
  by_cases h0 : c = '\x00'
  · subst c; exact unquote?_backslash hback (by decide) s
  by_cases ht : c = '\t'
  · subst c; exact unquote?_backslash hback (by decide) s
  by_cases hr : c = '\r'
  · subst c; exact unquote?_backslash hback (by decide) s
  by_cases hn : c = '\n'
  · subst c; exact unquote?_backslash hback (by decide) s
  simp only [h0, ht, hr, hn, if_false]
  by_cases hself : c = '\\' ∨ c = mark
  · obtain ⟨hu, hback'⟩ := unescaped_self hm hself
    rw [if_pos hself]
    exact (unquote?_backslash hback hu s).trans (by rw [hback'])
  · rw [if_neg hself]
    obtain ⟨hplain, hmark⟩ := not_or.1 hself
    by_cases hhidden : isExtending c || isHidden c
    · rw [if_pos hhidden, unquote?_codePoint hback]
    · rw [if_neg hhidden, List.singleton_append, unquote?, if_neg hmark, if_neg hplain]

/-- What is quoted is read back, whatever follows the closing mark. -/
theorem unquote?_quoted (hm : mark = '"' ∨ mark = '\'') (s rest : List Char) :
    unquote? mark .plain (s.flatMap (escape mark) ++ mark :: rest) = some (s, rest) := by
  induction s with
  | nil => simp [unquote?]
  | cons c s ih => rw [List.flatMap_cons, List.append_assoc, unquote?_escape hm, ih]; rfl

end Unquote

theorem enclose_inj {mark : Char} (hm : mark = '"' ∨ mark = '\'') {s t : List Char} :
    enclose mark s = enclose mark t ↔ s = t := by
  refine ⟨fun h => ?_, congrArg (enclose mark)⟩
  have hchars : s.flatMap (escape mark) ++ [mark] = t.flatMap (escape mark) ++ [mark] :=
    (List.cons.inj (String.ofList_inj.1 h)).2
  have hs := unquote?_quoted hm s []
  rw [hchars, unquote?_quoted hm t []] at hs
  exact (Prod.mk.inj (Option.some.inj hs)).1.symm

/-- Different texts are quoted differently. -/
theorem quoted_inj {s t : String} : quoted s = quoted t ↔ s = t := by
  rw [quoted, quoted, enclose_inj (.inl rfl), String.toList_inj]

theorem quotedChar_inj {c d : Char} : quotedChar c = quotedChar d ↔ c = d := by
  rw [quotedChar, quotedChar, enclose_inj (.inr rfl), List.singleton_inj]

end Text

end LateBound
