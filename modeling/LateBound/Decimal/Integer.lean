import LateBound.Integer64
/-! Whole numbers in decimal: written without padding, read with an optional sign. Main statement:
reading gives back what was written. -/
namespace LateBound
namespace Decimal

def natDigits (n : Nat) : List Char := Nat.toDigits 10 n

def intDigits (n : Int) : List Char :=
  if n < 0 then '-' :: natDigits n.natAbs else natDigits n.natAbs

def natText (n : Nat) : String := String.ofList (natDigits n)

def intText (n : Int) : String := String.ofList (intDigits n)

/-- One or more decimal digits and nothing else. -/
def readNat? (s : List Char) : Option Nat :=
  if s ≠ [] ∧ s.all Char.isDigit then some (Nat.ofDigitChars 10 s 0) else none

/-- At most one sign, then digits. -/
def readInt? : List Char → Option Int
  | '-' :: s => (readNat? s).map fun n : Nat => -(n : Int)
  | '+' :: s => (readNat? s).map Int.ofNat
  | s => (readNat? s).map Int.ofNat

def readInt64? (s : List Char) : Option Int64 := (readInt? s).bind Integer64.ofInt?

theorem readNat?_natDigits (n : Nat) : readNat? (natDigits n) = some n := by
  have h : (natDigits n).all Char.isDigit := by
    simp only [List.all_eq_true]
    exact fun c hc => Nat.isDigit_of_mem_toDigits (by decide) (by decide) hc
  have hv : Nat.ofDigitChars 10 (natDigits n) 0 = n :=
    Nat.ofDigitChars_toDigits (by decide) (by decide)
  have hn : natDigits n ≠ [] := Nat.toDigits_ne_nil
  simp [readNat?, h, hv, hn]

theorem readInt?_of_ne_sign {c : Char} {s : List Char} (hm : c ≠ '-') (hp : c ≠ '+') :
    readInt? (c :: s) = (readNat? (c :: s)).map Int.ofNat := by
  unfold readInt?
  split <;> simp_all

theorem readInt?_natDigits (n : Nat) : readInt? (natDigits n) = some (n : Int) := by
  have hd : ∀ c ∈ natDigits n, c.isDigit :=
    fun c hc => Nat.isDigit_of_mem_toDigits (by decide) (by decide) hc
  have hn := readNat?_natDigits n
  cases h : natDigits n with
  | nil => exact absurd h Nat.toDigits_ne_nil
  | cons c s =>
    have hc := hd c (by simp [h])
    rw [readInt?_of_ne_sign (by rintro rfl; contradiction) (by rintro rfl; contradiction), ← h, hn]
    rfl

theorem readInt?_minus (s : List Char) :
    readInt? ('-' :: s) = (readNat? s).map fun n : Nat => -(n : Int) := by
  unfold readInt?
  split <;> simp_all

theorem readInt?_intDigits (n : Int) : readInt? (intDigits n) = some n := by
  unfold intDigits
  split
  · rw [readInt?_minus, readNat?_natDigits, Option.map_some]
    congr 1
    omega
  · rw [readInt?_natDigits]
    congr 1
    omega

theorem readInt64?_intDigits (n : Int64) : readInt64? (intDigits n.toInt) = some n := by
  rw [readInt64?, readInt?_intDigits, Option.bind_some, Integer64.ofInt?_toInt]

end Decimal

end LateBound
