/-! Searching text for a pattern. Occurrences are taken from the left and do not overlap. -/
namespace LateBound
namespace Text

def indexOf? (p : List Char) : List Char → Option Nat
  | [] => if p = [] then some 0 else none
  | c :: s => if p.isPrefixOf (c :: s) then some 0 else (indexOf? p s).map (· + 1)

def extendFirst (c : Char) : List (List Char) → List (List Char)
  | [] => [[c]]
  | w :: ws => (c :: w) :: ws

/-- The parts between the occurrences of a nonempty pattern. -/
def splitOn (p : List Char) : List Char → List (List Char)
  | [] => [[]]
  | c :: s =>
    if p.isPrefixOf (c :: s) then [] :: splitOn p (s.drop (p.length - 1))
    else extendFirst c (splitOn p s)
termination_by s => s.length
decreasing_by all_goals simp only [List.length_drop, List.length_cons]; omega

/-- Every occurrence of a nonempty pattern replaced by `t`. -/
def replaceAll (p t : List Char) : List Char → List Char
  | [] => []
  | c :: s =>
    if p.isPrefixOf (c :: s) then t ++ replaceAll p t (s.drop (p.length - 1))
    else c :: replaceAll p t s
termination_by s => s.length
decreasing_by all_goals simp only [List.length_drop, List.length_cons]; omega

def split (p s : List Char) : List (List Char) :=
  if p = [] then s.map ([·]) else splitOn p s

def replace (p t s : List Char) : List Char :=
  if p = [] then s else replaceAll p t s

@[simp] theorem indexOf?_nil (s : List Char) : indexOf? [] s = some 0 := by
  cases s <;> simp [indexOf?]

theorem splitOn_ne_nil (p s : List Char) : splitOn p s ≠ [] := by
  cases s with
  | nil => simp [splitOn]
  | cons c s =>
    rw [splitOn]
    split
    · simp
    · cases splitOn p s <;> simp [extendFirst]

end Text

end LateBound
