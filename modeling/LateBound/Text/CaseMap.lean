import LateBound.Text.CaseTable
import LateBound.Text.Cased
/-! Case mapping of whole texts. A character may map to several. The capital sigma is written `ς`
in lower case when a cased character stands before it and none after it, characters that case rules
look past set aside. -/
namespace LateBound
namespace Text

def mapCase (runs : List CaseRun) (expansions : List (Nat × List Nat)) (c : Char) : List Char :=
  match expansions.lookup c.toNat with
  | some image => image.map Char.ofNat
  | none => [((runs.findSome? (·.image? c.toNat)).map Char.ofNat).getD c]

def upperChar (c : Char) : List Char := mapCase upperRuns upperExpansions c

def lowerChar (c : Char) : List Char := mapCase lowerRuns lowerExpansions c

def toUpper (s : List Char) : List Char := s.flatMap upperChar

/-- Whether the first character that case rules do not look past has case. -/
def meetsCased (s : List Char) : Bool :=
  match s.dropWhile isCaseIgnorable with
  | c :: _ => isCased c
  | [] => false

/-- `before` holds the characters already passed, the last one first. -/
def lowerFrom (before : List Char) : List Char → List Char
  | [] => []
  | c :: rest =>
    (if c = 'Σ' then [if meetsCased before && !meetsCased rest then 'ς' else 'σ']
      else lowerChar c) ++ lowerFrom (c :: before) rest

def toLower (s : List Char) : List Char := lowerFrom [] s

end Text

end LateBound
