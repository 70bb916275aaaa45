/-! Sets of characters given by closed ranges of code points. -/
namespace LateBound
namespace Text

def inRanges (table : List (Nat × Nat)) (c : Char) : Bool :=
  table.any fun r => r.1 ≤ c.toNat && c.toNat ≤ r.2

end Text

end LateBound
