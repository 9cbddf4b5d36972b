/-!
# Character classes by ranges

A class of characters given as a list of closed code point ranges.
-/

namespace WorkflowLab.Text

/-- Whether the code point of `c` lies in one of the closed ranges. -/
def inRanges (ranges : List (Nat × Nat)) (c : Char) : Bool :=
  ranges.any fun r => r.1 ≤ c.toNat && c.toNat ≤ r.2

end WorkflowLab.Text
