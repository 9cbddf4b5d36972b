/-!
# Powers

- `twoTo`, `tenTo`: the powers of two and ten;
- `wordLimit`: the least natural number beyond the integers of 64 bits;
- `isWord`: the integers of 64 bits.
-/

namespace WorkflowLab

/-- Two to the power of `n`. -/
abbrev twoTo (n : Nat) : Nat := Nat.pow 2 n

/-- Ten to the power of `n`. -/
abbrev tenTo (n : Nat) : Nat := Nat.pow 10 n

/-- Integers of 64 bits lie below this number and not below its negative. -/
def wordLimit : Nat := 0x8000000000000000

/-- The integer has 64 bits. -/
def isWord (n : Int) : Bool := -wordLimit ≤ n && n < wordLimit

end WorkflowLab
