import WorkflowLab.Number.Binary

/-!
# Shortest decimal digits

The digits that identify a double: of all decimal numerals that round to it, those with the fewest digits, and of
these the nearest.

- `Digits`: `digits * 10 ^ exponent`;
- `Grid`: a positive double with the interval of numbers that round to it, measured in quarter units of its last
  place, and the tests of a decimal candidate against them;
- `shortest`: the least number of digits at which one of the value's two decimal neighbours lies in the interval.
-/

namespace WorkflowLab.Binary

/-- A decimal numeral, `digits * 10 ^ exponent`. -/
structure Digits where
  digits : Nat
  exponent : Int
deriving DecidableEq, Repr

/-- A positive double in quarter units: it is `4 * mantissa` units, a unit being `num / den`, and the numbers that
round to it reach from `low` to `high` units, ends included when `closed`. -/
structure Grid where
  mantissa : Nat
  low : Nat
  high : Nat
  num : Nat
  den : Nat
  closed : Bool

/-- The grid of `m * 2 ^ e`; below a power of two the neighbouring double is only half as far. -/
def Grid.of (m : Nat) (e : Int) : Grid where
  mantissa := m
  low := if m = leadingBit ∧ -1074 < e then 4 * m - 1 else 4 * m - 2
  high := 4 * m + 2
  num := if 2 ≤ e then twoTo (e - 2).toNat else 1
  den := if 2 ≤ e then 1 else twoTo (2 - e).toNat
  closed := m % 2 == 0

/-- The fraction `10 ^ k` as numerator and denominator. -/
def tenPower (k : Int) : Nat × Nat :=
  if 0 ≤ k then (tenTo k.toNat, 1) else (1, tenTo (-k).toNat)

/-- Whether `c * 10 ^ k` rounds to the double. -/
def Grid.holds (g : Grid) (k : Int) (c : Nat) : Bool :=
  let (pn, pd) := tenPower k
  let x := c * pn * g.den
  let lo := g.low * g.num * pd
  let hi := g.high * g.num * pd
  if g.closed then lo ≤ x && x ≤ hi else lo < x && x < hi

/-- The greatest `c` for which `c * 10 ^ k` does not exceed the double. -/
def Grid.below (g : Grid) (k : Int) : Nat :=
  let (pn, pd) := tenPower k
  4 * g.mantissa * g.num * pd / (pn * g.den)

/-- Whether `(c + 1) * 10 ^ k` is nearer to the double than `c * 10 ^ k`, or as near while `c` is odd. -/
def Grid.prefersAbove (g : Grid) (k : Int) (c : Nat) : Bool :=
  let (pn, pd) := tenPower k
  let v := 8 * g.mantissa * g.num * pd
  let mid := (2 * c + 1) * pn * g.den
  mid < v || (mid == v && c % 2 == 1)

/-- The neighbour of the double on the grid of multiples of `10 ^ k` that rounds to it, if one does. -/
def Grid.pick? (g : Grid) (k : Int) : Option Digits :=
  let c := g.below k
  match g.holds k c && c != 0, g.holds k (c + 1) with
  | true, true => some ⟨if g.prefersAbove k c then c + 1 else c, k⟩
  | true, false => some ⟨c, k⟩
  | false, true => some ⟨c + 1, k⟩
  | false, false => none

/-- The number of decimal digits of a positive number. -/
def digitCount (n : Nat) : Nat := (Nat.toDigits 10 n).length

/-- The least `k` with the double below `10 ^ k`. -/
def Grid.magnitude (g : Grid) : Int :=
  let n := 4 * g.mantissa * g.num
  if g.den ≤ n then digitCount (n / g.den)
  else
    let k : Int := 1 - digitCount (g.den / n)
    let (pn, pd) := tenPower k
    if n * pd < pn * g.den then k else k + 1

/-- Drops the zeros at the end of the digits; `fuel` bounds their number. -/
def Digits.trim : Nat → Digits → Digits
  | 0, d => d
  | fuel + 1, d =>
    if d.digits % 10 = 0 ∧ d.digits ≠ 0 then Digits.trim fuel ⟨d.digits / 10, d.exponent + 1⟩ else d

/-- The shortest digits of the positive double `m * 2 ^ e`; seventeen digits always suffice. -/
def shortest (m : Nat) (e : Int) : Digits :=
  let g := Grid.of m e
  let k := g.magnitude
  ((List.range 17).findSome? fun (n : Nat) => g.pick? (k - ((n : Int) + 1))).getD ⟨g.below (k - 17), k - 17⟩ |>.trim 20

end WorkflowLab.Binary
