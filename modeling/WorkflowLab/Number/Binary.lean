import WorkflowLab.Number.Power

/-!
# Binary floating point numbers

A finite double is a natural mantissa times a power of two.

- `Parts`, `parts`: the value of a double, read from its bits;
- `ofRatio?`: the double nearest to a fraction, a tie going to the even mantissa, `none` beyond the largest double;
- `ofInt?`, `ofDecimal`: the same for integers and for decimal numerals.
-/

namespace WorkflowLab.Binary

/-- What a double stands for; a finite one is `mantissa * 2 ^ exponent`, with a sign of its own. -/
inductive Parts where
  | nan
  | infinite (negative : Bool)
  | finite (negative : Bool) (mantissa : Nat) (exponent : Int)
deriving DecidableEq, Repr

/-- The weight of the leading bit of a mantissa of full length, which doubles do not store. -/
def leadingBit : Nat := 0x10000000000000

/-- The value of a double. -/
def parts (x : Float) : Parts :=
  let bits := x.toBits.toNat
  let negative := bits / wordLimit == 1
  let biased : Nat := bits / leadingBit % 2048
  let fraction := bits % leadingBit
  if biased = 2047 then
    if fraction = 0 then .infinite negative else .nan
  else if biased = 0 then .finite negative fraction (-1074)
  else .finite negative (fraction + leadingBit) ((biased : Int) - 1075)

/-- The double with the given sign. -/
def signed (negative : Bool) (x : Float) : Float := if negative then -x else x

/-- The positive infinity. -/
def infinity : Float := Float.ofBits 0x7FF0000000000000

/-- Not a number. -/
def nan : Float := Float.ofBits 0x7FF8000000000000

/-- The quotient rounded to the nearest natural number, a tie going to the even one. -/
def roundDiv (num den : Nat) : Nat :=
  let q := num / den
  let r := num % den
  if 2 * r < den then q
  else if den < 2 * r then q + 1
  else if q % 2 = 0 then q else q + 1

/-- Numerator and denominator of `num / den * 2 ^ (-e)`. -/
def shifted (num den : Nat) (e : Int) : Nat × Nat :=
  if 0 ≤ e then (num, den * twoTo e.toNat) else (num * twoTo (-e).toNat, den)

/-- The exponent at which a positive fraction has a 53-bit mantissa, or the least exponent. -/
def exponentOf (num den : Nat) : Int :=
  let a : Int := Nat.log2 num - Nat.log2 den
  let (n, d) := shifted num den a
  let e := if d ≤ n then a - 52 else a - 53
  max e (-1074)

/-- The double nearest to `num / den` for a positive `den`; `none` when it is too large. -/
def ofRatio? (num den : Nat) : Option Float :=
  if num = 0 then some 0
  else
    let e := exponentOf num den
    let (n, d) := shifted num den e
    let bits := (e + 1074).toNat * leadingBit + roundDiv n d
    if bits < 2047 * leadingBit then some (Float.ofBits (UInt64.ofNat bits)) else none

/-- The double nearest to an integer; `none` when it is too large. -/
def ofInt? (n : Int) : Option Float :=
  (ofRatio? n.natAbs 1).map (signed (n < 0))

/-- The double nearest to `digits * 10 ^ exponent`; infinite when that is too large. -/
def ofDecimal (digits : Nat) (exponent : Int) : Float :=
  let size : Int := Nat.log2 digits
  if digits = 0 then 0
  else if size + 3 * exponent > 1100 ∧ 0 ≤ exponent then infinity
  else if size + 3 * exponent < -1200 ∧ exponent < 0 then 0
  else if 0 ≤ exponent then (ofRatio? (digits * tenTo exponent.toNat) 1).getD infinity
  else (ofRatio? digits (tenTo (-exponent).toNat)).getD infinity

/-- The greatest integer not above a finite double. -/
def floor? (x : Float) : Option Int :=
  match parts x with
  | .finite negative m e =>
    let n : Int := if negative then -m else m
    some (if 0 ≤ e then n * twoTo e.toNat else n / twoTo (-e).toNat)
  | _ => none

/-- The integer part of a finite double. -/
def truncate? (x : Float) : Option Int :=
  match parts x with
  | .finite negative m e =>
    let n : Int := if 0 ≤ e then m * twoTo e.toNat else m / twoTo (-e).toNat
    some (if negative then -n else n)
  | _ => none

/-- The integer equal to a double, if there is one. -/
def toInt? (x : Float) : Option Int :=
  match parts x with
  | .finite negative m e =>
    let n : Int := if negative then -m else m
    if 0 ≤ e then some (n * twoTo e.toNat)
    else if m % twoTo (-e).toNat = 0 then some (n / twoTo (-e).toNat)
    else none
  | _ => none

/-- Compares an integer with a double exactly; `none` when the double is not a number. -/
def compareInt (n : Int) (x : Float) : Option Ordering :=
  match parts x with
  | .nan => none
  | .infinite negative => some (if negative then .gt else .lt)
  | .finite negative m e =>
    let v : Int := if negative then -m else m
    some (if 0 ≤ e then compare n (v * twoTo e.toNat) else compare (n * twoTo (-e).toNat) v)

end WorkflowLab.Binary
