import WorkflowLab.Number.Text

/-!
# Doubles with a number of places

- `fixedPoint`: a double with a number of decimal places;
- `scientific`: a double with a number of digits after the first one, and an exponent;
- `general`: a double with a number of digits in all, in the shorter of the two forms.

The digits are those of the exact value, rounded; a tie goes to the even digit. A layout that is `full` keeps the
point without places and the zeros at the end.
-/

namespace WorkflowLab.Number

open Binary

/-- The double `m * 2 ^ e` times ten to the power of `places`, rounded. -/
def scaled (m : Nat) (e places : Int) : Nat :=
  let (pn, pd) := tenPower places
  if 0 ≤ e then roundDiv (m * twoTo e.toNat * pn) pd else roundDiv (m * pn) (twoTo (-e).toNat * pd)

/-- Digits with a point before the last `places` of them. -/
def pointed (full : Bool) (places : Nat) (digits : List Char) : List Char :=
  let digits := List.replicate (places + 1 - digits.length) '0' ++ digits
  let whole := digits.take (digits.length - places)
  if places = 0 then if full then whole ++ ['.'] else whole
  else whole ++ '.' :: digits.drop (digits.length - places)

/-- The double `m * 2 ^ e` with a number of places. -/
def fixedPoint (full : Bool) (places m : Nat) (e : Int) : List Char :=
  pointed full places (natDigits (scaled m e places))

/-- The first digits of the double `m * 2 ^ e`, one more than `places`, and the exponent of the first one. -/
def leading (places m : Nat) (e : Int) : Nat × Int :=
  if m = 0 then (0, 0)
  else
    let k := (Grid.of m e).magnitude - 1
    let n := scaled m e (places - k)
    if n = tenTo (places + 1) then (n / 10, k + 1) else (n, k)

/-- The double `m * 2 ^ e` with an exponent. -/
def scientific (full : Bool) (places m : Nat) (e : Int) : List Char :=
  let (n, k) := leading places m e
  pointed full places (natDigits n) ++ renderExponent k

/-- Digits without the zeros at the end of their places, and without a point that nothing follows. -/
def dropZeros (digits : List Char) : List Char :=
  if digits.contains '.' then
    let rest := digits.reverse.dropWhile (· == '0')
    (match rest with
      | '.' :: whole => whole
      | _ => rest).reverse
  else digits

/-- The double `m * 2 ^ e` with a number of digits in all. -/
def general (full : Bool) (precision m : Nat) (e : Int) : List Char :=
  let precision := max 1 precision
  let k := (leading (precision - 1) m e).2
  if -4 ≤ k ∧ k < precision then
    let text := fixedPoint full ((precision : Int) - 1 - k).toNat m e
    if full then text else dropZeros text
  else
    let (n, k) := leading (precision - 1) m e
    let text := pointed full (precision - 1) (natDigits n)
    (if full then text else dropZeros text) ++ renderExponent k

end WorkflowLab.Number
