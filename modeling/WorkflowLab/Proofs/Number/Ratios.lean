import Mathlib.Algebra.Group.Nat.Defs
import WorkflowLab.Number.Binary

/-!
# Fractions as doubles

- `AtLeast`: a fraction reaches a power of two; `exists_atLeast` finds the greatest one, which gives the exponent of the
  double nearest to the fraction;
- `mantissa_bounds`, `exponentOf_le`: the size of the mantissa and of the exponent;
- `ratioBits`, `ratioBits_le`: the bits of the double;
- `tooLarge`, `le_ratioBits_iff`, `ofRatio?_eq_none_iff`: the fractions that are too large for a double.
-/

namespace WorkflowLab.Binary

/-- A fraction is at least two to the power of `x`. -/
def AtLeast (num den : Nat) (x : Int) : Prop := den * 2 ^ x.toNat ≤ num * 2 ^ (-x).toNat

theorem atLeast_iff {num den : Nat} {x : Int} {n : Nat} (hx : -x ≤ n) :
    AtLeast num den x ↔ den * 2 ^ (x + n).toNat ≤ num * 2 ^ n := by
  have hleft : (x + n).toNat = x.toNat + (n - (-x).toNat) := by omega
  have hright : n = (-x).toNat + (n - (-x).toNat) := by omega
  generalize n - (-x).toNat = r at hleft hright
  rw [hleft, hright, Nat.pow_add, Nat.pow_add, ← Nat.mul_assoc, ← Nat.mul_assoc,
    Nat.mul_le_mul_right_iff (Nat.two_pow_pos r)]
  rfl

/-- Smaller powers are reached sooner. -/
theorem AtLeast.mono {num den : Nat} {x y : Int} (h : AtLeast num den y) (hxy : x ≤ y) : AtLeast num den x := by
  have hx : -x ≤ ((-x).toNat : Nat) := by omega
  rw [atLeast_iff hx]
  rw [atLeast_iff (show -y ≤ ((-x).toNat : Nat) by omega)] at h
  exact Nat.le_trans (Nat.mul_le_mul_left _ (Nat.pow_le_pow_right (by decide) (by omega))) h

theorem atLeast_natCast (num den k : Nat) : AtLeast num den k ↔ 2 ^ k * den ≤ num := by
  have hnone : (-(k : Int)).toNat = 0 := by omega
  rw [AtLeast, hnone, Int.toNat_natCast, Nat.pow_zero, Nat.mul_one, Nat.mul_comm]

theorem atLeast_add (num den j unit : Nat) : AtLeast num den (j + unit : Nat) ↔ 2 ^ j * (2 ^ unit * den) ≤ num := by
  rw [atLeast_natCast, Nat.pow_add, Nat.mul_assoc]

theorem shifted_eq (num den : Nat) (e : Int) : shifted num den e = (num * 2 ^ (-e).toNat, den * 2 ^ e.toNat) := by
  unfold shifted
  split
  · next h =>
    have hnone : (-e).toNat = 0 := by omega
    rw [hnone, Nat.pow_zero, Nat.mul_one]
    rfl
  · next h =>
    have hnone : e.toNat = 0 := by omega
    rw [hnone, Nat.pow_zero, Nat.mul_one]
    rfl

theorem shifted_natCast (num den j unit : Nat) :
    shifted num den (j + unit : Nat) = (num, 2 ^ j * (2 ^ unit * den)) := by
  have hnone : (-((j + unit : Nat) : Int)).toNat = 0 := by omega
  rw [shifted_eq, hnone, Int.toNat_natCast, Nat.pow_zero, Nat.mul_one, Nat.pow_add, Nat.mul_comm den, Nat.mul_assoc]

/-- The mantissa of a fraction at an exponent, against a power of two. -/
theorem pow_mul_le_shifted_iff (num den : Nat) (e : Int) (j : Nat) :
    2 ^ j * (shifted num den e).2 ≤ (shifted num den e).1 ↔ AtLeast num den (e + j) := by
  rw [shifted_eq, atLeast_iff (show -(e + j) ≤ ((-e).toNat : Nat) by omega)]
  have hpower : (e + j + (-e).toNat).toNat = j + e.toNat := by omega
  rw [hpower, Nat.pow_add, Nat.mul_left_comm]

section

variable {num den : Nat} (hnum : 0 < num) (hden : 0 < den)
include hnum hden

/-- The power of two that a fraction reaches, but not the next one. -/
theorem exists_atLeast : ∃ t : Int, AtLeast num den t ∧ ¬AtLeast num den (t + 1) ∧
    exponentOf num den = max (t - 52) (-1074) := by
  have hnumLow : 2 ^ num.log2 ≤ num := Nat.log2_self_le (Nat.ne_of_gt hnum)
  have hnumHigh : num < 2 ^ (num.log2 + 1) := Nat.lt_log2_self
  have hdenLow : 2 ^ den.log2 ≤ den := Nat.log2_self_le (Nat.ne_of_gt hden)
  have hdenHigh : den < 2 ^ (den.log2 + 1) := Nat.lt_log2_self
  have hlow : AtLeast num den (num.log2 - den.log2 - 1) := by
    rw [atLeast_iff (show -((num.log2 : Int) - den.log2 - 1) ≤ ((den.log2 + 1 : Nat) : Int) by omega)]
    have hpower : ((num.log2 : Int) - den.log2 - 1 + (den.log2 + 1 : Nat)).toNat = num.log2 := by omega
    rw [hpower, Nat.mul_comm]
    exact Nat.mul_le_mul hnumLow (Nat.le_of_lt hdenHigh)
  have hhigh : ¬AtLeast num den (num.log2 - den.log2 + 1) := by
    rw [atLeast_iff (show -((num.log2 : Int) - den.log2 + 1) ≤ (den.log2 : Int) by omega)]
    have hpower : ((num.log2 : Int) - den.log2 + 1 + den.log2).toNat = num.log2 + 1 := by omega
    rw [hpower, Nat.not_le, Nat.mul_comm den]
    exact Nat.mul_lt_mul_of_lt_of_le hnumHigh hdenLow hden
  have hreached := pow_mul_le_shifted_iff num den (num.log2 - den.log2) 0
  rw [Nat.pow_zero, Nat.one_mul] at hreached
  unfold exponentOf
  dsimp only
  split
  · next h =>
    exact ⟨num.log2 - den.log2, by simpa using hreached.mp h, hhigh, rfl⟩
  · next h =>
    refine ⟨num.log2 - den.log2 - 1, hlow, ?_, by omega⟩
    intro hnot
    exact h (hreached.mpr (hnot.mono (by omega)))

/-- The mantissa of a fraction fills at most 53 bits, and at least 53 unless its exponent is the least one. -/
theorem mantissa_bounds :
    (shifted num den (exponentOf num den)).1 < 2 ^ 53 * (shifted num den (exponentOf num den)).2 ∧
      (-1074 < exponentOf num den →
        2 ^ 52 * (shifted num den (exponentOf num den)).2 ≤ (shifted num den (exponentOf num den)).1) := by
  obtain ⟨t, hreached, hnext, he⟩ := exists_atLeast hnum hden
  constructor
  · rw [← Nat.not_le, pow_mul_le_shifted_iff]
    exact fun h => hnext (h.mono (by omega))
  · intro hlow
    rw [pow_mul_le_shifted_iff]
    exact hreached.mono (by omega)

/-- The exponent of a fraction below a power of two. -/
theorem exponentOf_le {k : Nat} (h : num < 2 ^ k * den) : exponentOf num den ≤ max ((k : Int) - 53) (-1074) := by
  obtain ⟨t, hreached, -, he⟩ := exists_atLeast hnum hden
  have hbelow : t < k := by
    refine Int.not_le.mp fun hk => ?_
    have hk := (atLeast_natCast num den k).mp (hreached.mono hk)
    omega
  omega

end

/-- A quotient is rounded to a neighbour. -/
theorem roundDiv_eq_or (n d : Nat) : roundDiv n d = n / d ∨ roundDiv n d = n / d + 1 := by
  unfold roundDiv
  dsimp only
  split
  · exact .inl rfl
  · split
    · exact .inr rfl
    · split
      · exact .inl rfl
      · exact .inr rfl

theorem roundDiv_le {n d q : Nat} (h : n < q * d) : roundDiv n d ≤ q := by
  have hq : n / d < q := Nat.div_lt_of_lt_mul (by rwa [Nat.mul_comm])
  have hround := roundDiv_eq_or n d
  omega

theorem le_roundDiv {n d q : Nat} (hd : 0 < d) (h : q * d ≤ n) : q ≤ roundDiv n d := by
  have hq : q ≤ n / d := (Nat.le_div_iff_mul_le hd).mpr h
  have hround := roundDiv_eq_or n d
  omega

/-- The bits of the double nearest to a fraction. -/
def ratioBits (num den : Nat) : Nat :=
  (exponentOf num den + 1074).toNat * leadingBit +
    roundDiv (shifted num den (exponentOf num den)).1 (shifted num den (exponentOf num den)).2

theorem ofRatio?_eq (num den : Nat) : ofRatio? num den =
    if num = 0 then some 0
    else if ratioBits num den < 2047 * leadingBit then some (Float.ofBits (UInt64.ofNat (ratioBits num den)))
    else none := rfl

/-- The bits of a fraction below a power of two. -/
theorem ratioBits_le {num den k : Nat} (hnum : 0 < num) (hden : 0 < den) (h : num < 2 ^ k * den) :
    ratioBits num den ≤ (k + 1023) * leadingBit := by
  have he := exponentOf_le hnum hden h
  have hmantissa := roundDiv_le (mantissa_bounds hnum hden).1
  unfold ratioBits leadingBit
  omega

/-- Half a step above the largest number of 53 bits in units of two to the power of `scale + 1`. -/
def halfAbove (scale : Nat) : Nat := (2 ^ 54 - 1) * 2 ^ scale

theorem halfAbove_mul (scale den : Nat) : halfAbove scale * den = (2 ^ 54 - 1) * (2 ^ scale * den) := Nat.mul_assoc ..

theorem halfAbove_pos (scale : Nat) : 0 < halfAbove scale := Nat.mul_pos (by decide) (Nat.two_pow_pos scale)

/-- Twice as much has a bit more. -/
theorem pow_le_halfAbove (scale : Nat) : 2 ^ 53 * 2 ^ (scale + 1) ≤ halfAbove scale * 2 := by
  have hdouble : 2 ^ (scale + 1) = 2 ^ scale * 2 := Nat.pow_succ ..
  unfold halfAbove
  omega

/-- The least number that is too large for a double. -/
def tooLarge : Nat := halfAbove 970

theorem tooLarge_pos : 0 < tooLarge := halfAbove_pos 970

/-- A mantissa is rounded up to the next power of two from half a step below on. -/
theorem carry_iff {n d : Nat} (hd : 0 < d) (h : n < 2 ^ 53 * d) :
    2 ^ 53 ≤ roundDiv n d ↔ (2 ^ 54 - 1) * d ≤ 2 * n := by
  have hsplit := Nat.div_add_mod n d
  have hrest := Nat.mod_lt n hd
  by_cases hq : n / d = 2 ^ 53 - 1
  · rw [hq] at hsplit
    unfold roundDiv
    dsimp only
    rw [hq]
    split
    · omega
    · split
      · omega
      · rw [if_neg (by decide)]
        omega
  · have hlt : n < (2 ^ 53 - 1) * d := by
      have hle : n / d < 2 ^ 53 := Nat.div_lt_of_lt_mul (by rwa [Nat.mul_comm])
      exact (Nat.div_lt_iff_lt_mul hd).mp (by omega)
    have hround := roundDiv_le hlt
    omega

/-- The bits are those of an infinite double for the fractions that are too large. -/
theorem le_ratioBits_iff {num den : Nat} (hnum : 0 < num) (hden : 0 < den) :
    2047 * leadingBit ≤ ratioBits num den ↔ tooLarge * den ≤ num := by
  obtain ⟨hhigh, hlow⟩ := mantissa_bounds hnum hden
  have hd : 0 < (shifted num den (exponentOf num den)).2 := by
    rw [shifted_eq]
    exact Nat.mul_pos hden (Nat.two_pow_pos _)
  rw [tooLarge, halfAbove_mul]
  rcases Int.lt_trichotomy (exponentOf num den) 971 with he | he | he
  · -- The exponent leaves room for any mantissa.
    have hround := roundDiv_le hhigh
    rw [← Nat.not_le, pow_mul_le_shifted_iff] at hhigh
    have hsmall : ¬AtLeast num den (53 + 970 : Nat) := fun h => hhigh (h.mono (by omega))
    rw [atLeast_add] at hsmall
    generalize 2 ^ 970 * den = unit at hsmall ⊢
    unfold ratioBits leadingBit
    omega
  · -- The exponent is the greatest one, and the mantissa decides.
    have he : exponentOf num den = ((1 + 970 : Nat) : Int) := he
    have hcarry := carry_iff hd hhigh
    rw [he, shifted_natCast] at hcarry hhigh
    have hround := roundDiv_le hhigh
    unfold ratioBits leadingBit
    rw [he, shifted_natCast]
    generalize 2 ^ 970 * den = unit at *
    dsimp only at *
    omega
  · -- The exponent is too great for any mantissa.
    have hlow := hlow (by omega)
    have hround := le_roundDiv hd hlow
    rw [pow_mul_le_shifted_iff] at hlow
    have hlarge : AtLeast num den (54 + 970 : Nat) := hlow.mono (by omega)
    rw [atLeast_add] at hlarge
    generalize 2 ^ 970 * den = unit at hlarge ⊢
    unfold ratioBits leadingBit
    omega

/-- **The fractions that are too large for a double.** -/
theorem ofRatio?_eq_none_iff {num den : Nat} (hden : 0 < den) : ofRatio? num den = none ↔ tooLarge * den ≤ num := by
  by_cases hzero : num = 0
  · have hpos : 0 < tooLarge * den := Nat.mul_pos tooLarge_pos hden
    rw [ofRatio?_eq, if_pos hzero, hzero]
    exact iff_of_false nofun (Nat.not_le.mpr hpos)
  · rw [← le_ratioBits_iff (Nat.pos_of_ne_zero hzero) hden, ofRatio?_eq, if_neg hzero]
    split
    · exact iff_of_false nofun (by omega)
    · exact iff_of_true rfl (by omega)

end WorkflowLab.Binary
