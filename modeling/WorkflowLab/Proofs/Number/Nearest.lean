import Mathlib
import WorkflowLab.Number.Shortest
import WorkflowLab.Proofs.Number.Ratios

/-!
# The numbers that round to a double

- `IsCanonical`: mantissa and exponent of a positive double, and `bitsOf`, its bits;
- `RoundsTo`: a rational number lies between the midpoints from a double to its neighbours, a midpoint itself counting
  only beside an even mantissa;
- `ratioBits_eq`: **a fraction that rounds to a double has its bits**;
- `ofDecimal_eq`: so has a decimal numeral.
-/

namespace WorkflowLab.Binary

/-- Mantissa and exponent of a positive double. -/
structure IsCanonical (m : Nat) (e : Int) : Prop where
  pos : 0 < m
  bits : m < 2 ^ 53
  low : -1074 ≤ e
  high : e ≤ 971
  full : e = -1074 ∨ 2 ^ 52 ≤ m

/-- The bits of a positive double. -/
def bitsOf (m : Nat) (e : Int) : Nat := (e + 1074).toNat * leadingBit + m

/-- **A number rounds to a double**, measured in quarter units of its last place. -/
structure RoundsTo (m : Nat) (e : Int) (x : ℚ) : Prop where
  low : ((Grid.of m e).low : ℚ) ≤ 4 * (x / 2 ^ e)
  high : 4 * (x / 2 ^ e) ≤ (Grid.of m e).high
  odd : m % 2 = 1 → ((Grid.of m e).low : ℚ) < 4 * (x / 2 ^ e) ∧ 4 * (x / 2 ^ e) < (Grid.of m e).high

/-- A power with an integer exponent as a fraction of natural numbers. -/
theorem zpow_eq_div {b : Nat} (hb : 0 < b) (s : Int) :
    (b : ℚ) ^ s = ((b ^ s.toNat : Nat) : ℚ) / ((b ^ (-s).toNat : Nat) : ℚ) := by
  have hne : (b : ℚ) ≠ 0 := by exact_mod_cast hb.ne'
  rcases le_total 0 s with h | h
  · obtain ⟨n, rfl⟩ := Int.eq_ofNat_of_zero_le h
    simp
  · obtain ⟨n, hn⟩ := Int.eq_ofNat_of_zero_le (neg_nonneg.mpr h)
    obtain rfl : s = -(n : Int) := by omega
    simp

section

variable {num den : Nat} (hden : 0 < den)
include hden

theorem shifted_pos (s : Int) : 0 < (shifted num den s).2 := by
  rw [shifted_eq]
  exact Nat.mul_pos hden (Nat.two_pow_pos _)

/-- A fraction reaches a power of two as a rational number. -/
theorem atLeast_iff_zpow_le (s : Int) : AtLeast num den s ↔ (2 : ℚ) ^ s ≤ num / den := by
  have hpos : (0 : ℚ) < den := by exact_mod_cast hden
  have htwo := zpow_eq_div (b := 2) (by decide) s
  have hunit : (0 : ℚ) < ((2 ^ (-s).toNat : Nat) : ℚ) := by exact_mod_cast Nat.two_pow_pos _
  rw [Nat.cast_ofNat] at htwo
  rw [htwo, div_le_div_iff₀ hunit hpos, AtLeast, mul_comm den]
  exact_mod_cast Iff.rfl

/-- The mantissa of a fraction at an exponent, as a rational number. -/
theorem shifted_div (s : Int) :
    ((shifted num den s).1 : ℚ) / (shifted num den s).2 = (num : ℚ) / den / 2 ^ s := by
  have hpos : (den : ℚ) ≠ 0 := by exact_mod_cast hden.ne'
  have htwo := zpow_eq_div (b := 2) (by decide) s
  rw [Nat.cast_ofNat] at htwo
  rw [shifted_eq, htwo]
  push_cast
  field_simp

/-- The mantissa of a fraction against a bound in quarter units. -/
theorem mul_shifted_le_iff (s : Int) (k : Nat) :
    k * (shifted num den s).2 ≤ 4 * (shifted num den s).1 ↔ (k : ℚ) ≤ 4 * ((num : ℚ) / den / 2 ^ s) := by
  have hpos : (0 : ℚ) < (shifted num den s).2 := by exact_mod_cast shifted_pos hden s
  rw [← shifted_div hden, ← mul_div_assoc, le_div_iff₀ hpos]
  exact_mod_cast Iff.rfl

theorem le_mul_shifted_iff (s : Int) (k : Nat) :
    4 * (shifted num den s).1 ≤ k * (shifted num den s).2 ↔ 4 * ((num : ℚ) / den / 2 ^ s) ≤ k := by
  have hpos : (0 : ℚ) < (shifted num den s).2 := by exact_mod_cast shifted_pos hden s
  rw [← shifted_div hden, ← mul_div_assoc, div_le_iff₀ hpos]
  exact_mod_cast Iff.rfl

end

/-- A quotient within half a unit of a number is rounded to it; one at half a unit only if the number is even. -/
theorem roundDiv_eq {n d m : Nat} (hd : 0 < d) (hlow : (4 * m) * d ≤ 4 * n + 2 * d) (hhigh : 4 * n ≤ (4 * m + 2) * d)
    (hodd : m % 2 = 1 → (4 * m) * d < 4 * n + 2 * d ∧ 4 * n < (4 * m + 2) * d) : roundDiv n d = m := by
  have hsplit := Nat.div_add_mod n d
  have hrest := Nat.mod_lt n hd
  have hquotient : n / d = m ∨ n / d + 1 = m := by
    have hle : n / d < m + 1 := by
      rw [Nat.div_lt_iff_lt_mul hd]
      nlinarith
    have hge : m ≤ n / d + 1 := by
      rw [← Nat.sub_le_iff_le_add, Nat.le_div_iff_mul_le hd, Nat.sub_mul, Nat.sub_le_iff_le_add]
      nlinarith
    omega
  unfold roundDiv
  dsimp only
  generalize n % d = r at *
  rcases hquotient with hm | hm
  · rw [hm] at hsplit ⊢
    have hhalf : 2 * r ≤ d := by nlinarith
    have hstrict : m % 2 = 1 → 2 * r < d := fun h => by nlinarith [(hodd h).2]
    split
    · rfl
    · split
      · omega
      · rw [if_pos (by omega)]
  · subst hm
    have hhalf : d ≤ 2 * r := by nlinarith
    have hstrict : (n / d + 1) % 2 = 1 → d < 2 * r := fun h => by nlinarith [(hodd h).1]
    split
    · omega
    · split
      · rfl
      · rw [if_neg (by omega)]

/-! ## Fractions -/

/-- The lower end of the interval is half a unit below the double, or less. -/
theorem Grid.low_ge (m : Nat) (e : Int) : 4 * m ≤ (Grid.of m e).low + 2 := by
  unfold Grid.of
  dsimp only
  split <;> omega

section

variable {num den m : Nat} {e : Int}

/-- What rounds to a positive double is positive. -/
theorem RoundsTo.pos {x : ℚ} (hm : IsCanonical m e) (h : RoundsTo m e x) : 0 < x := by
  have hends := Grid.low_ge m e
  have hpos := hm.pos
  have hlow : (2 : ℚ) ≤ (Grid.of m e).low := by exact_mod_cast (by omega : 2 ≤ (Grid.of m e).low)
  have hunit : (0 : ℚ) < 2 ^ e := by positivity
  have hquarters : 0 < x / 2 ^ e := by linarith [h.low]
  exact (div_pos_iff_of_pos_right hunit).mp hquarters

variable (hden : 0 < den)
include hden

/-- The bits of a fraction whose mantissa at its exponent is within half a unit of a double's mantissa. -/
theorem ratioBits_of_exponent (h : RoundsTo m e (num / den)) (he : exponentOf num den = e) :
    ratioBits num den = bitsOf m e := by
  have hlow := (mul_shifted_le_iff hden e _).mpr h.low
  have hhigh := (le_mul_shifted_iff hden e _).mpr h.high
  have hstrict : m % 2 = 1 → (Grid.of m e).low * (shifted num den e).2 < 4 * (shifted num den e).1 ∧
      4 * (shifted num den e).1 < (Grid.of m e).high * (shifted num den e).2 := by
    intro hodd
    rw [← Nat.not_le, le_mul_shifted_iff hden, ← Nat.not_le, mul_shifted_le_iff hden, not_le, not_le]
    exact h.odd hodd
  have hends := Grid.low_ge m e
  rw [ratioBits, bitsOf, he]
  congr 1
  refine roundDiv_eq (shifted_pos hden e) ?_ hhigh fun hodd => ⟨?_, (hstrict hodd).2⟩
  · nlinarith
  · nlinarith [(hstrict hodd).1]

/-- A power of two that a fraction reaches, in quarter units. -/
theorem atLeast_add_iff (j : Nat) :
    AtLeast num den (e + j) ↔ 4 * (2 : ℚ) ^ j ≤ 4 * ((num : ℚ) / den / 2 ^ e) := by
  have hunit : (0 : ℚ) < 2 ^ e := by positivity
  rw [atLeast_iff_zpow_le hden, zpow_add₀ (by norm_num), zpow_natCast, mul_le_mul_iff_right₀ (by norm_num),
    le_div_iff₀ hunit, mul_comm]

omit hden in
/-- Only below a power of two does the rounding interval of a double reach to mantissas of less than full length. -/
theorem eq_leadingBit_of_lt (hm : IsCanonical m e) (hnormal : -1074 < e) {x : ℚ} (h : RoundsTo m e x)
    (hbelow : 4 * (x / 2 ^ e) < 4 * 2 ^ 52) : m = leadingBit := by
  have hends : ((4 * m : Nat) : ℚ) ≤ (((Grid.of m e).low + 2 : Nat) : ℚ) := by exact_mod_cast Grid.low_ge m e
  have hle : (m : ℚ) < 2 ^ 52 + 1 := by
    push_cast at hends
    linarith [h.low]
  have hle : m < 2 ^ 52 + 1 := by exact_mod_cast hle
  have hge := hm.full.resolve_left (by omega)
  unfold leadingBit
  omega

omit hden in
/-- The lower end of the interval of a power of two is a quarter unit below it. -/
theorem RoundsTo.low_of_power (hnormal : -1074 < e) {x : ℚ} (h : RoundsTo leadingBit e x) :
    4 * 2 ^ 52 - 1 ≤ 4 * (x / 2 ^ e) := by
  have hedge : (Grid.of leadingBit e).low = 4 * leadingBit - 1 := by simp [Grid.of, hnormal]
  have hlow := h.low
  rw [hedge] at hlow
  refine le_trans ?_ hlow
  norm_num [leadingBit]

/-- A fraction just below a power of two is rounded up to it, in units that are half as large. -/
theorem ratioBits_below_power (hnormal : -1074 < e) (h : RoundsTo leadingBit e (num / den))
    (hbelow : 4 * ((num : ℚ) / den / 2 ^ e) < 4 * 2 ^ 52) (he : exponentOf num den = e - 1) :
    ratioBits num den = bitsOf leadingBit e := by
  have hhalf : 4 * ((num : ℚ) / den / 2 ^ (e - 1)) = 2 * (4 * ((num : ℚ) / den / 2 ^ e)) := by
    rw [zpow_sub_one₀ (by norm_num)]
    ring
  have hlow := h.low_of_power hnormal
  have hlow : (4 * 2 ^ 53 - 2) * (shifted num den (e - 1)).2 ≤ 4 * (shifted num den (e - 1)).1 := by
    rw [mul_shifted_le_iff hden, hhalf]
    norm_num
    linarith
  have hhigh : 4 * (shifted num den (e - 1)).1 ≤ 4 * 2 ^ 53 * (shifted num den (e - 1)).2 := by
    rw [le_mul_shifted_iff hden, hhalf]
    norm_num
    linarith
  have hround : roundDiv (shifted num den (e - 1)).1 (shifted num den (e - 1)).2 = 2 ^ 53 :=
    roundDiv_eq (shifted_pos hden _) (by omega) (by omega) fun hodd => absurd hodd (by decide)
  rw [ratioBits, bitsOf, he, hround]
  unfold leadingBit
  omega

/-- **A fraction that rounds to a double has its bits.** -/
theorem ratioBits_eq (hm : IsCanonical m e) (h : RoundsTo m e (num / den)) : ratioBits num den = bitsOf m e := by
  have hposden : (0 : ℚ) < den := by exact_mod_cast hden
  have hnum : 0 < num := by
    have hratio := (div_pos_iff_of_pos_right hposden).mp (h.pos hm)
    exact_mod_cast hratio
  obtain ⟨t, hreached, hnext, hexponent⟩ := exists_atLeast hnum hden
  have hover : ¬AtLeast num den (e + (53 : Nat)) := by
    have hbits : (m : ℚ) + 1 ≤ 2 ^ 53 := by exact_mod_cast hm.bits
    have hhigh : 4 * ((num : ℚ) / den / 2 ^ e) ≤ 4 * m + 2 := by simpa [Grid.of] using h.high
    rw [atLeast_add_iff hden, not_le]
    linarith
  have hlow := hm.low
  have htop : t < e + 53 := Int.not_le.mp fun hle => hover (hreached.mono hle)
  by_cases hfull : AtLeast num den (e + (52 : Nat))
  · -- The mantissa of the fraction has its full length at the exponent of the double.
    have ht : e + 52 ≤ t := Int.not_lt.mp fun hlt => hnext (hfull.mono (by omega))
    exact ratioBits_of_exponent hden h (by omega)
  · have ht : t < e + 52 := Int.not_le.mp fun hle => hfull (hreached.mono hle)
    rcases Int.lt_or_eq_of_le hlow with hnormal | hleast
    · -- The double is a power of two, and the fraction is below it.
      have hbelow : 4 * ((num : ℚ) / den / 2 ^ e) < 4 * 2 ^ 52 := by
        rw [← not_le, ← atLeast_add_iff hden]
        exact hfull
      obtain rfl := eq_leadingBit_of_lt hm hnormal h hbelow
      have hreach : AtLeast num den (e + (51 : Nat)) := by
        rw [atLeast_add_iff hden]
        linarith [h.low_of_power hnormal]
      have ht : e + 51 ≤ t := Int.not_lt.mp fun hlt => hnext (hreach.mono (by omega))
      exact ratioBits_below_power hden hnormal h hbelow (by omega)
    · exact ratioBits_of_exponent hden h (by omega)

/-- The double nearest to a fraction that rounds to it. -/
theorem ofRatio?_of_roundsTo (hm : IsCanonical m e) (h : RoundsTo m e (num / den)) :
    ofRatio? num den = some (Float.ofBits (UInt64.ofNat (bitsOf m e))) := by
  have hnum : num ≠ 0 := by
    rintro rfl
    have hpos := h.pos hm
    simp at hpos
  have hfits : bitsOf m e < 2047 * leadingBit := by
    have hbits := hm.bits
    have hhigh := hm.high
    unfold bitsOf leadingBit
    omega
  rw [ofRatio?_eq, if_neg hnum, ratioBits_eq hden hm h, if_pos hfits]

end

/-! ## Decimal numerals -/

section

variable {m n : Nat} {e k : Int} (hm : IsCanonical m e) (h : RoundsTo m e (n * 10 ^ k))
include hm h

/-- A numeral that rounds to a double is not beyond all doubles. -/
theorem RoundsTo.not_huge (hk : 0 ≤ k) : Nat.log2 n + 3 * k ≤ 1100 := by
  have hn : n ≠ 0 := by
    rintro rfl
    simpa using h.pos hm
  have hdigits : (2 : ℚ) ^ Nat.log2 n ≤ n := by exact_mod_cast Nat.log2_self_le hn
  have htens : (2 : ℚ) ^ (3 * k) ≤ 10 ^ k := by
    rw [zpow_mul]
    exact zpow_le_zpow_left₀ hk (by norm_num) (by norm_num)
  have hbits : (m : ℚ) + 1 ≤ 2 ^ 53 := by exact_mod_cast hm.bits
  have hhigh : 4 * ((n : ℚ) * 10 ^ k / 2 ^ e) ≤ 4 * m + 2 := by simpa [Grid.of] using h.high
  have hvalue : (n : ℚ) * 10 ^ k < 2 ^ 53 * 2 ^ e := by
    rw [← div_lt_iff₀ (by positivity)]
    linarith
  have hsize : (2 : ℚ) ^ ((Nat.log2 n : Int) + 3 * k) < 2 ^ (53 + e) := by
    rw [zpow_add₀ (by norm_num), zpow_add₀ (by norm_num), zpow_natCast]
    calc (2 : ℚ) ^ Nat.log2 n * 2 ^ (3 * k) ≤ n * 10 ^ k := by gcongr
      _ < 2 ^ (53 : Int) * 2 ^ e := by exact_mod_cast hvalue
  have hexponent := (zpow_lt_zpow_iff_right₀ (by norm_num)).mp hsize
  have htop := hm.high
  omega

/-- A numeral that rounds to a positive double is not below all of them. -/
theorem RoundsTo.not_tiny (hk : k < 0) : -1200 ≤ Nat.log2 n + 3 * k := by
  have hdigits : (n : ℚ) ≤ 2 ^ (Nat.log2 n + 1) := by exact_mod_cast Nat.lt_log2_self.le
  have htens : (10 : ℚ) ^ k ≤ 2 ^ (3 * k) := by
    have hinverse : (8 : ℚ) ^ (-k) ≤ 10 ^ (-k) := zpow_le_zpow_left₀ (by omega) (by norm_num) (by norm_num)
    rw [zpow_neg, zpow_neg] at hinverse
    have hcube : (2 : ℚ) ^ (3 : Int) = 8 := by norm_num
    rw [zpow_mul, hcube]
    exact (inv_le_inv₀ (by positivity) (by positivity)).mp hinverse
  have hends := Grid.low_ge m e
  have hpos := hm.pos
  have hlow : (2 : ℚ) ≤ (Grid.of m e).low := by exact_mod_cast (by omega : 2 ≤ (Grid.of m e).low)
  have hvalue : (2 : ℚ) ^ (e - 1) ≤ n * 10 ^ k := by
    have hhalf : 1 / 2 ≤ (n : ℚ) * 10 ^ k / 2 ^ e := by linarith [h.low]
    rw [le_div_iff₀ (by positivity)] at hhalf
    rw [zpow_sub_one₀ (by norm_num)]
    linarith
  have hsize : (2 : ℚ) ^ (e - 1) ≤ 2 ^ (((Nat.log2 n + 1 : Nat) : Int) + 3 * k) := by
    rw [zpow_add₀ (by norm_num), zpow_natCast]
    calc (2 : ℚ) ^ (e - 1) ≤ n * 10 ^ k := hvalue
      _ ≤ 2 ^ (Nat.log2 n + 1) * 2 ^ (3 * k) := by gcongr
  have hexponent := (zpow_le_zpow_iff_right₀ (by norm_num)).mp hsize
  have hleast := hm.low
  omega

/-- **A decimal numeral that rounds to a double is read as it.** -/
theorem ofDecimal_eq : ofDecimal n k = Float.ofBits (UInt64.ofNat (bitsOf m e)) := by
  have hn : n ≠ 0 := by
    rintro rfl
    have hpos := h.pos hm
    simp at hpos
  unfold ofDecimal
  dsimp only
  rw [if_neg hn, if_neg (fun hhuge => absurd (h.not_huge hm hhuge.2) (not_le.mpr hhuge.1)),
    if_neg (fun htiny => absurd (h.not_tiny hm htiny.2) (not_le.mpr htiny.1))]
  have hvalue : (n : ℚ) * 10 ^ k = ((n * 10 ^ k.toNat : Nat) : ℚ) / ((10 ^ (-k).toNat : Nat) : ℚ) := by
    have hten := zpow_eq_div (b := 10) (by decide) k
    rw [Nat.cast_ofNat] at hten
    rw [hten, mul_div_assoc', Nat.cast_mul]
  rw [hvalue] at h
  have hratio := ofRatio?_of_roundsTo (Nat.pow_pos (by decide)) hm h
  split
  · next hk =>
    have hnone : (-k).toNat = 0 := by omega
    rw [hnone, pow_zero] at hratio
    rw [show tenTo k.toNat = 10 ^ k.toNat from rfl, hratio, Option.getD_some]
  · next hk =>
    have hnone : k.toNat = 0 := by omega
    rw [hnone, pow_zero, mul_one] at hratio
    rw [show tenTo (-k).toNat = 10 ^ (-k).toNat from rfl, hratio, Option.getD_some]

end

end WorkflowLab.Binary
