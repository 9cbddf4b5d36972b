import WorkflowLab.Proofs.Number.Nearest

/-!
# Shortest digits round to their double

- `holds_iff`: the test of a candidate decides whether it rounds to the double;
- `pick?_roundsTo`: what is picked has passed it;
- `tenPow_magnitude_le`, `exists_pick?`: seventeen digits always suffice;
- `value_trim`: zeros at the end do not count;
- `shortest_roundsTo`: **the shortest digits of a double round to it**.
-/

namespace WorkflowLab.Binary

/-- The number that decimal digits stand for. -/
def Digits.value (d : Digits) : ℚ := d.digits * 10 ^ d.exponent

theorem tenPower_eq (k : Int) : tenPower k = (10 ^ k.toNat, 10 ^ (-k).toNat) := by
  unfold tenPower
  split
  · next h =>
    have hnone : (-k).toNat = 0 := by omega
    rw [hnone, Nat.pow_zero]
    rfl
  · next h =>
    have hnone : k.toNat = 0 := by omega
    rw [hnone, Nat.pow_zero]
    rfl

/-- A power of ten as the fraction that tests use. -/
theorem tenPower_div (k : Int) : (10 : ℚ) ^ k = ((tenPower k).1 : ℚ) / (tenPower k).2 := by
  rw [tenPower_eq]
  exact_mod_cast zpow_eq_div (b := 10) (by decide) k

theorem tenPower_pos (k : Int) : 0 < (tenPower k).1 ∧ 0 < (tenPower k).2 := by
  rw [tenPower_eq]
  exact ⟨Nat.pow_pos (by decide), Nat.pow_pos (by decide)⟩

section

variable (m : Nat) (e : Int)

theorem Grid.unit_pos : 0 < (Grid.of m e).num ∧ 0 < (Grid.of m e).den := by
  unfold Grid.of
  dsimp only
  split
  · exact ⟨Nat.two_pow_pos _, Nat.one_pos⟩
  · exact ⟨Nat.one_pos, Nat.two_pow_pos _⟩

/-- The unit of a grid is a quarter of the last place. -/
theorem Grid.unit_div : ((Grid.of m e).num : ℚ) / (Grid.of m e).den = 2 ^ e / 4 := by
  have hunit : (2 : ℚ) ^ e / 4 = 2 ^ (e - 2) := by
    rw [zpow_sub₀ (by norm_num)]
    norm_num
  have hpower := zpow_eq_div (b := 2) (by decide) (e - 2)
  rw [Nat.cast_ofNat] at hpower
  rw [hunit, hpower]
  unfold Grid.of
  dsimp only
  split
  · next h =>
    have hnone : (-(e - 2)).toNat = 0 := by omega
    rw [hnone]
    rfl
  · next h =>
    have hnone : (e - 2).toNat = 0 := by omega
    have hneg : 2 - e = -(e - 2) := by ring
    rw [hnone, hneg]
    rfl

variable {m e}

/-- A candidate in quarter units, as the fraction that tests use. -/
theorem Grid.candidate_eq (c : Nat) (k : Int) : 4 * ((c : ℚ) * 10 ^ k / 2 ^ e) =
    ((c * (tenPower k).1 * (Grid.of m e).den : Nat) : ℚ) / (((Grid.of m e).num * (tenPower k).2 : Nat) : ℚ) := by
  obtain ⟨hnum, hden⟩ := Grid.unit_pos m e
  obtain ⟨-, hpd⟩ := tenPower_pos k
  have hpower : (2 : ℚ) ^ e = 4 * ((Grid.of m e).num / (Grid.of m e).den) := by
    rw [Grid.unit_div m e]
    ring
  rw [tenPower_div, hpower]
  push_cast
  field_simp

/-- A candidate against a number of quarter units. -/
theorem Grid.le_candidate_iff (a c : Nat) (k : Int) :
    a * (Grid.of m e).num * (tenPower k).2 ≤ c * (tenPower k).1 * (Grid.of m e).den ↔
      (a : ℚ) ≤ 4 * (c * 10 ^ k / 2 ^ e) := by
  have hpos := Nat.mul_pos (Grid.unit_pos m e).1 (tenPower_pos k).2
  have hpos : (0 : ℚ) < (((Grid.of m e).num * (tenPower k).2 : Nat) : ℚ) := by exact_mod_cast hpos
  rw [Grid.candidate_eq (m := m), le_div_iff₀ hpos, Nat.mul_assoc]
  exact_mod_cast Iff.rfl

theorem Grid.candidate_le_iff (a c : Nat) (k : Int) :
    c * (tenPower k).1 * (Grid.of m e).den ≤ a * (Grid.of m e).num * (tenPower k).2 ↔
      4 * (c * 10 ^ k / 2 ^ e) ≤ (a : ℚ) := by
  have hpos := Nat.mul_pos (Grid.unit_pos m e).1 (tenPower_pos k).2
  have hpos : (0 : ℚ) < (((Grid.of m e).num * (tenPower k).2 : Nat) : ℚ) := by exact_mod_cast hpos
  rw [Grid.candidate_eq (m := m), div_le_iff₀ hpos, Nat.mul_assoc a]
  exact_mod_cast Iff.rfl

/-- **A candidate passes the test exactly if it rounds to the double.** -/
theorem holds_iff (c : Nat) (k : Int) : (Grid.of m e).holds k c = true ↔ RoundsTo m e (c * 10 ^ k) := by
  have hlow := Grid.le_candidate_iff (m := m) (e := e) (Grid.of m e).low c k
  have hhigh := Grid.candidate_le_iff (m := m) (e := e) (Grid.of m e).high c k
  have habove := Grid.candidate_le_iff (m := m) (e := e) (Grid.of m e).low c k
  have hbelow := Grid.le_candidate_iff (m := m) (e := e) (Grid.of m e).high c k
  have hclosed : (Grid.of m e).closed = (m % 2 == 0) := rfl
  unfold Grid.holds
  dsimp only
  rcases Nat.mod_two_eq_zero_or_one m with heven | hodd
  · rw [hclosed, heven, if_pos (by decide), Bool.and_eq_true, decide_eq_true_eq, decide_eq_true_eq, hlow, hhigh]
    exact ⟨fun h => ⟨h.1, h.2, fun hodd => absurd (heven.symm.trans hodd) (by decide)⟩, fun h => ⟨h.low, h.high⟩⟩
  · rw [hclosed, hodd, if_neg (by decide), Bool.and_eq_true, decide_eq_true_eq, decide_eq_true_eq, ← Nat.not_le,
      ← Nat.not_le, habove, hbelow, not_le, not_le]
    exact ⟨fun h => ⟨h.1.le, h.2.le, fun _ => h⟩, fun h => h.odd hodd⟩

/-- What is picked has digits, and rounds to the double. -/
theorem pick?_roundsTo {k : Int} {d : Digits} (h : (Grid.of m e).pick? k = some d) :
    0 < d.digits ∧ RoundsTo m e d.value := by
  have hpassed (c : Nat) (hpos : 0 < c) (hholds : (Grid.of m e).holds k c = true) :
      0 < (Digits.mk c k).digits ∧ RoundsTo m e (Digits.mk c k).value := ⟨hpos, (holds_iff c k).mp hholds⟩
  unfold Grid.pick? at h
  dsimp only at h
  split at h
  · next hlower hupper =>
    rw [Bool.and_eq_true, bne_iff_ne] at hlower
    obtain rfl := Option.some.inj h
    split
    · exact hpassed _ (Nat.succ_pos _) hupper
    · exact hpassed _ (Nat.pos_of_ne_zero hlower.2) hlower.1
  · next hlower hupper =>
    rw [Bool.and_eq_true, bne_iff_ne] at hlower
    obtain rfl := Option.some.inj h
    exact hpassed _ (Nat.pos_of_ne_zero hlower.2) hlower.1
  · next hlower hupper =>
    obtain rfl := Option.some.inj h
    exact hpassed _ (Nat.succ_pos _) hupper
  · cases h

/-- The neighbours of the double on a grid of multiples of a power of ten. -/
theorem below_bounds (m : Nat) (e k : Int) :
    4 * (((Grid.of m e).below k : ℚ) * 10 ^ k / 2 ^ e) ≤ 4 * m ∧
      4 * (m : ℚ) < 4 * ((((Grid.of m e).below k + 1 : Nat) : ℚ) * 10 ^ k / 2 ^ e) := by
  have hpos := Nat.mul_pos (tenPower_pos k).1 (Grid.unit_pos m e).2
  have hbelow : (Grid.of m e).below k =
      4 * m * (Grid.of m e).num * (tenPower k).2 / ((tenPower k).1 * (Grid.of m e).den) := rfl
  have hlow : (Grid.of m e).below k * (tenPower k).1 * (Grid.of m e).den ≤ 4 * m * (Grid.of m e).num * (tenPower k).2 := by
    rw [Nat.mul_assoc, hbelow]
    exact Nat.div_mul_le_self _ _
  have hhigh : ¬((Grid.of m e).below k + 1) * (tenPower k).1 * (Grid.of m e).den ≤
      4 * m * (Grid.of m e).num * (tenPower k).2 := by
    have hlt := Nat.lt_mul_div_succ (4 * m * (Grid.of m e).num * (tenPower k).2) hpos
    rw [← hbelow] at hlt
    exact Nat.not_le.mpr (lt_of_lt_of_eq hlt (by ring))
  rw [Grid.candidate_le_iff] at hlow hhigh
  push_cast at hlow hhigh ⊢
  exact ⟨hlow, not_le.mp hhigh⟩

/-! ## Seventeen digits -/

theorem pow_digitCount_le {n : Nat} (h : 0 < n) : 10 ^ (digitCount n - 1) ≤ n := by
  rcases Nat.eq_zero_or_pos (digitCount n - 1) with hone | hmore
  · rw [hone]
    exact h
  · have hlength := Nat.length_toDigits_le_iff (n := n) (show 1 < 10 by decide) hmore
    rw [← Nat.not_lt, ← hlength]
    show ¬digitCount n ≤ digitCount n - 1
    omega

theorem lt_pow_digitCount (n : Nat) : n < 10 ^ digitCount n :=
  (Nat.length_toDigits_le_iff (by decide) Nat.length_toDigits_pos).mp (Nat.le_refl _)

/-- A double as the fraction that its grid gives. -/
theorem value_eq_div (m : Nat) (e : Int) :
    (m : ℚ) * 2 ^ e = ((4 * m * (Grid.of m e).num : Nat) : ℚ) / (Grid.of m e).den := by
  have hunit := Grid.unit_div m e
  push_cast
  rw [mul_div_assoc, hunit]
  ring

/-- A fraction from one on is at least the power of ten of its integer part. -/
theorem tenPow_digitCount_le {n d : Nat} (hd : 0 < d) (hle : d ≤ n) :
    (10 : ℚ) ^ ((digitCount (n / d) : Int) - 1) ≤ n / d := by
  have hdpos : (0 : ℚ) < d := by exact_mod_cast hd
  have hdigits := pow_digitCount_le (Nat.div_pos hle hd)
  have hcount : (digitCount (n / d) : Int) - 1 = ((digitCount (n / d) - 1 : Nat) : Int) := by
    have hpos : 0 < digitCount (n / d) := Nat.length_toDigits_pos
    omega
  rw [hcount, zpow_natCast, le_div_iff₀ hdpos]
  have hproduct := (Nat.mul_le_mul_right d hdigits).trans (Nat.div_mul_le_self n d)
  exact_mod_cast hproduct

/-- What a numerator has to be multiplied with to reach its denominator. -/
theorem le_tenPow_digitCount_mul {n : Nat} (hn : 0 < n) (d : Nat) : d ≤ 10 ^ digitCount (d / n) * n := by
  have hnext : d < n * (d / n + 1) := Nat.lt_mul_div_succ d hn
  have hbound : d / n + 1 ≤ 10 ^ digitCount (d / n) := lt_pow_digitCount (d / n)
  exact hnext.le.trans (by rw [Nat.mul_comm]; exact Nat.mul_le_mul_right n hbound)

/-- A double is at least the power of ten below its magnitude. -/
theorem tenPow_magnitude_le (hm : 0 < m) : (10 : ℚ) ^ ((Grid.of m e).magnitude - 1) ≤ m * 2 ^ e := by
  obtain ⟨hnum, hden⟩ := Grid.unit_pos m e
  have hn : 0 < 4 * m * (Grid.of m e).num := Nat.mul_pos (Nat.mul_pos (by decide) hm) hnum
  have hmantissa : (Grid.of m e).mantissa = m := rfl
  rw [value_eq_div]
  unfold Grid.magnitude
  dsimp only
  rw [hmantissa]
  generalize 4 * m * (Grid.of m e).num = n at hn ⊢
  generalize (Grid.of m e).den = d at hden ⊢
  have hdpos : (0 : ℚ) < d := by exact_mod_cast hden
  have hnpos : (0 : ℚ) < n := by exact_mod_cast hn
  split
  · next hle => exact tenPow_digitCount_le hden hle
  · next hlt =>
    split
    · have hexponent : 1 - (digitCount (d / n) : Int) - 1 = -(digitCount (d / n) : Int) := by omega
      rw [hexponent, zpow_neg, zpow_natCast, le_div_iff₀ hdpos, inv_mul_le_iff₀ (by positivity)]
      exact_mod_cast le_tenPow_digitCount_mul hn d
    · next hreached =>
      obtain ⟨-, hpd⟩ := tenPower_pos (1 - (digitCount (d / n) : Int))
      have hpd : (0 : ℚ) < (tenPower (1 - (digitCount (d / n) : Int))).2 := by exact_mod_cast hpd
      rw [add_sub_cancel_right, tenPower_div, div_le_div_iff₀ hpd hdpos]
      exact_mod_cast Nat.not_lt.mp hreached

/-- A step of seventeen digits is shorter than the rounding interval. -/
theorem step_lt_interval (hm : IsCanonical m e) :
    4 * ((10 : ℚ) ^ ((Grid.of m e).magnitude - 17) / 2 ^ e) < 4 * m + 2 - (Grid.of m e).low := by
  have hstep : 4 * ((10 : ℚ) ^ ((Grid.of m e).magnitude - 17) / 2 ^ e) ≤ 4 * m / 10 ^ 16 := by
    have hsplit : (10 : ℚ) ^ ((Grid.of m e).magnitude - 17) = 10 ^ ((Grid.of m e).magnitude - 1) / 10 ^ 16 := by
      have hexponent : (Grid.of m e).magnitude - 17 = (Grid.of m e).magnitude - 1 - (16 : Nat) := by omega
      rw [hexponent, zpow_sub₀ (by norm_num), zpow_natCast]
    have hvalue := tenPow_magnitude_le (e := e) hm.pos
    rw [← div_le_iff₀ (by positivity)] at hvalue
    rw [hsplit]
    calc 4 * ((10 : ℚ) ^ ((Grid.of m e).magnitude - 1) / 10 ^ 16 / 2 ^ e)
        = 4 * ((10 : ℚ) ^ ((Grid.of m e).magnitude - 1) / 2 ^ e) / 10 ^ 16 := by ring
      _ ≤ 4 * (m : ℚ) / 10 ^ 16 := by gcongr
  refine lt_of_le_of_lt hstep ?_
  unfold Grid.of
  dsimp only
  split
  · next hpower =>
    obtain ⟨rfl, -⟩ := hpower
    norm_num [leadingBit]
  · have hbits : (m : ℚ) ≤ 2 ^ 53 := by exact_mod_cast hm.bits.le
    have hpos := hm.pos
    rw [Nat.cast_sub (by omega)]
    push_cast
    linarith

/-- The rounding interval begins below the double. -/
theorem low_lt (hm : IsCanonical m e) : ((Grid.of m e).low : ℚ) < 4 * m := by
  have hpos := hm.pos
  have hlt : (Grid.of m e).low < 4 * m := by
    unfold Grid.of
    dsimp only
    split <;> omega
  exact_mod_cast hlt

/-- What lies inside the rounding interval rounds to the double. -/
theorem holds_of_inside {n : Nat} {k : Int} (hlow : ((Grid.of m e).low : ℚ) < 4 * ((n : ℚ) * 10 ^ k / 2 ^ e))
    (hhigh : 4 * ((n : ℚ) * 10 ^ k / 2 ^ e) < 4 * m + 2) : (Grid.of m e).holds k n = true := by
  have hhighend : (((Grid.of m e).high : Nat) : ℚ) = 4 * m + 2 := by simp [Grid.of]
  rw [← hhighend] at hhigh
  exact (holds_iff n k).mpr ⟨hlow.le, hhigh.le, fun _ => ⟨hlow, hhigh⟩⟩

/-- **Seventeen digits suffice.** -/
theorem exists_pick? (hm : IsCanonical m e) : ((Grid.of m e).pick? ((Grid.of m e).magnitude - 17)).isSome := by
  have hstep := step_lt_interval hm
  generalize (Grid.of m e).magnitude - 17 = k at hstep ⊢
  obtain ⟨hlow, hhigh⟩ := below_bounds m e k
  unfold Grid.pick?
  dsimp only
  generalize (Grid.of m e).below k = c at *
  by_cases hnear : 4 * (((c + 1 : Nat) : ℚ) * 10 ^ k / 2 ^ e) < 4 * m + 2
  · rw [holds_of_inside ((low_lt hm).trans hhigh) hnear]
    cases (Grid.of m e).holds k c && c != 0 <;> rfl
  · -- The upper neighbour is too far away, so the lower one is near.
    have hsplit : 4 * (((c + 1 : Nat) : ℚ) * 10 ^ k / 2 ^ e) =
        4 * ((c : ℚ) * 10 ^ k / 2 ^ e) + 4 * (10 ^ k / 2 ^ e) := by
      push_cast
      ring
    have hlowin : ((Grid.of m e).low : ℚ) < 4 * ((c : ℚ) * 10 ^ k / 2 ^ e) := by linarith
    have hc : c ≠ 0 := by
      rintro rfl
      have hnonneg : (0 : ℚ) ≤ ((Grid.of m e).low : ℚ) := by positivity
      norm_num at hlowin
      linarith
    rw [holds_of_inside hlowin (by linarith), bne_iff_ne.mpr hc]
    cases (Grid.of m e).holds k (c + 1) <;> rfl

/-- Zeros at the end do not count. -/
theorem value_trim (fuel : Nat) {d : Digits} (hd : 0 < d.digits) :
    0 < (d.trim fuel).digits ∧ (d.trim fuel).value = d.value := by
  induction fuel generalizing d with
  | zero => exact ⟨hd, rfl⟩
  | succ fuel ih =>
    rw [Digits.trim]
    split
    · next hzero =>
      have hdigits : 10 * (d.digits / 10) = d.digits := by omega
      have hdigits : (10 : ℚ) * ((d.digits / 10 : Nat) : ℚ) = d.digits := by exact_mod_cast hdigits
      obtain ⟨hpos, hvalue⟩ := ih (d := ⟨d.digits / 10, d.exponent + 1⟩) (show 0 < d.digits / 10 by omega)
      refine ⟨hpos, hvalue.trans ?_⟩
      show ((d.digits / 10 : Nat) : ℚ) * 10 ^ (d.exponent + 1) = d.digits * 10 ^ d.exponent
      rw [zpow_add_one₀ (by norm_num), ← hdigits]
      ring
    · exact ⟨hd, rfl⟩

/-- **The shortest digits of a double round to it.** -/
theorem shortest_roundsTo (hm : IsCanonical m e) : 0 < (shortest m e).digits ∧ RoundsTo m e (shortest m e).value := by
  have hfound : ((List.range 17).findSome? fun (n : Nat) =>
      (Grid.of m e).pick? ((Grid.of m e).magnitude - ((n : Int) + 1))).isSome := by
    rw [List.findSome?_isSome_iff]
    exact ⟨16, List.mem_range.mpr (by decide), exists_pick? hm⟩
  obtain ⟨d, hd⟩ := Option.isSome_iff_exists.mp hfound
  obtain ⟨n, -, hpick⟩ := List.exists_of_findSome?_eq_some hd
  obtain ⟨hpos, hround⟩ := pick?_roundsTo hpick
  obtain ⟨htrim, hvalue⟩ := value_trim 20 hpos
  unfold shortest
  dsimp only
  rw [hd, Option.getD_some, hvalue]
  exact ⟨htrim, hround⟩

end

end WorkflowLab.Binary
