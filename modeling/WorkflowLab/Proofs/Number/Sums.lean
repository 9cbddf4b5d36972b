import WorkflowLab.Proofs.Number.Monotone

/-!
# Sums of doubles

The sum of two doubles that are not below zero is the double nearest to the exact sum, if that is not too large for one.

- `roundedMantissa_shiftRight`: dropping bits with a round bit and a sticky bit is rounding a quotient;
- `roundedExponent`, `roundDiv_keeps`: the exponent that rounding leads to, and the bits that it keeps;
- `round_eq`: what rounding a mantissa with an exponent comes to;
- `partsOf_pack`: doubles keep what fits;
- `IsSum`, `add_isSum`: **the sum of two doubles**; `IsSum.isNearest`, `floor?_add_of_infinite`: when it is infinite.
-/

namespace WorkflowLab.Binary

open Float.Model UnpackedFloat

/-! ## Rounding -/

/-- What is left of a mantissa after some bits were dropped: the first of them, and whether there are others. -/
theorem shiftRight_bits (m k : Nat) :
    (ExtendedMantissa.ofMantissaAndAccuracy m .exact >>> k).roundBit = decide (2 ^ k ≤ 2 * (m % 2 ^ k)) ∧
      (ExtendedMantissa.ofMantissaAndAccuracy m .exact >>> k).stickyBit =
        decide (2 * (m % 2 ^ k) ≠ 0 ∧ 2 * (m % 2 ^ k) ≠ 2 ^ k) := by
  induction k with
  | zero => simp [Nat.mod_one]; exact ⟨rfl, rfl⟩
  | succ k ih =>
    obtain ⟨hround, hsticky⟩ := ih
    have hmantissa := mantissa_shiftRight (ExtendedMantissa.ofMantissaAndAccuracy m .exact) k
    rw [mantissa_ofMantissaAndAccuracy] at hmantissa
    have hrest := Nat.mod_lt m (Nat.two_pow_pos k)
    have hbit := Nat.mod_two_eq_zero_or_one (m / 2 ^ k)
    rw [Nat.mod_pow_succ, Nat.pow_succ]
    constructor
    · show ((ExtendedMantissa.ofMantissaAndAccuracy m .exact >>> k).mantissa % 2 != 0) = _
      rw [hmantissa]
      rcases hbit with hbit | hbit <;> rw [hbit] <;> simp <;> omega
    · show ((ExtendedMantissa.ofMantissaAndAccuracy m .exact >>> k).roundBit ||
        (ExtendedMantissa.ofMantissaAndAccuracy m .exact >>> k).stickyBit) = _
      rw [hround, hsticky, Bool.eq_iff_iff, Bool.or_eq_true, decide_eq_true_iff, decide_eq_true_iff, decide_eq_true_iff]
      generalize 2 ^ k = unit, m % 2 ^ k = r at *
      rcases hbit with hbit | hbit <;> rw [hbit] <;> omega

/-- **Dropping bits is rounding a quotient.** -/
theorem roundedMantissa_shiftRight (m k : Nat) :
    (ExtendedMantissa.ofMantissaAndAccuracy m .exact >>> k).roundedMantissa = roundDiv m (2 ^ k) := by
  obtain ⟨hround, hsticky⟩ := shiftRight_bits m k
  have hmantissa := mantissa_shiftRight (ExtendedMantissa.ofMantissaAndAccuracy m .exact) k
  rw [mantissa_ofMantissaAndAccuracy] at hmantissa
  have hrest := Nat.mod_lt m (Nat.two_pow_pos k)
  generalize ExtendedMantissa.ofMantissaAndAccuracy m .exact >>> k = em at *
  obtain ⟨q, r, s⟩ := em
  dsimp only at *
  subst hmantissa hround hsticky
  unfold roundDiv
  dsimp only
  generalize 2 ^ k = unit at *
  generalize m % unit = r, m / unit = q at *
  rcases Nat.lt_trichotomy (2 * r) unit with hless | hhalf | hmore
  · rw [if_pos hless, decide_eq_false (Nat.not_le.mpr hless)]
    cases decide (2 * r ≠ 0 ∧ 2 * r ≠ unit) <;> rfl
  · have hround : unit ≤ 2 * r := hhalf.ge
    have hexact : ¬(2 * r ≠ 0 ∧ 2 * r ≠ unit) := fun h => h.2 hhalf
    rw [if_neg (by omega), if_neg (by omega), decide_eq_true hround, decide_eq_false hexact]
    show q + q % 2 = _
    split <;> omega
  · have hsticky : 2 * r ≠ 0 ∧ 2 * r ≠ unit := by omega
    rw [if_neg (by omega), if_pos hmore, decide_eq_true hmore.le, decide_eq_true hsticky]
    rfl

/-- A mantissa that fits is left as it is. -/
theorem shiftToTargetExponent_of_lt {m : Nat} {e : Int} (hm : m < 2 ^ 53) (he : -1074 ≤ e) :
    shiftToTargetExponent Format.binary64 m e .exact = (ExtendedMantissa.ofMantissaAndAccuracy m .exact, e) := by
  have hbits : m.log2 ≤ 52 := by
    rcases Nat.eq_zero_or_pos m with rfl | hpos
    · decide
    · exact Nat.lt_succ_iff.mp ((Nat.log2_lt hpos.ne').mpr hm)
  have hshift : (Format.binary64.targetExponent (totalExponent m e) - e).toNat = 0 := by
    simp only [Format.targetExponent, totalExponent, Format.mantissaBits, Format.minExponent]
    omega
  rw [shiftToTargetExponent, shiftToExponent, hshift]
  exact congrArg (Prod.mk _) (Int.add_zero e)

/-- A mantissa that is one bit too long by a carry loses a zero. -/
theorem shiftToTargetExponent_carry {e : Int} (he : -1074 ≤ e) :
    shiftToTargetExponent Format.binary64 (2 ^ 53) e .exact =
      (ExtendedMantissa.ofMantissaAndAccuracy (2 ^ 52) .exact, e + 1) := by
  have hshift : (Format.binary64.targetExponent (totalExponent (2 ^ 53) e) - e).toNat = 1 := by
    simp only [Format.targetExponent, totalExponent, Nat.log2_two_pow, Format.mantissaBits, Format.minExponent]
    omega
  rw [shiftToTargetExponent, shiftToExponent, hshift]
  rfl

/-- The exponent that rounding leads to: 53 bits are kept, unless that takes an exponent below the least. -/
def roundedExponent (z : Nat) (e : Int) : Int := max ((z.log2 : Int) + e - 52) (-1074)

/-- The rounded exponent belongs to the bits of the units that are dropped. -/
theorem roundedExponent_eq {z : Nat} {e : Int} (hz : 0 < z) (he : -1074 ≤ e) :
    (roundedExponent z e + 1074).toNat = (units z e).log2 - 52 := by
  have hlog : (units z e).log2 = z.log2 + (e + 1074).toNat := log2_mul_pow hz _
  unfold roundedExponent
  omega

theorem targetExponent_eq (z : Nat) (e : Int) :
    Format.binary64.targetExponent (totalExponent z e) = roundedExponent z e := by
  simp only [Format.targetExponent, totalExponent, roundedExponent, Format.mantissaBits, Format.minExponent]
  omega

/-- Zeros put behind the mantissa change nothing about the exponent to reach. -/
theorem shiftToTargetExponent_shiftLeft {z : Nat} (hz : 0 < z) (e : Int) :
    shiftToTargetExponent Format.binary64 (z <<< (e - roundedExponent z e).toNat)
        (e - (e - roundedExponent z e).toNat) .exact =
      (ExtendedMantissa.ofMantissaAndAccuracy (z <<< (e - roundedExponent z e).toNat) .exact >>>
        (roundedExponent z e - e).toNat, roundedExponent z e) := by
  generalize htarget : roundedExponent z e = target
  have hsame : roundedExponent (z <<< (e - target).toNat) (e - (e - target).toNat) = target := by
    rw [← htarget, Nat.shiftLeft_eq]
    unfold roundedExponent
    rw [log2_mul_pow hz]
    omega
  rw [shiftToTargetExponent, targetExponent_eq, hsame, shiftToExponent]
  have hcount : (target - (e - (e - target).toNat)).toNat = (target - e).toNat := by omega
  rw [hcount]
  exact congrArg (Prod.mk _) (by omega)

/-- The rounded mantissa is that of the units. -/
theorem roundDiv_shiftLeft {z : Nat} {e : Int} (hz : 0 < z) (he : -1074 ≤ e) :
    roundDiv (z <<< (e - roundedExponent z e).toNat) (2 ^ (roundedExponent z e - e).toNat) =
      roundDiv (units z e) (2 ^ ((units z e).log2 - 52)) := by
  have hexponent := roundedExponent_eq hz he
  have hleast : -1074 ≤ roundedExponent z e := Int.le_max_right _ _
  generalize roundedExponent z e = target at *
  apply roundDiv_congr (Nat.two_pow_pos _) (Nat.two_pow_pos _)
  rw [← hexponent, Nat.shiftLeft_eq, units, Nat.mul_assoc, Nat.mul_assoc, ← Nat.pow_add, ← Nat.pow_add]
  congr 2
  omega

/-- The bits that are kept of a positive number are at most one more than 53, by a carry, and 53 if any are dropped. -/
theorem roundDiv_keeps {n : Nat} (hn : 0 < n) :
    0 < roundDiv n (2 ^ (n.log2 - 52)) ∧ roundDiv n (2 ^ (n.log2 - 52)) ≤ 2 ^ 53 ∧
      (n.log2 - 52 = 0 ∨ 2 ^ 52 ≤ roundDiv n (2 ^ (n.log2 - 52))) := by
  have hself := Nat.log2_self_le hn.ne'
  have hhigh : roundDiv n (2 ^ (n.log2 - 52)) ≤ 2 ^ 53 := by
    apply roundDiv_le
    rw [← Nat.pow_add]
    exact Nat.lt_of_lt_of_le Nat.lt_log2_self (Nat.pow_le_pow_right (by decide) (by omega))
  by_cases hshort : n.log2 < 52
  · have hnone : n.log2 - 52 = 0 := by omega
    rw [hnone] at hhigh ⊢
    exact ⟨le_roundDiv Nat.one_pos (by omega), hhigh, .inl rfl⟩
  · have hfull : 2 ^ 52 ≤ roundDiv n (2 ^ (n.log2 - 52)) := by
      apply le_roundDiv (Nat.two_pow_pos _)
      rw [← Nat.pow_add]
      exact Nat.le_trans (Nat.pow_le_pow_right (by decide) (by omega)) hself
    exact ⟨by omega, hhigh, .inr hfull⟩

/-- Rounding drops bits twice: those that do not fit, and one more after a carry. -/
theorem round_eq_shiftToTargetExponent {z : Nat} {e : Int} (hz : 0 < z) (he : -1074 ≤ e) :
    UnpackedFloat.round Format.binary64 .positive z e =
      let final := shiftToTargetExponent Format.binary64
        (roundDiv (units z e) (2 ^ ((units z e).log2 - 52))) (roundedExponent z e) .exact
      if h : final.1.mantissa = 0 then .zero .positive
      else .finite .positive final.1.mantissa final.2 (Nat.pos_of_ne_zero h) := by
  unfold UnpackedFloat.round decreaseExponent roundWithAccuracy
  dsimp only
  simp only [targetExponent_eq, shiftToTargetExponent_shiftLeft hz, roundedMantissa_shiftRight,
    roundDiv_shiftLeft hz he]

/-- **What rounding comes to**: the mantissa and the exponent whose bits are nearest to the units. -/
theorem round_eq {z : Nat} {e : Int} (hz : 0 < z) (he : -1074 ≤ e) :
    ∃ m d, ∃ hm : 0 < m, UnpackedFloat.round Format.binary64 .positive z e = .finite .positive m d hm ∧
      m < 2 ^ 53 ∧ -1074 ≤ d ∧ (d = -1074 ∨ 2 ^ 52 ≤ m) ∧ bitsOf m d = unitBits (units z e) := by
  have hunits : 0 < units z e := Nat.mul_pos hz (Nat.two_pow_pos _)
  have hexponent := roundedExponent_eq hz he
  have hleast : -1074 ≤ roundedExponent z e := Int.le_max_right _ _
  obtain ⟨hpos, hhigh, hfull⟩ := roundDiv_keeps hunits
  rw [unitBits, if_neg hunits.ne', ratioBits_units hunits, ← hexponent, round_eq_shiftToTargetExponent hz he]
  rw [← hexponent] at hpos hhigh hfull ⊢
  generalize roundDiv (units z e) (2 ^ (roundedExponent z e + 1074).toNat) = r at *
  generalize roundedExponent z e = target at *
  rcases Nat.lt_or_eq_of_le hhigh with hless | rfl
  · rw [shiftToTargetExponent_of_lt hless hleast]
    exact ⟨r, target, hpos, dif_neg hpos.ne', hless, hleast, hfull.imp_left (by omega), rfl⟩
  · -- a carry into one bit more
    rw [shiftToTargetExponent_carry hleast]
    have hcarry : 2 ^ 52 ≠ 0 := by decide
    refine ⟨2 ^ 52, target + 1, by decide, dif_neg hcarry, by decide, by omega, .inr (Nat.le_refl _), ?_⟩
    unfold bitsOf leadingBit
    omega

/-! ## Packing -/

/-- Doubles keep a mantissa and an exponent that fit. -/
theorem partsOf_pack {m : Nat} {e : Int} (hm : 0 < m) (hbits : m < 2 ^ 53) (hlow : -1074 ≤ e)
    (hfull : e = -1074 ∨ 2 ^ 52 ≤ m) :
    partsOf (UnpackedFloat.unpack Format.binary64 (UnpackedFloat.pack Format.binary64 (.finite .positive m e hm))) =
      if e ≤ 971 then .finite false m e else .infinite false := by
  rw [pack_finite]
  by_cases hfits : e ≤ 971
  · rw [if_neg (by omega), if_pos hfits, unpack_packComponents, partsOf_assembled]
    have hmantissa : (BitVec.ofNat 52 m).toNat = m % 2 ^ 52 := BitVec.toNat_ofNat m 52
    rw [hmantissa]
    by_cases hlong : m.log2 = 52
    · have hexponent : (BitVec.ofNat 11 (e + 1075).toNat).toNat = (e + 1075).toNat := by
        rw [BitVec.toNat_ofNat]
        omega
      have hself := Nat.log2_self_le hm.ne'
      rw [hlong] at hself
      rw [if_pos hlong, hexponent, if_neg (by omega), if_neg (by omega), Parts.finite.injEq]
      unfold leadingBit
      exact ⟨rfl, by omega, by omega⟩
    · have hlog := (Nat.log2_lt hm.ne').mpr hbits
      have hshort : m < 2 ^ 52 := (Nat.log2_lt hm.ne').mp (by omega)
      obtain rfl := hfull.resolve_right (by omega)
      rw [if_neg hlong, if_neg (by decide), if_pos (by decide), Nat.mod_eq_of_lt hshort]
      rfl
  · rw [if_pos (by omega), if_neg hfits]
    show partsOf (UnpackedFloat.unpack Format.binary64 (packComponents Format.binary64 .positive (-1#11) 0#52)) = _
    rw [unpack_packComponents]
    rfl

/-! ## Sums -/

/-- A sum is the double nearest to some units, or these are too many for a double. -/
def IsSum (x : Float) (n : Nat) : Prop := IsNearest x n ∨ parts x = .infinite false ∧ 2047 * leadingBit ≤ unitBits n

/-- The parts of a rounded value. -/
theorem partsOf_round {z : Nat} {e : Int} (hz : 0 < z) (he : -1074 ≤ e) :
    (∃ m d, partsOf (UnpackedFloat.unpack Format.binary64 (UnpackedFloat.pack Format.binary64
        (UnpackedFloat.round Format.binary64 .positive z e))) = .finite false m d ∧ bitsOf m d = unitBits (units z e)) ∨
      partsOf (UnpackedFloat.unpack Format.binary64 (UnpackedFloat.pack Format.binary64
        (UnpackedFloat.round Format.binary64 .positive z e))) = .infinite false ∧
          2047 * leadingBit ≤ unitBits (units z e) := by
  obtain ⟨m, d, hm, hround, hbits, hlow, hfull, hnearest⟩ := round_eq hz he
  rw [hround, partsOf_pack hm hbits hlow hfull]
  split
  · exact .inl ⟨m, d, rfl, hnearest⟩
  · refine .inr ⟨rfl, ?_⟩
    rw [← hnearest]
    unfold bitsOf leadingBit
    omega

/-- What a double without sign stands for. -/
theorem datum_of_isUnits {x : Float} {n : Nat} (h : IsUnits x n) :
    (datum x = .zero .positive ∧ n = 0) ∨
      ∃ m e, ∃ hm : 0 < m, datum x = .finite .positive m e hm ∧ n = units m e ∧ -1074 ≤ e := by
  obtain ⟨m, e, hx, rfl⟩ := h
  obtain ⟨-, -, he, -⟩ := toNat_toBits hx
  rw [parts_eq_partsOf] at hx
  match datum x, hx with
  | .zero .positive, hx =>
    cases hx
    exact .inl ⟨rfl, Nat.zero_mul _⟩
  | .finite .positive m' e' hm, hx =>
    cases hx
    exact .inr ⟨m, e, hm, rfl, rfl, he⟩

/-- A sum with nothing. -/
theorem parts_add_zero {x y : Float} {n : Nat} (hx : datum x = .zero .positive) (hy : IsUnits y n) :
    parts (x + y) = parts y ∧ parts (y + x) = parts y := by
  have hpack : UnpackedFloat.unpack Format.binary64 (UnpackedFloat.pack Format.binary64 (datum y)) = datum y :=
    unpack_pack_unpack _
  rw [parts_eq_partsOf, parts_eq_partsOf, parts_eq_partsOf, datum_add, datum_add, hx]
  rcases datum_of_isUnits hy with ⟨hy, -⟩ | ⟨m, e, hm, hy, -⟩
  · rw [hy] at hpack ⊢
    exact ⟨congrArg partsOf hpack, congrArg partsOf hpack⟩
  · rw [hy] at hpack ⊢
    exact ⟨congrArg partsOf hpack, congrArg partsOf hpack⟩

/-- What is above zero is rounded without sign. -/
theorem normalize_natCast {z : Nat} (hz : 0 < z) (e : Int) (s : Sign) :
    UnpackedFloat.normalize Format.binary64 z e s = UnpackedFloat.round Format.binary64 .positive z e := by
  have habove : compare (z : Int) 0 = .gt := Int.compare_eq_gt.mpr (by omega)
  rw [UnpackedFloat.normalize, habove, Int.toNat_natCast]

/-- **The sum of two doubles that are not below zero** is the double nearest to the sum of their units, or infinite. -/
theorem add_isSum {x y : Float} {a b : Nat} (hx : IsUnits x a) (hy : IsUnits y b) : IsSum (x + y) (a + b) := by
  rcases datum_of_isUnits hx with ⟨hdx, rfl⟩ | ⟨m, e, hm, hdx, rfl, he⟩
  · obtain ⟨n, d, hparts, hbits⟩ := hy.isNearest
    rw [Nat.zero_add]
    exact .inl ⟨n, d, (parts_add_zero hdx hy).1.trans hparts, hbits⟩
  · rcases datum_of_isUnits hy with ⟨hdy, rfl⟩ | ⟨n, d, hn, hdy, rfl, hd⟩
    · obtain ⟨m', e', hparts, hbits⟩ := hx.isNearest
      exact .inl ⟨m', e', (parts_add_zero hdy hx).2.trans hparts, hbits⟩
    · have hsum : datum (x + y) = UnpackedFloat.unpack Format.binary64 (UnpackedFloat.pack Format.binary64
          (UnpackedFloat.round Format.binary64 .positive
            (m * 2 ^ (e - min e d).toNat + n * 2 ^ (d - min e d).toNat) (min e d))) := by
        rw [datum_add, hdx, hdy]
        show UnpackedFloat.unpack _ (UnpackedFloat.pack _ (UnpackedFloat.normalize Format.binary64
          ((m <<< (e - min e d).toNat : Nat) + (n <<< (d - min e d).toNat : Nat) : Int) (min e d) .positive)) = _
        rw [Nat.shiftLeft_eq, Nat.shiftLeft_eq, ← Int.natCast_add, normalize_natCast (by positivity)]
      have hunits : units m e + units n d =
          units (m * 2 ^ (e - min e d).toNat + n * 2 ^ (d - min e d).toNat) (min e d) := by
        have hleft : (e - min e d).toNat + (min e d + 1074).toNat = (e + 1074).toNat := by omega
        have hright : (d - min e d).toNat + (min e d + 1074).toNat = (d + 1074).toNat := by omega
        rw [units, units, units, Nat.add_mul, Nat.mul_assoc, Nat.mul_assoc, ← Nat.pow_add, ← Nat.pow_add, hleft, hright]
      rw [hunits]
      unfold IsSum IsNearest
      rw [parts_eq_partsOf, hsum]
      exact partsOf_round (by positivity) (by omega)

/-- A sum with an integer part is not infinite. -/
theorem IsSum.isNearest {x : Float} {n : Nat} (h : IsSum x n) {i : Int} (hfloor : floor? x = some i) :
    IsNearest x n := by
  rcases h with hnearest | ⟨hinfinite, -⟩
  · exact hnearest
  · rw [floor?, hinfinite] at hfloor
    cases hfloor

/-- A sum of so few units as a double has is not infinite. -/
theorem IsSum.isNearest_of_le {x y : Float} {n k : Nat} (h : IsSum x n) (hy : IsUnits y k) (hle : n ≤ k) :
    IsNearest x n := by
  rcases h with hnearest | ⟨-, hlarge⟩
  · exact hnearest
  · obtain ⟨m, e, hparts, hbits⟩ := hy.isNearest
    obtain ⟨-, hmantissa, -, hexponent, -⟩ := toNat_toBits hparts
    have hmono := unitBits_mono hle
    rw [← hbits] at hmono
    unfold bitsOf leadingBit at hmono
    unfold leadingBit at hlarge
    omega

/-- An infinite sum stays so. -/
theorem floor?_add_of_infinite {x y : Float} {n : Nat} (hx : parts x = .infinite false) (hy : IsUnits y n) :
    floor? (x + y) = none := by
  have hinfinite : datum (x + y) = datum x := by
    have hpack : UnpackedFloat.unpack Format.binary64 (UnpackedFloat.pack Format.binary64 (datum x)) = datum x :=
      unpack_pack_unpack _
    rw [parts_eq_partsOf] at hx
    rw [datum_add]
    match datum x, hx, hpack with
    | .infinity .positive, _, hpack =>
      rcases datum_of_isUnits hy with ⟨hy, -⟩ | ⟨m, e, hm, hy, -⟩
      · rw [hy]
        exact hpack
      · rw [hy]
        exact hpack
  rw [floor?, parts_eq_partsOf, hinfinite, ← parts_eq_partsOf, hx]

end WorkflowLab.Binary
