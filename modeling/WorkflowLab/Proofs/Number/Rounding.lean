import Mathlib

/-!
# The size and the sign of rounded values

Operations on doubles unpack their operands, compute, round, and pack the result.

- `Small`: a finite value below a power of two; `NotNegative`: a value that is not below zero;
- `small_roundWithAccuracy`, `small_add`: rounding makes at most one more bit, and adding at most two;
- `notNegative_sub`, `notNegative_mul`: differences and products that are not below zero;
- `assembled`: what the sign, the exponent and the mantissa of a double stand for;
- `small_unpack_pack`, `notNegative_unpack_pack`: packing keeps size and sign.
-/

namespace WorkflowLab.Binary

open Float.Model UnpackedFloat

/-- A finite value that is less than two to the power of `k` in size. -/
def Small (k : Int) : UnpackedFloat → Prop
  | .zero _ => True
  | .finite _ m e _ => totalExponent m e ≤ k
  | _ => False

/-- A value that is not below zero; what is not a number is not either. -/
def NotNegative : UnpackedFloat → Prop
  | .notANumber => True
  | .infinity s | .zero s | .finite s _ _ _ => s = .positive

theorem Small.mono {k l : Int} {u : UnpackedFloat} (h : Small k u) (hkl : k ≤ l) : Small l u := by
  cases u with
  | zero => trivial
  | finite s m e hm => exact Int.le_trans h hkl
  | infinity | notANumber => cases h

/-! ## Rounding -/

theorem mantissa_shiftRight (em : ExtendedMantissa) (n : Nat) : (em >>> n).mantissa = em.mantissa / 2 ^ n := by
  induction n with
  | zero => exact (Nat.div_one _).symm
  | succ n ih =>
    show (em >>> n).mantissa / 2 = _
    rw [ih, Nat.div_div_eq_div_mul, Nat.pow_succ]

theorem roundedMantissa_le (em : ExtendedMantissa) : em.roundedMantissa ≤ em.mantissa + 1 := by
  obtain ⟨m, r, s⟩ := em
  cases r <;> cases s <;>
    simp [ExtendedMantissa.roundedMantissa, ExtendedMantissa.accuracy, Accuracy.roundToNearestEven]
  omega

theorem mantissa_ofMantissaAndAccuracy (m : Nat) (a : Accuracy) :
    (ExtendedMantissa.ofMantissaAndAccuracy m a).mantissa = m := by
  rcases a with _ | (_ | _ | _) <;> rfl

/-- What a shift leaves is no greater. -/
theorem totalExponent_shiftToExponent_le {m : Nat} {e target : Int} {a : Accuracy}
    (h : (shiftToExponent m e a target).1.mantissa ≠ 0) :
    totalExponent (shiftToExponent m e a target).1.mantissa (shiftToExponent m e a target).2 ≤ totalExponent m e := by
  unfold shiftToExponent totalExponent at *
  simp only [mantissa_shiftRight, mantissa_ofMantissaAndAccuracy] at *
  generalize (target - e).toNat = n at *
  have hm : m ≠ 0 := by rintro rfl; simp at h
  have hself : 2 ^ (m / 2 ^ n).log2 ≤ m / 2 ^ n := Nat.log2_self_le h
  have hmul : 2 ^ ((m / 2 ^ n).log2 + n) ≤ m := by
    rw [Nat.pow_add]
    exact Nat.le_trans (Nat.mul_le_mul_right _ hself) (Nat.div_mul_le_self m _)
  have hlog : (m / 2 ^ n).log2 + n ≤ m.log2 := (Nat.le_log2 hm).mpr hmul
  omega

/-- The next number has at most one more bit. -/
theorem log2_le_succ {r m : Nat} (h : r ≤ m + 1) : r.log2 ≤ m.log2 + 1 := by
  by_cases hr : r = 0
  · simp [hr]
  · have hlt : r < 2 ^ (m.log2 + 1 + 1) := by
      have hm : m < 2 ^ (m.log2 + 1) := Nat.lt_log2_self
      have hstep : 2 ^ (m.log2 + 1) < 2 ^ (m.log2 + 1 + 1) := Nat.pow_lt_pow_succ (by decide)
      omega
    exact Nat.lt_succ_iff.mp ((Nat.log2_lt hr).mpr hlt)

/-- Rounding makes at most one more bit. -/
theorem small_roundWithAccuracy {k : Int} {m : Nat} {e : Int} (hm : 0 < m) (hk : 0 ≤ k) (h : totalExponent m e ≤ k)
    (s : Sign) (a : Accuracy) : Small (k + 1) (roundWithAccuracy Format.binary64 s m e a) := by
  have hfirst : totalExponent (shiftToTargetExponent Format.binary64 m e a).1.roundedMantissa
      (shiftToTargetExponent Format.binary64 m e a).2 ≤ k + 1 := by
    have hlog := log2_le_succ (roundedMantissa_le (shiftToTargetExponent Format.binary64 m e a).1)
    by_cases hzero : (shiftToTargetExponent Format.binary64 m e a).1.mantissa = 0
    · -- All bits are lost only below the least exponent.
      have hexponent : (shiftToTargetExponent Format.binary64 m e a).2 ≤ -1074 := by
        simp only [shiftToTargetExponent, shiftToExponent, mantissa_shiftRight, mantissa_ofMantissaAndAccuracy,
          Format.targetExponent, Format.minExponent, Format.mantissaBits, totalExponent] at hzero ⊢
        rw [Nat.div_eq_zero_iff] at hzero
        have hbits := hzero.resolve_left (Nat.ne_of_gt (Nat.two_pow_pos _))
        rw [← Nat.log2_lt (Nat.ne_of_gt hm)] at hbits
        omega
      rw [hzero, Nat.log2_zero] at hlog
      unfold totalExponent
      omega
    · have hshift : totalExponent (shiftToTargetExponent Format.binary64 m e a).1.mantissa
          (shiftToTargetExponent Format.binary64 m e a).2 ≤ totalExponent m e := totalExponent_shiftToExponent_le hzero
      simp only [totalExponent] at hshift h ⊢
      omega
  unfold roundWithAccuracy
  dsimp only
  split
  · trivial
  · next hne => exact Int.le_trans (totalExponent_shiftToExponent_le hne) hfirst

/-- More bits after the point do not change the size. -/
theorem lt_decreaseExponent {k e low : Int} {m : Nat} (h : totalExponent m e ≤ k) (hlow : low ≤ e) :
    (decreaseExponent m e low).1 < 2 ^ (k - low).toNat := by
  have hm : m < 2 ^ (m.log2 + 1) := Nat.lt_log2_self
  show m <<< (e - low).toNat < _
  rw [Nat.shiftLeft_eq]
  calc m * 2 ^ (e - low).toNat < 2 ^ (m.log2 + 1) * 2 ^ (e - low).toNat :=
        Nat.mul_lt_mul_of_pos_right hm (Nat.two_pow_pos _)
    _ = 2 ^ (m.log2 + 1 + (e - low).toNat) := (Nat.pow_add ..).symm
    _ ≤ 2 ^ (k - low).toNat := Nat.pow_le_pow_right (by decide) (by unfold totalExponent at h; omega)

/-- A rounded value has at most one more bit. -/
theorem small_round {k e : Int} {m : Nat} (hm : 0 < m) (hk : 0 ≤ k) (h : totalExponent m e ≤ k) (s : Sign) :
    Small (k + 1) (UnpackedFloat.round Format.binary64 s m e) := by
  unfold UnpackedFloat.round decreaseExponent
  dsimp only
  generalize Format.binary64.targetExponent (totalExponent m e) = target
  have hpos : 0 < m <<< (e - target).toNat := by
    rw [Nat.shiftLeft_eq]
    exact Nat.mul_pos hm (Nat.two_pow_pos _)
  refine small_roundWithAccuracy hpos hk ?_ s .exact
  have hbits : m <<< (e - target).toNat < 2 ^ (m.log2 + 1 + (e - target).toNat) := by
    rw [Nat.shiftLeft_eq, Nat.pow_add]
    exact Nat.mul_lt_mul_of_pos_right Nat.lt_log2_self (Nat.two_pow_pos _)
  have hlog := (Nat.log2_lt (Nat.ne_of_gt hpos)).mpr hbits
  unfold totalExponent at *
  omega

/-- A sum that is rounded has at most one more bit. -/
theorem small_normalize {k e : Int} {z : Int} (hk : 0 ≤ k) (hz : z.natAbs < 2 ^ (k - e).toNat) (s : Sign) :
    Small (k + 1) (UnpackedFloat.normalize Format.binary64 z e s) := by
  have hround (hne : z.natAbs ≠ 0) (s : Sign) : Small (k + 1) (UnpackedFloat.round Format.binary64 s z.natAbs e) := by
    refine small_round (Nat.pos_of_ne_zero hne) hk ?_ s
    have hlog := (Nat.log2_lt hne).mpr hz
    unfold totalExponent
    omega
  unfold UnpackedFloat.normalize
  split
  · next h =>
    rw [Int.compare_eq_lt] at h
    have habs : (-z).toNat = z.natAbs := by omega
    rw [habs]
    exact hround (by omega) _
  · trivial
  · next h =>
    rw [Int.compare_eq_gt] at h
    have habs : z.toNat = z.natAbs := by omega
    rw [habs]
    exact hround (by omega) _

/-- A sum of small values is small. -/
theorem small_add {k : Int} {u v : UnpackedFloat} (hk : 0 ≤ k) (hu : Small k u) (hv : Small k v) :
    Small (k + 2) (UnpackedFloat.add Format.binary64 u v) := by
  match u, v, hu, hv with
  | .zero s, .zero t, _, _ =>
    simp only [UnpackedFloat.add]
    split <;> trivial
  | .zero _, .finite _ _ _ _, _, hv => exact hv.mono (by omega)
  | .finite _ _ _ _, .zero _, hu, _ => exact hu.mono (by omega)
  | .finite s m e hm, .finite t n d hn, hu, hv =>
    show Small (k + 2) (UnpackedFloat.normalize Format.binary64 _ (min e d) .positive)
    have hleft := lt_decreaseExponent hu (Int.min_le_left e d)
    have hright := lt_decreaseExponent hv (Int.min_le_right e d)
    have hsum : (s.apply (decreaseExponent m e (min e d)).1 + t.apply (decreaseExponent n d (min e d)).1).natAbs <
        2 ^ (k + 1 - min e d).toNat := by
      have hroom : (k + 1 - min e d).toNat = (k - min e d).toNat + 1 := by
        unfold Small totalExponent at hu
        omega
      rw [hroom, Nat.pow_succ]
      cases s <;> cases t <;> simp only [Sign.apply] <;> omega
    exact (small_normalize (by omega) hsum .positive).mono (by omega)

/-! ## Differences and products -/

/-- A difference is not below zero if what is taken away is not greater. -/
theorem notNegative_sub {m n : Nat} {e d : Int} {hm : 0 < m} {hn : 0 < n}
    (h : (decreaseExponent n d (min e d)).1 ≤ (decreaseExponent m e (min e d)).1) :
    NotNegative (UnpackedFloat.sub Format.binary64 (.finite .positive m e hm) (.finite .positive n d hn)) := by
  have hround (e : Int) (m : Nat) : NotNegative (UnpackedFloat.round Format.binary64 .positive m e) := by
    unfold UnpackedFloat.round roundWithAccuracy
    dsimp only
    split <;> rfl
  show NotNegative (UnpackedFloat.normalize _
    (((decreaseExponent m e (min e d)).1 : Int) - ((decreaseExponent n d (min e d)).1 : Int)) _ _)
  unfold UnpackedFloat.normalize
  split
  · next hlt =>
    rw [Int.compare_eq_lt] at hlt
    omega
  · rfl
  · exact hround ..

/-- A product with what is above zero is not below zero if the other factor is not. -/
theorem notNegative_mul {u : UnpackedFloat} (h : NotNegative u) (n : Nat) (d : Int) (hn : 0 < n) :
    NotNegative (UnpackedFloat.mul Format.binary64 u (.finite .positive n d hn)) := by
  match u, h with
  | .notANumber, _ => trivial
  | .infinity _, rfl => rfl
  | .zero _, rfl => rfl
  | .finite _ m e hm, rfl =>
    show NotNegative (roundWithAccuracy _ _ _ _ _)
    unfold roundWithAccuracy
    dsimp only
    split <;> rfl

/-! ## Packing -/

/-- A leading bit before the bits of a mantissa. -/
theorem toNat_implicit (b : BitVec 52) : (1#1 ++ b).toNat = 2 ^ 52 + b.toNat := by
  rw [BitVec.toNat_append, ← Nat.shiftLeft_add_eq_or_of_lt b.isLt]
  rfl

/-- What the sign, the exponent and the mantissa of a double stand for. -/
def assembled (s : Sign) (e : BitVec 11) (m : BitVec 52) : UnpackedFloat :=
  if e = -1#_ then if m = 0#_ then .infinity s else .notANumber
  else if e = 0#_ then
    if h : m = 0#_ then .zero s
    else .finite s m.toNat (-1074) (by simpa [BitVec.toNat_pos, BitVec.pos_iff_ne_zero])
  else .finite s (1#1 ++ m).toNat (e.toNat - 1075) (by rw [toNat_implicit]; omega)

theorem unpack_eq_assembled (b : BitVec 64) : UnpackedFloat.unpack Format.binary64 b =
    assembled (Sign.ofBitVec (@unpackSign Format.binary64 b)) (@unpackExponent Format.binary64 b)
      (@unpackMantissa Format.binary64 b) := by
  unfold UnpackedFloat.unpack assembled
  dsimp only
  split
  · rfl
  · split
    · next h => rw [h]; rfl
    · rfl

theorem unpack_packComponents (s : Sign) (e : BitVec 11) (m : BitVec 52) :
    UnpackedFloat.unpack Format.binary64 (packComponents Format.binary64 s e m) = assembled s e m := by
  rw [unpack_eq_assembled, unpackMantissa_packComponents, unpackExponent_packComponents, unpackSign_packComponents,
    Sign.ofBitVec_toBitVec]

/-- A finite value, packed: its exponent counts if the mantissa has its full length. -/
theorem pack_finite (s : Sign) (m : Nat) (e : Int) (hm : 0 < m) :
    UnpackedFloat.pack Format.binary64 (.finite s m e hm) =
      if 2047 ≤ (e + 1075).toNat then packedInfinity Format.binary64 s
      else packComponents Format.binary64 s (if m.log2 = 52 then BitVec.ofNat 11 (e + 1075).toNat else 0#11)
        (BitVec.ofNat 52 m) := by
  have hbiased : (e + (Format.binary64.exponentBias : Int) + (52 : Nat)).toNat = (e + 1075).toNat := by
    simp only [Format.exponentBias]
    omega
  unfold UnpackedFloat.pack
  simp only [hbiased]
  by_cases hlarge : 2047 ≤ (e + 1075).toNat
  · rw [if_pos hlarge, if_pos (by omega)]
  · rw [if_neg hlarge, if_neg (by omega)]
    by_cases hfull : m.log2 = 52
    · rw [if_pos hfull, if_pos (by rw [hfull]; rfl)]
    · rw [if_neg hfull, if_neg (by simp only [Format.mantissaBits]; omega)]

/-- Subnormal values are small. -/
theorem small_subnormal {k : Int} (hk : 0 ≤ k) (s : Sign) (m : BitVec 52) (hm : 0 < m.toNat) :
    Small k (.finite s m.toNat (-1074) hm) := by
  have hlog : m.toNat.log2 < 52 := (Nat.log2_lt (Nat.ne_of_gt hm)).mpr m.isLt
  show totalExponent _ _ ≤ k
  unfold totalExponent
  omega

/-- The size of a double, by its exponent. -/
theorem small_assembled {k : Int} (hk : 0 ≤ k) (hmax : k ≤ 1024) (s : Sign) {e : BitVec 11} (m : BitVec 52)
    (he : (e.toNat : Int) ≤ k + 1022) : Small k (assembled s e m) := by
  unfold assembled
  split
  · next hall =>
    rw [hall] at he
    have hones : (-1#11).toNat = 2047 := rfl
    omega
  · split
    · split
      · trivial
      · exact small_subnormal hk ..
    · have hlog : (1#1 ++ m).toNat.log2 = 52 := by
        rw [toNat_implicit, Nat.log2_eq_iff (by omega)]
        have := m.isLt
        omega
      show totalExponent _ _ ≤ k
      unfold totalExponent
      omega

/-- What is small enough for a double keeps its size when it is packed. -/
theorem small_unpack_pack {k : Int} {u : UnpackedFloat} (hk : 0 ≤ k) (hmax : k ≤ 971) (h : Small k u) :
    Small k (UnpackedFloat.unpack Format.binary64 (UnpackedFloat.pack Format.binary64 u)) := by
  match u, h with
  | .zero s, _ =>
    rw [UnpackedFloat.pack, unpack_packedZero]
    trivial
  | .finite s m e hm, h =>
    have h : (m.log2 : Int) + 1 + e ≤ k := h
    rw [pack_finite, if_neg (by omega), unpack_packComponents]
    refine small_assembled hk (by omega) s _ ?_
    split
    · rw [BitVec.toNat_ofNat]
      omega
    · simp
      omega

/-- A double without sign is not below zero. -/
theorem notNegative_assembled (e : BitVec 11) (m : BitVec 52) : NotNegative (assembled .positive e m) := by
  unfold assembled
  split
  · split <;> trivial
  · split
    · split <;> rfl
    · rfl

/-- What is not below zero is not so either when it is packed. -/
theorem notNegative_unpack_pack {u : UnpackedFloat} (h : NotNegative u) :
    NotNegative (UnpackedFloat.unpack Format.binary64 (UnpackedFloat.pack Format.binary64 u)) := by
  have hcomponents (e : BitVec 11) (m : BitVec 52) : NotNegative
      (UnpackedFloat.unpack Format.binary64 (packComponents Format.binary64 .positive e m)) := by
    rw [unpack_packComponents]
    exact notNegative_assembled e m
  match u, h with
  | .notANumber, _ => exact hcomponents ..
  | .infinity _, rfl => exact hcomponents ..
  | .zero _, rfl => exact hcomponents ..
  | .finite _ m e _, rfl =>
    rw [pack_finite]
    split <;> exact hcomponents ..

end WorkflowLab.Binary
