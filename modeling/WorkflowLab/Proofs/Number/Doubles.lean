import WorkflowLab.Number.Basic
import WorkflowLab.Proofs.Number.Ratios
import WorkflowLab.Proofs.Number.Rounding

/-!
# Doubles

- `datum`: what a double stands for; sums, differences and products of doubles;
- `parts_eq_partsOf`: the parts that are read from the bits of a double are those of its datum;
- `compareInt_of_less`, `notNegative_of_zero_less`, `notNegative_sub_one`: what comparisons say about size and sign;
- `small_ofRatio?`, `small_ofInt?`: fractions and integers that are small have small doubles;
- `floor?_lt_tooLarge`: the size of the integer part of a double.
-/

namespace WorkflowLab.Binary

open Float.Model UnpackedFloat

/-- What a double stands for, unpacked from its bits. -/
def datum (x : Float) : UnpackedFloat := x.toModel.unpack

theorem datum_zero : datum 0 = .zero .positive := rfl

theorem datum_add (x y : Float) : datum (x + y) =
    UnpackedFloat.unpack Format.binary64 (UnpackedFloat.pack Format.binary64
      (UnpackedFloat.add Format.binary64 (datum x) (datum y))) := rfl

theorem datum_sub (x y : Float) : datum (x - y) =
    UnpackedFloat.unpack Format.binary64 (UnpackedFloat.pack Format.binary64
      (UnpackedFloat.sub Format.binary64 (datum x) (datum y))) := rfl

theorem datum_mul (x y : Float) : datum (x * y) =
    UnpackedFloat.unpack Format.binary64 (UnpackedFloat.pack Format.binary64
      (UnpackedFloat.mul Format.binary64 (datum x) (datum y))) := rfl

/-- The sum of two doubles that are small is small. -/
theorem small_datum_add {k : Int} {x y : Float} (hk : 0 ≤ k) (hmax : k ≤ 969) (hx : Small k (datum x))
    (hy : Small k (datum y)) : Small (k + 2) (datum (x + y)) := by
  rw [datum_add]
  exact small_unpack_pack (by omega) (by omega) (small_add hk hx hy)

/-! ## Parts -/

/-- The sign is the negative one. -/
def isNegative : Sign → Bool
  | .negative => true
  | .positive => false

/-- What the parts of a double say about what it stands for. -/
def partsOf : UnpackedFloat → Parts
  | .notANumber => .nan
  | .infinity s => .infinite (isNegative s)
  | .zero s => .finite (isNegative s) 0 (-1074)
  | .finite s m e _ => .finite (isNegative s) m e

theorem toNat_unpackMantissa (b : BitVec 64) : (@unpackMantissa Format.binary64 b).toNat = b.toNat % leadingBit := by
  simp [unpackMantissa, leadingBit]

theorem toNat_unpackExponent (b : BitVec 64) :
    (@unpackExponent Format.binary64 b).toNat = b.toNat / leadingBit % 2048 := by
  simp [unpackExponent, Nat.shiftRight_eq_div_pow, leadingBit]

theorem toNat_unpackSign (b : BitVec 64) : (@unpackSign Format.binary64 b).toNat = b.toNat / wordLimit := by
  have := b.isLt
  simp [unpackSign, Nat.shiftRight_eq_div_pow, wordLimit]
  omega

/-- The sign bit of a double. -/
theorem isNegative_unpackSign (b : BitVec 64) :
    isNegative (Sign.ofBitVec (@unpackSign Format.binary64 b)) = (b.toNat / wordLimit == 1) := by
  rw [← toNat_unpackSign]
  generalize @unpackSign Format.binary64 b = bit
  revert bit
  decide

/-- The parts of what a double stands for. -/
theorem partsOf_assembled (s : Sign) (e : BitVec 11) (m : BitVec 52) :
    partsOf (assembled s e m) =
      if e.toNat = 2047 then if m.toNat = 0 then .infinite (isNegative s) else .nan
      else if e.toNat = 0 then .finite (isNegative s) m.toNat (-1074)
      else .finite (isNegative s) (m.toNat + leadingBit) (e.toNat - 1075) := by
  have hall : e.toNat = 2047 ↔ e = -1#11 := ⟨fun h => BitVec.eq_of_toNat_eq h, fun h => by rw [h]; rfl⟩
  have hnone : e.toNat = 0 ↔ e = 0#11 := ⟨fun h => BitVec.eq_of_toNat_eq h, fun h => by rw [h]; rfl⟩
  have hzero : m.toNat = 0 ↔ m = 0#52 := ⟨fun h => BitVec.eq_of_toNat_eq h, fun h => by rw [h]; rfl⟩
  simp only [hall, hnone, hzero]
  unfold assembled
  split
  · split <;> rfl
  · split
    · split
      · next h => rw [h]; rfl
      · rfl
    · rw [partsOf, toNat_implicit, Nat.add_comm]
      rfl

/-- **The parts of a double are those of what it stands for.** -/
theorem parts_eq_partsOf (x : Float) : parts x = partsOf (datum x) := by
  have hbits : x.toBits.toNat = x.toModel.toBits.toBitVec.toNat := rfl
  rw [datum, Float.Model.unpack, unpack_eq_assembled, partsOf_assembled, toNat_unpackMantissa, toNat_unpackExponent,
    isNegative_unpackSign, ← hbits]
  rfl

/-- Small doubles have an integer part. -/
theorem isSome_floor?_of_small {k : Int} {x : Float} (h : Small k (datum x)) : (floor? x).isSome := by
  unfold floor?
  rw [parts_eq_partsOf]
  match datum x, h with
  | .zero _, _ => rfl
  | .finite _ _ _ _, _ => rfl

/-! ## Comparison -/

/-- What is greater than zero is not below it. -/
theorem notNegative_of_zero_less {x : Float} (h : Number.less (.float 0) (.float x) = true) :
    NotNegative (datum x) := by
  have hlt : (0 : Float) < x := by
    have h : (Number.compareFloat 0 x == some .lt) = true := h
    unfold Number.compareFloat at h
    split at h
    · assumption
    · split at h
      · cases h
      · split at h <;> cases h
  have hcompare : ((datum 0).compare (datum x) == some .lt) = true := of_decide_eq_true hlt
  rw [datum_zero, beq_iff_eq] at hcompare
  match datum x, hcompare with
  | .infinity .positive, _ => rfl
  | .finite .positive _ _ _, _ => rfl

/-- What is below an integer has one above it. -/
theorem compareInt_of_less {n : Int} {x : Float} (h : Number.less (.float x) (.int n) = true) :
    compareInt n x = some .gt := by
  have h : ((compareInt n x).map Ordering.swap == some .lt) = true := h
  rw [beq_iff_eq, Option.map_eq_some_iff] at h
  obtain ⟨o, ho, hswap⟩ := h
  cases o <;> first | exact ho | cases hswap

/-- A finite value above one has no sign. -/
theorem one_lt_of_compare {negative : Bool} {m : Nat} {e : Int}
    (h : (if 0 ≤ e then compare 1 ((if negative then -(m : Int) else m) * twoTo e.toNat)
      else compare (1 * (twoTo (-e).toNat : Int)) (if negative then -(m : Int) else m)) = .lt) :
    negative = false ∧ 2 ^ (-e).toNat < m * 2 ^ e.toNat := by
  have hlt : ((2 ^ (-e).toNat : Nat) : Int) < (if negative then -(m : Int) else m) * ((2 ^ e.toNat : Nat) : Int) := by
    split at h
    · next he =>
      rw [Int.compare_eq_lt] at h
      have hnone : (-e).toNat = 0 := by omega
      rwa [hnone]
    · next he =>
      rw [Int.compare_eq_lt, Int.one_mul] at h
      have hnone : e.toNat = 0 := by omega
      rw [hnone]
      simpa using h
  cases negative with
  | true =>
    rw [if_pos rfl, Int.neg_mul] at hlt
    have hnonneg : 0 ≤ (m : Int) * ((2 ^ e.toNat : Nat) : Int) :=
      Int.mul_nonneg (Int.natCast_nonneg m) (Int.natCast_nonneg _)
    have hpower : 0 ≤ ((2 ^ (-e).toNat : Nat) : Int) := Int.natCast_nonneg _
    exact absurd hlt (Int.not_lt.mpr (Int.le_trans (Int.neg_nonpos_of_nonneg hnonneg) hpower))
  | false =>
    refine ⟨rfl, ?_⟩
    rw [if_neg (by decide)] at hlt
    exact Int.ofNat_lt.mp (by push_cast at hlt ⊢; exact hlt)

/-- What is not at most one is above one, or not a number. -/
theorem one_lt_of_not_atMost {x : Float} (h : Number.atMost (.float x) (.int 1) = false) :
    match datum x with
    | .notANumber => True
    | .infinity s => s = .positive
    | .zero _ => False
    | .finite s m e _ => s = .positive ∧ 2 ^ (-e).toNat < m * 2 ^ e.toNat := by
  have hcompare : compareInt 1 x = none ∨ compareInt 1 x = some .lt := by
    have h : (((compareInt 1 x).map Ordering.swap == some .lt) || ((compareInt 1 x).map Ordering.swap == some .eq)) =
      false := h
    cases hresult : compareInt 1 x with
    | none => exact .inl rfl
    | some o =>
      rw [hresult] at h
      cases o <;> first | exact .inr rfl | cases h
  unfold compareInt at hcompare
  rw [parts_eq_partsOf] at hcompare
  match datum x, hcompare with
  | .notANumber, _ => trivial
  | .infinity .positive, _ => rfl
  | .infinity .negative, h => exact absurd h (by simp [partsOf, isNegative])
  | .zero s, h =>
    obtain ⟨-, hlt⟩ := one_lt_of_compare (Option.some.inj (h.resolve_left nofun))
    rw [Nat.zero_mul] at hlt
    exact absurd hlt (Nat.not_lt_zero _)
  | .finite s m e hm, h =>
    obtain ⟨hsign, hlt⟩ := one_lt_of_compare (Option.some.inj (h.resolve_left nofun))
    cases s with
    | negative => cases hsign
    | positive => exact ⟨rfl, hlt⟩

/-- What is above one stays above zero without the one. -/
theorem notNegative_sub_one {x : Float} (h : Number.atMost (.float x) (.int 1) = false) :
    NotNegative (datum (x - 1)) := by
  have hone : datum 1 = .finite .positive (2 ^ 52) (-52) (by decide) := rfl
  rw [datum_sub, hone]
  refine notNegative_unpack_pack ?_
  have habove := one_lt_of_not_atMost h
  match datum x, habove with
  | .notANumber, _ => trivial
  | .infinity _, rfl => rfl
  | .finite _ m e hm, ⟨rfl, hlt⟩ =>
    refine notNegative_sub ?_
    show (2 ^ 52) <<< (-52 - min e (-52)).toNat ≤ m <<< (e - min e (-52)).toNat
    rw [Nat.shiftLeft_eq, Nat.shiftLeft_eq]
    calc 2 ^ 52 * 2 ^ (-52 - min e (-52)).toNat
        = 2 ^ (-e).toNat * 2 ^ ((-min e (-52)).toNat - (-e).toNat) := by
          rw [← Nat.pow_add, ← Nat.pow_add]
          congr 1
          omega
      _ ≤ m * 2 ^ e.toNat * 2 ^ ((-min e (-52)).toNat - (-e).toNat) := Nat.mul_le_mul_right _ (Nat.le_of_lt hlt)
      _ = m * 2 ^ (e - min e (-52)).toNat := by
          rw [Nat.mul_assoc, ← Nat.pow_add]
          congr 2
          omega

/-! ## Fractions -/

/-- The sign does not change the size of a double. -/
theorem small_signed {k : Int} {x : Float} (hk : 0 ≤ k) (hmax : k ≤ 971) (h : Small k (datum x)) (negative : Bool) :
    Small k (datum (signed negative x)) := by
  cases negative with
  | false => exact h
  | true =>
    have hneg : datum (-x) = UnpackedFloat.unpack Format.binary64 (UnpackedFloat.pack Format.binary64 (datum x).neg) :=
      rfl
    rw [signed, if_pos rfl, hneg]
    refine small_unpack_pack hk hmax ?_
    match datum x, h with
    | .zero _, _ => trivial
    | .finite _ _ _ _, h => exact h

/-- A fraction below a power of two has a double, which is small. -/
theorem small_ofRatio? {num den k : Nat} (hden : 0 < den) (hk : k ≤ 970) (h : num < 2 ^ k * den) :
    ∃ q, ofRatio? num den = some q ∧ Small (k + 1) (datum q) := by
  rw [ofRatio?_eq]
  by_cases hzero : num = 0
  · exact ⟨0, if_pos hzero, trivial⟩
  · have hbits := ratioBits_le (Nat.pos_of_ne_zero hzero) hden h
    have hroom : ratioBits num den < 2047 * leadingBit := by unfold leadingBit at *; omega
    refine ⟨_, by rw [if_neg hzero, if_pos hroom], ?_⟩
    have hdatum (bits : UInt64) : datum (Float.ofBits bits) = UnpackedFloat.unpack Format.binary64
      (UnpackedFloat.pack Format.binary64 (UnpackedFloat.unpack Format.binary64 bits.toBitVec)) := rfl
    rw [hdatum]
    refine small_unpack_pack (by omega) (by omega) ?_
    rw [unpack_eq_assembled]
    refine small_assembled (by omega) (by omega) _ _ ?_
    rw [toNat_unpackExponent]
    have hword : (UInt64.ofNat (ratioBits num den)).toBitVec.toNat = ratioBits num den :=
      UInt64.toNat_ofNat_of_lt (by unfold leadingBit at hroom; simp only [UInt64.size]; omega)
    rw [hword]
    unfold leadingBit at *
    omega

/-- An integer below a power of two has a double, which is small. -/
theorem small_ofInt? {n : Int} {k : Nat} (hk : k ≤ 970) (h : n.natAbs < 2 ^ k) :
    ∃ q, ofInt? n = some q ∧ Small (k + 1) (datum q) := by
  obtain ⟨q, hq, hsmall⟩ := small_ofRatio? (by decide : 0 < 1) hk (by rwa [Nat.mul_one])
  refine ⟨signed (n < 0) q, by rw [ofInt?, hq]; rfl, small_signed (by omega) (by omega) hsmall _⟩

/-! ## Integer parts -/

/-- The parts of a finite double. -/
theorem bounds_of_parts {x : Float} {negative : Bool} {m : Nat} {e : Int} (h : parts x = .finite negative m e) :
    m < 2 ^ 53 ∧ e ≤ 971 := by
  unfold parts at h
  have hfraction := Nat.mod_lt x.toBits.toNat (show 0 < leadingBit by decide)
  dsimp only at h
  generalize x.toBits.toNat % leadingBit = fraction at h hfraction
  have hbiased := Nat.mod_lt (x.toBits.toNat / leadingBit) (show 0 < 2048 by decide)
  generalize x.toBits.toNat / leadingBit % 2048 = biased at h hbiased
  unfold leadingBit at *
  split at h
  · split at h <;> cases h
  · split at h <;> cases h <;> omega

/-- The integer part of a double is below the next power of two. -/
theorem natAbs_floor?_lt {top : Nat} (htop : 971 ≤ top) {x : Float} {n : Int} (h : floor? x = some n) :
    n.natAbs < 2 ^ 53 * 2 ^ top := by
  unfold floor? at h
  split at h
  · next negative m e hparts =>
    obtain ⟨hm, he⟩ := bounds_of_parts hparts
    have hsize : (if negative then -(m : Int) else m).natAbs = m := by split <;> omega
    obtain rfl := Option.some.inj h
    split
    · rw [Int.natAbs_mul, hsize, Int.natAbs_natCast]
      exact Nat.mul_lt_mul_of_lt_of_le hm (Nat.pow_le_pow_right (by decide) (by omega)) (Nat.two_pow_pos _)
    · refine Nat.lt_of_le_of_lt (Int.natAbs_ediv_le_natAbs ..) ?_
      rw [hsize]
      exact Nat.lt_of_lt_of_le hm (Nat.le_mul_of_pos_right _ (Nat.two_pow_pos top))
  · cases h

/-- The integer part of a double is below twice the least number that is too large for one. -/
theorem floor?_lt_tooLarge {x : Float} {n : Int} (h : floor? x = some n) : n.natAbs < tooLarge * 2 := by
  have hscale (scale : Nat) (htop : 971 ≤ scale + 1) : n.natAbs < halfAbove scale * 2 :=
    Nat.lt_of_lt_of_le (natAbs_floor?_lt htop h) (pow_le_halfAbove scale)
  unfold tooLarge
  exact hscale 970 (by decide)

end WorkflowLab.Binary
