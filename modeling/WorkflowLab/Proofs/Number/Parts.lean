import WorkflowLab.Proofs.Number.Doubles
import WorkflowLab.Proofs.Number.Nearest

/-!
# Doubles and their parts

- `eq_of_datum_eq`, `datum_neg`: a double is determined by what it stands for, and a sign changes nothing else;
- `isCanonical_of_parts`, `ofBits_bitsOf`: a positive double has the bits of its mantissa and exponent;
- `eq_signed_of_parts`: **a double is determined by its parts**.
-/

namespace WorkflowLab.Binary

open Float.Model UnpackedFloat

/-! ## Signs -/

/-- A double is determined by what it stands for. -/
theorem eq_of_datum_eq {x y : Float} (h : datum x = datum y) : x = y := by
  have hbits := (unpack_inj_of_valid x.toModel.valid y.toModel.valid).mp h
  exact Float.toBits_inj.mp (UInt64.toBitVec_inj.mp hbits)

theorem unpack_pack_unpack (b : BitVec 64) :
    UnpackedFloat.unpack Format.binary64 (UnpackedFloat.pack Format.binary64 (UnpackedFloat.unpack Format.binary64 b)) =
      UnpackedFloat.unpack Format.binary64 b := by
  rw [pack_unpack]
  split
  · next hnan =>
    simp only [isNaNBits, decide_eq_true_eq] at hnan
    rw [unpack_packedNaN]
    simp [UnpackedFloat.unpack, hnan]
  · rfl

/-- A sign changes nothing else. -/
theorem datum_neg (x : Float) : datum (-x) = (datum x).neg := by
  have hnegative : datum (-x) =
      UnpackedFloat.unpack Format.binary64 (UnpackedFloat.pack Format.binary64 (datum x).neg) := rfl
  have hword : (datum x).neg = UnpackedFloat.unpack Format.binary64 (packComponents Format.binary64
      (-Sign.ofBitVec (@unpackSign Format.binary64 x.toModel.toBits.toBitVec))
      (@unpackExponent Format.binary64 x.toModel.toBits.toBitVec)
      (@unpackMantissa Format.binary64 x.toModel.toBits.toBitVec)) := by
    rw [datum, Float.Model.unpack, unpack_eq_assembled, unpack_packComponents]
    unfold assembled
    split
    · split <;> rfl
    · split
      · split <;> rfl
      · rfl
  rw [hnegative, hword, unpack_pack_unpack]

theorem isNegative_neg (s : Sign) : isNegative (-s) = !isNegative s := by
  cases s <;> rfl

/-- The sign of a finite double is its own part. -/
theorem parts_neg {x : Float} {negative : Bool} {m : Nat} {e : Int} (h : parts x = .finite negative m e) :
    parts (-x) = .finite (!negative) m e := by
  rw [parts_eq_partsOf] at h ⊢
  rw [datum_neg]
  match datum x, h with
  | .zero s, h =>
    cases h
    rw [← isNegative_neg]
    rfl
  | .finite s m e _, h =>
    cases h
    rw [← isNegative_neg]
    rfl

theorem neg_neg_double (x : Float) : -(-x) = x := by
  refine eq_of_datum_eq ?_
  rw [datum_neg, datum_neg]
  match datum x with
  | .notANumber => rfl
  | .infinity s | .zero s | .finite s _ _ _ => cases s <;> rfl

/-! ## Bits -/

/-- The bits of a finite double without sign. -/
theorem toNat_toBits {x : Float} {m : Nat} {e : Int} (h : parts x = .finite false m e) :
    x.toBits.toNat = bitsOf m e ∧ m < 2 ^ 53 ∧ -1074 ≤ e ∧ e ≤ 971 ∧ (e = -1074 ∨ 2 ^ 52 ≤ m) := by
  have hword := x.toBits.toNat_lt
  unfold parts at h
  dsimp only at h
  unfold bitsOf
  generalize x.toBits.toNat = bits at *
  split at h
  · split at h <;> cases h
  · split at h
    all_goals
      simp only [Parts.finite.injEq, beq_eq_false_iff_ne] at h
      obtain ⟨hsign, rfl, rfl⟩ := h
      unfold leadingBit wordLimit at *
      omega

/-- Mantissa and exponent of a positive double. -/
theorem isCanonical_of_parts {x : Float} {m : Nat} {e : Int} (h : parts x = .finite false m e) (hm : 0 < m) :
    IsCanonical m e := by
  obtain ⟨-, hbits, hlow, hhigh, hfull⟩ := toNat_toBits h
  exact ⟨hm, hbits, hlow, hhigh, hfull⟩

/-- **A double without sign has the bits of its mantissa and exponent.** -/
theorem ofBits_bitsOf {x : Float} {m : Nat} {e : Int} (h : parts x = .finite false m e) :
    Float.ofBits (UInt64.ofNat (bitsOf m e)) = x := by
  rw [← (toNat_toBits h).1, UInt64.ofNat_toNat, Float.ofBits_toBits]

/-- The double without mantissa and sign is zero. -/
theorem eq_zero_of_parts {x : Float} {e : Int} (h : parts x = .finite false 0 e) : x = 0 := by
  obtain ⟨-, -, -, -, hfull⟩ := toNat_toBits h
  obtain rfl := hfull.resolve_right (by decide)
  have hzero : parts 0 = .finite false 0 (-1074) := rfl
  rw [← ofBits_bitsOf h, ofBits_bitsOf hzero]

/-- **A finite double is the one of its size with its sign.** -/
theorem eq_signed_of_parts {x : Float} {negative : Bool} {m : Nat} {e : Int} (h : parts x = .finite negative m e) :
    ∃ y, parts y = .finite false m e ∧ signed negative y = x := by
  cases negative with
  | false => exact ⟨x, h, rfl⟩
  | true => exact ⟨-x, parts_neg h, neg_neg_double x⟩

end WorkflowLab.Binary
