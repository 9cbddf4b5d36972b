import WorkflowLab.Proofs.Number.Parts

/-!
# The order of rounded values

Every double that is not below zero is a number of units, the least positive double being one of them.

- `roundDiv_mono`, `ratioBits_mono`: a greater fraction has no fewer bits;
- `IsUnits`, `IsUnits.mono`: how many units a double is; more bits are no fewer units;
- `unitBits`, `IsNearest`: the double nearest to a number of units; `IsNearest.mono`;
- `IsUnits.isNearest`: a double is the nearest one to itself;
- `isUnits_of_less`, `IsUnits.small`: doubles between zero and a natural number;
- `floor?_of_isUnits`, `isNearest_ofInt?`: integer parts, and integers as doubles.
-/

namespace WorkflowLab.Binary

/-! ## Fractions -/

/-- A greater quotient is rounded to no smaller number. -/
theorem roundDiv_mono {n d n' d' : Nat} (hd : 0 < d) (hd' : 0 < d') (h : n * d' ≤ n' * d) :
    roundDiv n d ≤ roundDiv n' d' := by
  have hsplit := Nat.div_add_mod n d
  have hsplit' := Nat.div_add_mod n' d'
  have hrest := Nat.mod_lt n hd
  have hquotient : n / d ≤ n' / d' := by
    rw [Nat.le_div_iff_mul_le hd']
    refine Nat.le_of_mul_le_mul_right ?_ hd
    calc n / d * d' * d = d * (n / d) * d' := by ring
      _ ≤ n * d' := Nat.mul_le_mul_right _ (Nat.mul_div_le n d)
      _ ≤ n' * d := h
  rcases Nat.lt_or_eq_of_le hquotient with hless | hsame
  · have hround := roundDiv_eq_or n d
    have hround' := roundDiv_eq_or n' d'
    omega
  · have hremainder : n % d * d' ≤ n' % d' * d := by
      rw [← hsplit, ← hsplit', hsame] at h
      nlinarith
    have hbelow : 2 * (n' % d') < d' → 2 * (n % d) < d := fun hhalf => by nlinarith
    have hhalf : 2 * (n' % d') ≤ d' → 2 * (n % d) ≤ d := fun hhalf => by nlinarith
    unfold roundDiv
    dsimp only
    rw [hsame]
    generalize n % d = r, n' % d' = r', n' / d' = q at *
    split <;> split <;> (try split) <;> (try split) <;> (try split) <;> omega

/-- Equal quotients are rounded to the same number. -/
theorem roundDiv_congr {n d n' d' : Nat} (hd : 0 < d) (hd' : 0 < d') (h : n * d' = n' * d) :
    roundDiv n d = roundDiv n' d' :=
  Nat.le_antisymm (roundDiv_mono hd hd' h.le) (roundDiv_mono hd' hd h.ge)

/-- A greater fraction reaches the same powers of two. -/
theorem AtLeast.of_le {num den num' den' : Nat} (hden : 0 < den) (h : num * den' ≤ num' * den) {x : Int}
    (hx : AtLeast num den x) : AtLeast num' den' x := by
  unfold AtLeast at *
  refine Nat.le_of_mul_le_mul_right ?_ hden
  calc den' * 2 ^ x.toNat * den = den' * (den * 2 ^ x.toNat) := by ring
    _ ≤ den' * (num * 2 ^ (-x).toNat) := Nat.mul_le_mul_left _ hx
    _ = num * den' * 2 ^ (-x).toNat := by ring
    _ ≤ num' * den * 2 ^ (-x).toNat := Nat.mul_le_mul_right _ h
    _ = num' * 2 ^ (-x).toNat * den := by ring

/-- **A greater fraction has no fewer bits.** -/
theorem ratioBits_mono {num den num' den' : Nat} (hnum : 0 < num) (hden : 0 < den) (hnum' : 0 < num') (hden' : 0 < den')
    (h : num * den' ≤ num' * den) : ratioBits num den ≤ ratioBits num' den' := by
  obtain ⟨t, hreached, -, he⟩ := exists_atLeast hnum hden
  obtain ⟨t', -, hnext', he'⟩ := exists_atLeast hnum' hden'
  obtain ⟨hhigh, -⟩ := mantissa_bounds hnum hden
  obtain ⟨-, hlow'⟩ := mantissa_bounds hnum' hden'
  have hpower : t ≤ t' := by
    by_contra hmore
    exact hnext' ((hreached.of_le hden h).mono (by omega))
  have hexponent : exponentOf num den ≤ exponentOf num' den' := by omega
  have hround := roundDiv_le hhigh
  rcases Int.lt_or_eq_of_le hexponent with hless | hsame
  · have hfull := le_roundDiv (shifted_pos hden' _) (hlow' (by omega))
    unfold ratioBits leadingBit
    omega
  · have hmantissa : roundDiv (shifted num den (exponentOf num den)).1 (shifted num den (exponentOf num den)).2 ≤
        roundDiv (shifted num' den' (exponentOf num' den')).1 (shifted num' den' (exponentOf num' den')).2 := by
      apply roundDiv_mono (shifted_pos hden _) (shifted_pos hden' _)
      rw [hsame, shifted_eq, shifted_eq]
      nlinarith [Nat.mul_le_mul_right (2 ^ (-exponentOf num' den').toNat * 2 ^ (exponentOf num' den').toNat) h]
    unfold ratioBits
    rw [hsame] at hmantissa ⊢
    omega

/-! ## Units -/

/-- The places after the point of a unit. -/
def unitPlaces : Nat := 1074

/-- How many units make one. -/
def unitsOfOne : Nat := 2 ^ unitPlaces

/-- The number of units in a mantissa with an exponent. -/
def units (m : Nat) (e : Int) : Nat := m * 2 ^ (e + 1074).toNat

/-- **A double without sign is a number of units.** -/
def IsUnits (x : Float) (n : Nat) : Prop := ∃ m e, parts x = .finite false m e ∧ n = units m e

theorem unitsOfOne_pos : 0 < unitsOfOne := Nat.two_pow_pos unitPlaces

/-- More bits are no fewer units. -/
theorem IsUnits.mono {x y : Float} {a b : Nat} (ha : IsUnits x a) (hb : IsUnits y b)
    (h : x.toBits.toNat ≤ y.toBits.toNat) : a ≤ b := by
  obtain ⟨m, e, hx, rfl⟩ := ha
  obtain ⟨n, d, hy, rfl⟩ := hb
  obtain ⟨hbits, hm, he, -, hfull⟩ := toNat_toBits hx
  obtain ⟨hbits', hn, hd, -, hfull'⟩ := toNat_toBits hy
  rw [hbits, hbits'] at h
  unfold bitsOf leadingBit at h
  unfold units
  rcases Int.lt_trichotomy e d with hless | rfl | hmore
  · have hpower : (d + 1074).toNat = (e + 1074).toNat + 1 + (d - e - 1).toNat := by omega
    calc m * 2 ^ (e + 1074).toNat ≤ 2 ^ 53 * 2 ^ (e + 1074).toNat := Nat.mul_le_mul_right _ hm.le
      _ = 2 ^ 52 * 2 ^ ((e + 1074).toNat + 1) := by rw [Nat.pow_succ 2 (e + 1074).toNat]; ring
      _ ≤ n * 2 ^ (d + 1074).toNat :=
        Nat.mul_le_mul (hfull'.resolve_left (by omega)) (Nat.pow_le_pow_right (by decide) (by omega))
  · exact Nat.mul_le_mul_right _ (by omega)
  · have hleast := hfull.resolve_left (by omega)
    omega

/-- The bits of the double nearest to a number of units. -/
def unitBits (n : Nat) : Nat := if n = 0 then 0 else ratioBits n unitsOfOne

/-- More units have no fewer bits. -/
theorem unitBits_mono {a b : Nat} (h : a ≤ b) : unitBits a ≤ unitBits b := by
  unfold unitBits
  by_cases ha : a = 0
  · rw [if_pos ha]
    exact Nat.zero_le _
  · rw [if_neg ha, if_neg (by omega)]
    exact ratioBits_mono (by omega) unitsOfOne_pos (by omega) unitsOfOne_pos (Nat.mul_le_mul_right _ h)

/-- The bits of a fraction are those of its units. -/
theorem ratioBits_eq_unitBits {num den n : Nat} (hnum : 0 < num) (hden : 0 < den) (h : num * unitsOfOne = n * den) :
    ratioBits num den = unitBits n := by
  have hn : 0 < n := Nat.pos_of_mul_pos_right (h ▸ Nat.mul_pos hnum unitsOfOne_pos)
  rw [unitBits, if_neg hn.ne']
  exact Nat.le_antisymm (ratioBits_mono hnum hden hn unitsOfOne_pos h.le)
    (ratioBits_mono hn unitsOfOne_pos hnum hden h.ge)

/-- **A double is the nearest one to a number of units.** -/
def IsNearest (x : Float) (n : Nat) : Prop := ∃ m e, parts x = .finite false m e ∧ bitsOf m e = unitBits n

theorem IsNearest.isUnits {x : Float} {n : Nat} (h : IsNearest x n) : ∃ u, IsUnits x u := by
  obtain ⟨m, e, hx, -⟩ := h
  exact ⟨_, m, e, hx, rfl⟩

theorem IsNearest.toNat_toBits {x : Float} {n : Nat} (h : IsNearest x n) : x.toBits.toNat = unitBits n := by
  obtain ⟨m, e, hx, hbits⟩ := h
  rw [(Binary.toNat_toBits hx).1, hbits]

/-- **Rounding keeps the order.** -/
theorem IsNearest.mono {x y : Float} {m n a b : Nat} (hx : IsNearest x m) (hy : IsNearest y n) (h : m ≤ n)
    (ha : IsUnits x a) (hb : IsUnits y b) : a ≤ b := by
  apply ha.mono hb
  rw [hx.toNat_toBits, hy.toNat_toBits]
  exact unitBits_mono h

/-- A number of units against a power of two. -/
theorem atLeast_unitsOfOne_iff {n : Nat} {x : Int} (hx : -1074 ≤ x) :
    AtLeast n unitsOfOne x ↔ 2 ^ (x + 1074).toNat ≤ n := by
  have hplaces : -x ≤ (unitPlaces : Int) := by unfold unitPlaces; omega
  rw [atLeast_iff hplaces, unitsOfOne, Nat.mul_comm, Nat.mul_le_mul_right_iff (Nat.two_pow_pos unitPlaces)]
  rfl

/-- The exponent of a number of units, of which all bits but 53 are dropped. -/
theorem exponentOf_unitsOfOne {n : Nat} (hn : 0 < n) :
    exponentOf n unitsOfOne = ((n.log2 - 52 : Nat) : Int) - 1074 := by
  obtain ⟨t, hreached, hnext, he⟩ := exists_atLeast hn unitsOfOne_pos
  have hleast : -1074 ≤ t := by
    by_contra hless
    refine hnext (AtLeast.mono ?_ (by omega : t + 1 ≤ -1074))
    rw [atLeast_unitsOfOne_iff (Int.le_refl _)]
    exact hn
  have hlog : n.log2 = (t + 1074).toNat := by
    rw [atLeast_unitsOfOne_iff hleast] at hreached
    rw [atLeast_unitsOfOne_iff (by omega), Nat.not_le] at hnext
    rw [Nat.log2_eq_iff hn.ne']
    refine ⟨hreached, ?_⟩
    have hpower : (t + 1 + 1074).toNat = (t + 1074).toNat + 1 := by omega
    rwa [hpower] at hnext
  omega

/-- The bits of a number of units: those above the lowest of 53 give the exponent, and the rest is rounded. -/
theorem ratioBits_units {n : Nat} (hn : 0 < n) :
    ratioBits n unitsOfOne = (n.log2 - 52) * leadingBit + roundDiv n (2 ^ (n.log2 - 52)) := by
  have hexponent := exponentOf_unitsOfOne hn
  have hplaces : (exponentOf n unitsOfOne + 1074).toNat = n.log2 - 52 := by omega
  have hmantissa : roundDiv (shifted n unitsOfOne (exponentOf n unitsOfOne)).1
      (shifted n unitsOfOne (exponentOf n unitsOfOne)).2 = roundDiv n (2 ^ (n.log2 - 52)) := by
    apply roundDiv_congr (shifted_pos unitsOfOne_pos _) (Nat.two_pow_pos _)
    have hpower : (-exponentOf n unitsOfOne).toNat + (n.log2 - 52) = unitPlaces + (exponentOf n unitsOfOne).toNat := by
      unfold unitPlaces
      omega
    rw [shifted_eq]
    dsimp only
    generalize exponentOf n unitsOfOne = e at *
    rw [unitsOfOne, Nat.mul_assoc, ← Nat.pow_add, hpower, Nat.pow_add]
  rw [ratioBits, hplaces, hmantissa]

/-- Places that are added to a number count in its logarithm. -/
theorem log2_mul_pow {m : Nat} (hm : 0 < m) (k : Nat) : (m * 2 ^ k).log2 = m.log2 + k := by
  rw [Nat.log2_eq_iff (Nat.mul_pos hm (Nat.two_pow_pos k)).ne']
  constructor
  · rw [Nat.pow_add]
    exact Nat.mul_le_mul_right _ (Nat.log2_self_le hm.ne')
  · rw [Nat.add_right_comm, Nat.pow_add]
    exact Nat.mul_lt_mul_of_pos_right Nat.lt_log2_self (Nat.two_pow_pos k)

/-- **A double is the nearest one to itself.** -/
theorem IsUnits.isNearest {x : Float} {n : Nat} (h : IsUnits x n) : IsNearest x n := by
  obtain ⟨m, e, hx, rfl⟩ := h
  refine ⟨m, e, hx, ?_⟩
  obtain ⟨-, hm, he, -, hfull⟩ := toNat_toBits hx
  rcases Nat.eq_zero_or_pos m with rfl | hpos
  · obtain rfl := hfull.resolve_right (by decide)
    rfl
  · have hunits : 0 < units m e := Nat.mul_pos hpos (Nat.two_pow_pos _)
    have hlog : (units m e).log2 - 52 = (e + 1074).toNat := by
      rw [units, log2_mul_pow hpos]
      have hbits : m.log2 < 53 := (Nat.log2_lt hpos.ne').mpr hm
      rcases hfull with rfl | hlong
      · omega
      · have hlong : 52 ≤ m.log2 := (Nat.le_log2 hpos.ne').mpr hlong
        omega
    have hexact : roundDiv (units m e) (2 ^ (e + 1074).toNat) = m := by
      rw [units, roundDiv, Nat.mul_mod_left, Nat.mul_div_cancel _ (Nat.two_pow_pos _)]
      exact if_pos (Nat.two_pow_pos _)
    rw [unitBits, if_neg hunits.ne', ratioBits_units hunits, hlog, hexact]
    rfl

/-- A finite double that is not below zero is a number of units. -/
theorem exists_isUnits {x : Float} (hx : NotNegative (datum x)) {negative : Bool} {m : Nat} {e : Int}
    (hparts : parts x = .finite negative m e) : IsUnits x (units m e) := by
  refine ⟨m, e, ?_, rfl⟩
  rw [hparts]
  rw [parts_eq_partsOf] at hparts
  match datum x, hx, hparts with
  | .zero .positive, _, hparts => cases hparts; rfl
  | .finite .positive _ _ _, _, hparts => cases hparts; rfl

/-- A double between zero and a natural number has no more units than this. -/
theorem isUnits_of_less {x : Float} {k : Nat} (hx : NotNegative (datum x))
    (h : Number.less (.float x) (.int k) = true) : ∃ n, IsUnits x n ∧ n ≤ k * unitsOfOne := by
  have hcompare := compareInt_of_less h
  unfold compareInt at hcompare
  cases hparts : parts x with
  | nan => rw [hparts] at hcompare; cases hcompare
  | infinite negative =>
    rw [hparts] at hcompare
    rw [parts_eq_partsOf] at hparts
    match datum x, hx, hparts with
    | .infinity .positive, _, hparts => cases hparts; cases hcompare
  | finite negative m e =>
    obtain ⟨_, _, hfinite, -⟩ := exists_isUnits hx hparts
    rw [hparts] at hfinite hcompare
    cases hfinite
    obtain ⟨-, -, he, -⟩ := toNat_toBits hparts
    refine ⟨_, exists_isUnits hx hparts, ?_⟩
    dsimp only at hcompare
    rw [if_neg Bool.false_ne_true, Option.some.injEq] at hcompare
    rw [units, unitsOfOne]
    split at hcompare
    · next hnonneg =>
      rw [Int.compare_eq_gt] at hcompare
      have hbelow : m * 2 ^ e.toNat ≤ k := by
        have hlt : ((m * 2 ^ e.toNat : Nat) : Int) < k := by push_cast; exact hcompare
        omega
      have hpower : (e + 1074).toNat = e.toNat + unitPlaces := by unfold unitPlaces; omega
      rw [hpower, Nat.pow_add, ← Nat.mul_assoc]
      exact Nat.mul_le_mul_right _ hbelow
    · next hnegative =>
      rw [Int.compare_eq_gt] at hcompare
      have hbelow : m ≤ k * 2 ^ (-e).toNat := by
        have hlt : (m : Int) < ((k * 2 ^ (-e).toNat : Nat) : Int) := by push_cast; exact hcompare
        omega
      have hpower : unitPlaces = (-e).toNat + (e + 1074).toNat := by unfold unitPlaces; omega
      rw [hpower, Nat.pow_add, ← Nat.mul_assoc]
      exact Nat.mul_le_mul_right _ hbelow

/-- So few units make a small double. -/
theorem IsUnits.small {x : Float} {n k : Nat} (h : IsUnits x n) (hn : n < 2 ^ k * unitsOfOne) : Small k (datum x) := by
  obtain ⟨m, e, hparts, rfl⟩ := h
  obtain ⟨-, -, he, -⟩ := toNat_toBits hparts
  rw [parts_eq_partsOf] at hparts
  match datum x, hparts with
  | .zero .positive, _ => trivial
  | .finite .positive m' e' hm, hparts =>
    cases hparts
    rw [units, unitsOfOne, ← Nat.pow_add] at hn
    have hpower : 2 ^ (m.log2 + (e + 1074).toNat) < 2 ^ (k + unitPlaces) := by
      rw [Nat.pow_add]
      exact Nat.lt_of_le_of_lt (Nat.mul_le_mul_right _ (Nat.log2_self_le hm.ne')) hn
    have hless := (Nat.pow_lt_pow_iff_right (by decide)).mp hpower
    show (m.log2 : Int) + 1 + e ≤ k
    unfold unitPlaces at hless
    omega

/-! ## Integers -/

/-- The integer part of a number of units. -/
theorem floor?_of_isUnits {x : Float} {n : Nat} (h : IsUnits x n) : floor? x = some ((n / unitsOfOne : Nat) : Int) := by
  obtain ⟨m, e, hx, rfl⟩ := h
  obtain ⟨-, -, he, -⟩ := toNat_toBits hx
  unfold floor?
  rw [hx, units, unitsOfOne]
  dsimp only
  rw [if_neg Bool.false_ne_true]
  split
  · next hnonneg =>
    have hpower : (e + 1074).toNat = e.toNat + unitPlaces := by unfold unitPlaces; omega
    rw [hpower, Nat.pow_add, ← Nat.mul_assoc, Nat.mul_div_cancel _ (Nat.two_pow_pos unitPlaces)]
    push_cast
    rfl
  · next hneg =>
    have hpower : unitPlaces = (-e).toNat + (e + 1074).toNat := by unfold unitPlaces; omega
    rw [hpower, Nat.pow_add, Nat.mul_div_mul_right _ _ (Nat.two_pow_pos _)]
    push_cast
    rfl

/-- The double of some bits without sign. -/
theorem parts_ofBits {bits : Nat} (h : bits < 2047 * leadingBit) :
    ∃ m e, parts (Float.ofBits (UInt64.ofNat bits)) = .finite false m e ∧ bitsOf m e = bits := by
  have hword : (UInt64.ofNat bits).toBitVec.toNat = bits :=
    UInt64.toNat_ofNat_of_lt (by unfold leadingBit at h; simp only [UInt64.size]; omega)
  have hdatum : datum (Float.ofBits (UInt64.ofNat bits)) =
      Float.Model.UnpackedFloat.unpack Float.Model.Format.binary64 (UInt64.ofNat bits).toBitVec :=
    unpack_pack_unpack _
  have hsign : (bits / wordLimit == 1) = false := by
    unfold leadingBit at h
    unfold wordLimit
    simp only [beq_eq_false_iff_ne]
    omega
  rw [parts_eq_partsOf, hdatum, unpack_eq_assembled, partsOf_assembled, toNat_unpackMantissa, toNat_unpackExponent,
    isNegative_unpackSign, hword, hsign]
  unfold leadingBit at *
  rw [if_neg (by omega)]
  unfold bitsOf leadingBit
  split
  · exact ⟨_, _, rfl, by omega⟩
  · exact ⟨_, _, rfl, by omega⟩

/-- The double nearest to a fraction, if there is one. -/
theorem isNearest_ofRatio? {num den n : Nat} (hden : 0 < den) (hn : num * unitsOfOne = n * den) {x : Float}
    (h : ofRatio? num den = some x) : IsNearest x n := by
  rw [ofRatio?_eq] at h
  split at h
  · next hzero =>
    obtain rfl := Option.some.inj h
    rw [hzero, Nat.zero_mul] at hn
    obtain rfl : n = 0 := (Nat.mul_eq_zero.mp hn.symm).resolve_right hden.ne'
    exact ⟨0, -1074, rfl, rfl⟩
  · next hnonzero =>
    split at h
    · next hfits =>
      obtain rfl := Option.some.inj h
      obtain ⟨m, e, hx, hbits⟩ := parts_ofBits hfits
      exact ⟨m, e, hx, hbits.trans (ratioBits_eq_unitBits (Nat.pos_of_ne_zero hnonzero) hden hn)⟩
    · cases h

/-- **The double nearest to an integer that is not below zero.** -/
theorem isNearest_ofInt? {n : Nat} {x : Float} (h : ofInt? n = some x) : IsNearest x (n * unitsOfOne) := by
  rw [ofInt?, Option.map_eq_some_iff] at h
  obtain ⟨y, hy, rfl⟩ := h
  have hsign : decide ((n : Int) < 0) = false := by simp
  rw [hsign]
  exact isNearest_ofRatio? Nat.one_pos (Nat.mul_one _).symm hy

end WorkflowLab.Binary
