import WorkflowLab.Proofs.Verification.Scores

/-!
# The order of scores

Every step of a score is rounded to a double, and rounding keeps the order: more failures never make a score smaller,
and penalties of at most 40 never add up to more than 80.

- `Number.Within.add`: sums of numbers from zero to natural numbers that doubles can hold;
- `roundHalfUp_mono`: the nearest integers of numbers keep their order;
- `exists_sums`: so do the sums with natural numbers on top, when they can be rounded;
- `struggleScore_mono`: scores are monotone in the failures;
- `struggleScore_le`: without failures no score is above 80.
-/

namespace WorkflowLab

open Binary

namespace Number

/-! ## Sums -/

/-- The double of a number of units is the nearest one. -/
theorem IsUnits.toFloat? {a : Number} {n : Nat} (ha : a.IsUnits n) {x : Float} (hx : a.toFloat? = some x) :
    IsNearest x n := by
  cases a with
  | int i =>
    obtain ⟨k, hi, hn⟩ := ha
    rw [hi] at hx
    rw [hn]
    exact isNearest_ofInt? hx
  | float y =>
    obtain rfl : y = x := Option.some.inj hx
    exact Binary.IsUnits.isNearest ha

/-- A sum is one of integers, or one of doubles. -/
theorem add?_cases {a b c : Number} (h : a.add? b = some c) :
    (∃ i j, a = .int i ∧ b = .int j ∧ c = .int (i + j)) ∨
      ∃ x y, a.toFloat? = some x ∧ b.toFloat? = some y ∧ c = .float (x + y) := by
  have hfloats (h : (do return Number.float ((← a.toFloat?) + (← b.toFloat?))) = some c) :
      ∃ x y, a.toFloat? = some x ∧ b.toFloat? = some y ∧ c = .float (x + y) := by
    simp only [Option.bind_eq_bind, Option.bind_eq_some_iff, pure, Option.some.injEq] at h
    obtain ⟨x, hx, y, hy, rfl⟩ := h
    exact ⟨x, y, hx, hy, rfl⟩
  match a, b, h, hfloats with
  | .int i, .int j, h, _ => exact .inl ⟨i, j, rfl, rfl, (Option.some.inj h).symm⟩
  | .int _, .float _, h, hfloats => exact .inr (hfloats h)
  | .float _, .int _, h, hfloats => exact .inr (hfloats h)
  | .float _, .float _, h, hfloats => exact .inr (hfloats h)

/-- A double holds a natural number. -/
def Held (k : Nat) : Prop := ∃ x, Binary.IsUnits x (k * unitsOfOne)

/-- The units of a mantissa with places after the point. -/
theorem units_places (k places : Nat) (h : places ≤ unitPlaces) :
    units (k * 2 ^ places) (-places) = k * unitsOfOne := by
  have hpower : places + (-(places : Int) + 1074).toNat = unitPlaces := by
    unfold unitPlaces at *
    omega
  rw [units, Nat.mul_assoc, ← Nat.pow_add, hpower, unitsOfOne]

theorem held_zero : Held 0 := ⟨0, 0, -1074, rfl, by rw [Nat.zero_mul, units, Nat.zero_mul]⟩

theorem held_forty : Held 40 := ⟨40, 40 * 2 ^ 47, -47, rfl, (units_places 40 47 (by decide)).symm⟩

theorem held_eighty : Held 80 := ⟨80, 80 * 2 ^ 46, -46, rfl, (units_places 80 46 (by decide)).symm⟩

/-- The double of a number keeps its range. -/
theorem Within.toFloat? {a : Number} {k : Nat} (ha : a.Within k) (hk : Held k) {x : Float} (hx : a.toFloat? = some x) :
    ∃ u, Binary.IsUnits x u ∧ u ≤ k * unitsOfOne := by
  obtain ⟨n, hunits, hn⟩ := ha
  obtain ⟨bound, hbound⟩ := hk
  obtain ⟨u, hu⟩ := (hunits.toFloat? hx).isUnits
  exact ⟨u, hu, (hunits.toFloat? hx).mono hbound.isNearest hn hu hbound⟩

/-- **A sum keeps the sum of the ranges**, when doubles hold their ends. -/
theorem Within.add {a b c : Number} {j k l : Nat} (ha : a.Within j) (hb : b.Within k) (hl : j + k = l) (hj : Held j)
    (hk : Held k) (hheld : Held l) (h : a.add? b = some c) : c.Within l := by
  rw [← hl] at hheld ⊢
  rcases add?_cases h with ⟨i, i', rfl, rfl, rfl⟩ | ⟨x, y, hx, hy, rfl⟩
  · obtain ⟨u, ⟨m, hi, hu⟩, hm⟩ := ha
    obtain ⟨v, ⟨n, hi', hv⟩, hn⟩ := hb
    refine ⟨u + v, ⟨m + n, by omega, ?_⟩, ?_⟩
    · rw [hu, hv, Nat.add_mul]
    · rw [Nat.add_mul]
      exact Nat.add_le_add hm hn
  · obtain ⟨u, hu, hlex⟩ := ha.toFloat? hj hx
    obtain ⟨v, hv, hley⟩ := hb.toFloat? hk hy
    obtain ⟨bound, hbound⟩ := hheld
    have hsum : u + v ≤ (j + k) * unitsOfOne := by
      rw [Nat.add_mul]
      exact Nat.add_le_add hlex hley
    have hnearest : IsNearest (x + y) (u + v) := (add_isSum hu hv).isNearest_of_le hbound hsum
    obtain ⟨s, hs⟩ := hnearest.isUnits
    exact ⟨s, hs, hnearest.mono hbound.isNearest hsum hs hbound⟩

end Number

namespace Verification

open Number

/-- A sum in doubles. -/
theorem add?_of_doubles {a b c : Number} (h : doubles.add a b = .ok c) : a.add? b = some c := by
  have h : orOverflow (a.add? b) = .ok c := h
  cases hsum : a.add? b with
  | none =>
    rw [hsum] at h
    cases h
  | some d =>
    rw [hsum] at h
    cases h
    rfl

/-! ## The nearest integer -/

/-- A half is a number of units. -/
theorem isUnits_half : Binary.IsUnits 0.5 (units (2 ^ 52) (-53)) := ⟨2 ^ 52, -53, rfl, rfl⟩

/-- The nearest integer is the integer part of a double that is half above. -/
theorem floor?_of_roundHalfUp {a : Number} {i : Int} (h : roundHalfUp doubles a = .ok i) :
    ∃ x, a.toFloat? = some x ∧ Binary.floor? (x + 0.5) = some i := by
  obtain ⟨raised, hraised, hfloor⟩ := ok_of_bind h
  rcases add?_cases (add?_of_doubles hraised) with ⟨_, _, _, hhalf, _⟩ | ⟨x, y, hx, hy, rfl⟩
  · cases hhalf
  · cases hy
    refine ⟨x, hx, ?_⟩
    have hfloor : floorNumber (.float (x + 0.5)) = .ok i := hfloor
    unfold floorNumber at hfloor
    cases hn : (Number.float (x + 0.5)).floor? with
    | none =>
      rw [hn] at hfloor
      cases hfloor
    | some n =>
      rw [hn] at hfloor
      cases hfloor
      exact hn

/-- **Nearest integers keep the order of numbers.** -/
theorem roundHalfUp_mono {a b : Number} {m n : Nat} (ha : a.IsUnits m) (hb : b.IsUnits n) (h : m ≤ n) {i j : Int}
    (hi : roundHalfUp doubles a = .ok i) (hj : roundHalfUp doubles b = .ok j) : i ≤ j := by
  obtain ⟨x, hx, hfloorx⟩ := floor?_of_roundHalfUp hi
  obtain ⟨y, hy, hfloory⟩ := floor?_of_roundHalfUp hj
  have hnearx := ha.toFloat? hx
  have hneary := hb.toFloat? hy
  obtain ⟨u, hu⟩ := hnearx.isUnits
  obtain ⟨v, hv⟩ := hneary.isUnits
  have huv : u ≤ v := hnearx.mono hneary h hu hv
  -- half above, both are rounded once more
  have hsumx := (add_isSum hu isUnits_half).isNearest hfloorx
  have hsumy := (add_isSum hv isUnits_half).isNearest hfloory
  obtain ⟨s, hs⟩ := hsumx.isUnits
  obtain ⟨t, ht⟩ := hsumy.isUnits
  have hst : s ≤ t := hsumx.mono hsumy (Nat.add_le_add_right huv _) hs ht
  rw [floor?_of_isUnits hs, Option.some.injEq] at hfloorx
  rw [floor?_of_isUnits ht, Option.some.injEq] at hfloory
  rw [← hfloorx, ← hfloory]
  exact_mod_cast Nat.div_le_div_right hst

/-- An infinite double has no nearest integer. -/
theorem isNearest_of_round {x : Float} {n : Nat} (h : IsSum x n) {i : Int}
    (hi : roundHalfUp doubles (.float x) = .ok i) : IsNearest x n := by
  obtain ⟨y, hy, hfloor⟩ := floor?_of_roundHalfUp hi
  cases hy
  rcases h with hnearest | ⟨hinfinite, -⟩
  · exact hnearest
  · rw [floor?_add_of_infinite hinfinite isUnits_half] at hfloor
    cases hfloor

/-- **Sums with natural numbers on top keep their order**, if they can be rounded. -/
theorem exists_sums {effort total total' : Number} {e k k' : Nat} (he : effort.IsUnits e) (hk : k ≤ k')
    (htotal : effort.add? (.int k) = some total) (htotal' : effort.add? (.int k') = some total') {i j : Int}
    (hi : roundHalfUp doubles total = .ok i) (hj : roundHalfUp doubles total' = .ok j) :
    ∃ s t, total.IsUnits s ∧ total'.IsUnits t ∧ s ≤ t := by
  cases effort with
  | int n =>
    obtain ⟨m, rfl, -⟩ := he
    cases htotal
    cases htotal'
    exact ⟨(m + k) * unitsOfOne, (m + k') * unitsOfOne, ⟨m + k, rfl, rfl⟩, ⟨m + k', rfl, rfl⟩,
      Nat.mul_le_mul_right _ (Nat.add_le_add_left hk m)⟩
  | float x =>
    rcases add?_cases htotal with ⟨_, _, hint, _⟩ | ⟨_, y, hx, hy, rfl⟩
    · cases hint
    rcases add?_cases htotal' with ⟨_, _, hint, _⟩ | ⟨_, y', hx', hy', rfl⟩
    · cases hint
    cases hx
    cases hx'
    have hneary : IsNearest y (k * unitsOfOne) := isNearest_ofInt? hy
    have hneary' : IsNearest y' (k' * unitsOfOne) := isNearest_ofInt? hy'
    obtain ⟨v, hv⟩ := hneary.isUnits
    obtain ⟨v', hv'⟩ := hneary'.isUnits
    have hle : v ≤ v' := hneary.mono hneary' (Nat.mul_le_mul_right _ hk) hv hv'
    have hsum := isNearest_of_round (add_isSum he hv) hi
    have hsum' := isNearest_of_round (add_isSum he hv') hj
    obtain ⟨s, hs⟩ := hsum.isUnits
    obtain ⟨t, ht⟩ := hsum'.isUnits
    exact ⟨s, t, hs, ht, hsum.mono hsum' (Nat.add_le_add_left hle e) hs ht⟩

/-! ## Scores -/

/-- **How a score comes about**: penalties of at most 80 together, failures on top, the nearest integer, and the range
of scores. -/
theorem struggleScore_cases {hints seconds maxHints expected : Number} {failed : Nat} {score : Int}
    (h : struggleScore doubles hints seconds (.int failed) maxHints expected = .ok score) :
    ∃ help time effort total rounded, hintPenalty doubles hints maxHints = .ok help ∧
      timePenalty doubles seconds expected = .ok time ∧ help.add? time = some effort ∧ effort.Within 80 ∧
      effort.add? (.int (failed * 10 : Nat)) = some total ∧ roundHalfUp doubles total = .ok rounded ∧
      score = clampScore rounded := by
  obtain ⟨help, hhelp, h⟩ := ok_of_bind h
  obtain ⟨time, htime, h⟩ := ok_of_bind h
  obtain ⟨failure, hfailure, h⟩ := ok_of_bind h
  obtain ⟨effort, heffort, h⟩ := ok_of_bind h
  obtain ⟨total, htotal, h⟩ := ok_of_bind h
  obtain ⟨rounded, hrounded, h⟩ := ok_of_bind h
  cases h
  rw [failurePenalty_eq] at hfailure
  cases hfailure
  have heffort := add?_of_doubles heffort
  have hrange :=
    (within_of_hintPenalty hhelp).add (within_of_timePenalty htime) rfl held_forty held_forty held_eighty heffort
  exact ⟨help, time, effort, total, rounded, hhelp, htime, heffort, hrange, add?_of_doubles htotal, hrounded, rfl⟩

/-- Bringing integers into the range of scores keeps their order. -/
theorem clampScore_mono {m n : Int} (h : m ≤ n) : clampScore m ≤ clampScore n := by
  unfold clampScore
  omega

/-- **More failures make no smaller score.** -/
theorem struggleScore_mono {hints seconds maxHints expected : Number} {failed failed' : Nat} (hle : failed ≤ failed')
    {score score' : Int} (h : struggleScore doubles hints seconds (.int failed) maxHints expected = .ok score)
    (h' : struggleScore doubles hints seconds (.int failed') maxHints expected = .ok score') : score ≤ score' := by
  obtain ⟨help, time, effort, total, rounded, hhelp, htime, heffort, ⟨e, he, -⟩, htotal, hrounded, rfl⟩ :=
    struggleScore_cases h
  obtain ⟨help', time', effort', total', rounded', hhelp', htime', heffort', -, htotal', hrounded', rfl⟩ :=
    struggleScore_cases h'
  -- hints and time are the same, so only the failures differ
  rw [hhelp] at hhelp'
  cases hhelp'
  rw [htime] at htime'
  cases htime'
  rw [heffort] at heffort'
  cases heffort'
  obtain ⟨s, t, hs, ht, hst⟩ := exists_sums he (Nat.mul_le_mul_right 10 hle) htotal htotal' hrounded hrounded'
  exact clampScore_mono (roundHalfUp_mono hs ht hst hrounded hrounded')

/-- **Without failures no score is above 80.** -/
theorem struggleScore_le {hints seconds maxHints expected : Number} {score : Int}
    (h : struggleScore doubles hints seconds (.int 0) maxHints expected = .ok score) : score ≤ 80 := by
  have h : struggleScore doubles hints seconds (.int (0 : Nat)) maxHints expected = .ok score := h
  obtain ⟨help, time, effort, total, rounded, -, -, -, hrange, htotal, hrounded, rfl⟩ := struggleScore_cases h
  have hnone : (Number.int (0 * 10 : Nat)).Within 0 := ⟨0, ⟨0, rfl, (Nat.zero_mul _).symm⟩, Nat.zero_le _⟩
  obtain ⟨n, hn, hle⟩ : total.Within 80 := hrange.add hnone rfl held_eighty held_zero held_eighty htotal
  have heighty : (Number.int 80).IsUnits (80 * unitsOfOne) := ⟨80, rfl, rfl⟩
  have hround : roundHalfUp doubles (.int 80) = .ok 80 := rfl
  have hbelow : rounded ≤ 80 := roundHalfUp_mono hn heighty hle hrounded hround
  unfold clampScore
  omega

end Verification

end WorkflowLab
