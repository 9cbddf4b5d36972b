import WorkflowLab.Proofs.Number.Sums
import WorkflowLab.Verification.Score

/-!
# Scores of integers

Scores are computed with doubles, and a double may be infinite or no number at all. The penalties are cut off, so what
enters the score is finite whatever comes before; only integers that are too large for a double stand in the way.

- `Number.Below`: a number below a power of two; sums and integer parts of such numbers;
- `Number.IsUnits`: a number that is not below zero, in units of the least positive double;
- `Number.Within`: a number from zero to a natural number;
- `exists_hintPenalty`, `exists_timePenalty`: there is a penalty unless its quotient is too large for a double;
- `within_of_hintPenalty`, `within_of_timePenalty`: it is a number from 0 to 40;
- `struggleScore_eq_ok`: the score of penalties that exist;
- `div?_eq_none_iff`: which quotients of integers do not exist.
-/

namespace WorkflowLab

open Binary

namespace Number

/-- A number that is less than two to the power of `k` in size. -/
def Below (k : Nat) : Number → Prop
  | .int n => n.natAbs < 2 ^ k
  | .float x => Small k (datum x)

/-- A number that is below a power of two has a double that is below the next one. -/
theorem Below.toFloat? {k : Nat} {n : Number} (hk : k ≤ 970) (h : n.Below k) :
    ∃ x, n.toFloat? = some x ∧ Small (k + 1) (datum x) := by
  cases n with
  | int n => exact small_ofInt? hk h
  | float x => exact ⟨x, rfl, h.mono (by omega)⟩

/-- Numbers that are not too large have a sum. -/
theorem Below.add? {k : Nat} {a b : Number} (hk : k ≤ 968) (ha : a.Below k) (hb : b.Below k) :
    ∃ c, a.add? b = some c ∧ c.Below (k + 3) := by
  obtain ⟨x, hx, hsmallx⟩ := ha.toFloat? (by omega)
  obtain ⟨y, hy, hsmally⟩ := hb.toFloat? (by omega)
  have hsum : Small (k + 1 + 2) (datum (x + y)) := small_datum_add (by omega) (by omega) hsmallx hsmally
  have hfloat : (Number.float (x + y)).Below (k + 3) := hsum.mono (by omega)
  cases a with
  | float x' => exact ⟨.float (x + y), by simp [Number.add?, combine, hx, hy], hfloat⟩
  | int n =>
    cases b with
    | float y' => exact ⟨.float (x + y), by simp [Number.add?, combine, hx, hy], hfloat⟩
    | int m =>
      refine ⟨.int (n + m), rfl, ?_⟩
      have hn : n.natAbs < 2 ^ k := ha
      have hm : m.natAbs < 2 ^ k := hb
      show (n + m).natAbs < 2 ^ (k + 3)
      rw [Nat.pow_add]
      omega

/-- Numbers that are not too large have an integer part. -/
theorem Below.floor? {k : Nat} {n : Number} (h : n.Below k) : ∃ i, n.floor? = some i := by
  cases n with
  | int i => exact ⟨i, rfl⟩
  | float x => exact Option.isSome_iff_exists.mp (isSome_floor?_of_small h)

theorem Below.mono {k l : Nat} {n : Number} (h : n.Below k) (hkl : k ≤ l) : n.Below l := by
  cases n with
  | int i => exact Nat.lt_of_lt_of_le h (Nat.pow_le_pow_right (by decide) hkl)
  | float x => exact Small.mono h (by omega)

/-- **A number that is not below zero is a number of units.** -/
def IsUnits : Number → Nat → Prop
  | .int i, n => ∃ k : Nat, i = k ∧ n = k * unitsOfOne
  | .float x, n => Binary.IsUnits x n

/-- **A number from zero to a natural number.** -/
def Within (k : Nat) (a : Number) : Prop := ∃ n, a.IsUnits n ∧ n ≤ k * unitsOfOne

theorem within_zero (k : Nat) : (Number.float 0).Within k := ⟨0, ⟨0, -1074, rfl, rfl⟩, Nat.zero_le _⟩

/-- So small a number is below a power of two. -/
theorem Within.below {a : Number} {j k : Nat} (h : a.Within k) (hk : k < 2 ^ j) : a.Below j := by
  obtain ⟨n, hunits, hn⟩ := h
  have hroom : k * unitsOfOne < 2 ^ j * unitsOfOne := Nat.mul_lt_mul_of_pos_right hk unitsOfOne_pos
  cases a with
  | int i =>
    obtain ⟨m, hi, hm⟩ := hunits
    rw [hm] at hn
    have hrange : m ≤ k := Nat.le_of_mul_le_mul_right hn unitsOfOne_pos
    rw [hi]
    show (m : Int).natAbs < 2 ^ j
    omega
  | float x => exact Binary.IsUnits.small hunits (by omega)

/-- A quotient is a double. -/
theorem eq_float_of_div? {a b c : Number} (h : a.div? b = some c) : ∃ x, c = .float x := by
  cases a <;> cases b <;>
    simp only [div?, Option.map_eq_some_iff, Option.bind_eq_bind, Option.bind_eq_some_iff, pure, Option.some.injEq] at h
  · obtain ⟨_, _, rfl⟩ := h
    exact ⟨_, rfl⟩
  all_goals
    obtain ⟨_, _, _, _, rfl⟩ := h
    exact ⟨_, rfl⟩

/-- **Which quotients of integers do not exist**: those that are too large for a double. -/
theorem div?_eq_none_iff {a b : Int} (hb : b ≠ 0) :
    (Number.int a).div? (.int b) = none ↔ tooLarge * b.natAbs ≤ a.natAbs := by
  rw [div?, Option.map_eq_none_iff, ofRatio?_eq_none_iff (by omega)]

/-- All other quotients exist. -/
theorem isSome_div?_iff {a b : Int} (hb : b ≠ 0) :
    ((Number.int a).div? (.int b)).isSome = true ↔ a.natAbs < tooLarge * b.natAbs := by
  rw [← Nat.not_le, ← div?_eq_none_iff hb, ← Option.not_isSome_iff_eq_none, Classical.not_not]

/-- All quotients by a natural number that are not too large exist. -/
theorem isSome_div?_natCast {a : Int} {b : Nat} (hb : 0 < b) (h : a.natAbs < tooLarge * b) :
    ((Number.int a).div? (.int b)).isSome = true := by
  rw [isSome_div?_iff (by omega), Int.natAbs_natCast]
  exact h

/-- An integer that has a double can be divided by any number above zero. -/
theorem isSome_div?_of_lt {a : Int} (h : a.natAbs < tooLarge) (b : Number) :
    b.atMost 0 = true ∨ ((Number.int a).div? b).isSome = true := by
  cases b with
  | int b =>
    by_cases hb : b ≤ 0
    · left
      show ((some (compare b 0) == some .lt) || (some (compare b 0) == some .eq)) = true
      rcases Int.lt_or_eq_of_le hb with hlt | heq
      · rw [Int.compare_eq_lt.mpr hlt]
        rfl
      · rw [Int.compare_eq_eq.mpr heq]
        rfl
    · right
      rw [isSome_div?_iff (by omega)]
      exact Nat.lt_of_lt_of_le h (Nat.le_mul_of_pos_right _ (by omega))
  | float y =>
    right
    have hdouble : ofRatio? a.natAbs 1 ≠ none := by
      rw [Ne, ofRatio?_eq_none_iff (by decide), Nat.mul_one]
      omega
    obtain ⟨x, hx⟩ := Option.ne_none_iff_exists'.mp hdouble
    have hfloat : ofInt? a = some (signed (a < 0) x) := by rw [ofInt?, hx]; rfl
    simp [div?, hfloat, Number.toFloat?]

end Number

namespace Verification

open Number

/-! ## Penalties -/

/-- What is not below zero is at most 40 when it is cut off there. -/
theorem within_smaller {x : Float} (h : NotNegative (datum x)) :
    (doubles.smaller (doubles.ofInt 40) (.float x)).Within 40 := by
  unfold Arithmetic.smaller
  split
  · next hless => exact isUnits_of_less h hless
  · exact ⟨40 * unitsOfOne, ⟨40, rfl, rfl⟩, Nat.le_refl _⟩

/-- A double times an integer that is not too large. -/
theorem mul_ofInt (x : Float) {n : Int} {y : Float} (hy : ofInt? n = some y) :
    doubles.mul (.float x) (doubles.ofInt n) = .ok (.float (x * y)) := by
  show orOverflow ((Number.float x).mul? (.int n)) = _
  simp [mul?, combine, Number.toFloat?, hy, orOverflow]

/-- A quotient that exists is a double. -/
theorem doubles_div {a b : Number} (h : (a.div? b).isSome = true) : ∃ x, doubles.div a b = .ok (.float x) := by
  obtain ⟨c, hc⟩ := Option.isSome_iff_exists.mp h
  obtain ⟨x, rfl⟩ := eq_float_of_div? hc
  refine ⟨x, ?_⟩
  show orOverflow (a.div? b) = _
  rw [hc]
  rfl

/-- A quotient that does not exist is too large. -/
theorem doubles_div_eq_overflow {a b : Number} (h : a.div? b = none) : doubles.div a b = .error .overflow := by
  show orOverflow (a.div? b) = _
  rw [h]
  rfl

/-- What overflows without a quotient has it, or does not need it, if there is a result. -/
theorem quotient_of_ok {a b p : Number} {penalty : Except ScoreFault Number} (h : penalty = .ok p)
    (hoverflow : b.atMost 0 = false → a.div? b = none → penalty = .error .overflow) :
    b.atMost 0 = true ∨ (a.div? b).isSome = true := by
  by_contra hneither
  rw [not_or, Bool.not_eq_true, Bool.not_eq_true, Option.isSome_eq_false_iff, Option.isNone_iff_eq_none] at hneither
  rw [hoverflow hneither.1 hneither.2] at h
  cases h

/-- **There is a penalty for hints**, unless its quotient is too large for a double. -/
theorem exists_hintPenalty {hints maxHints : Number}
    (h : maxHints.atMost 0 = true ∨ (hints.div? maxHints).isSome = true) :
    ∃ penalty, hintPenalty doubles hints maxHints = .ok penalty ∧ penalty.Within 40 := by
  unfold hintPenalty
  by_cases hnone : doubles.atMost maxHints (doubles.ofInt 0) = true
  · rw [if_pos hnone]
    exact ⟨.float 0, rfl, within_zero 40⟩
  · rw [if_neg hnone]
    obtain ⟨x, hdiv⟩ := doubles_div (h.resolve_left hnone)
    obtain ⟨y, hy, -⟩ := small_ofInt? (by decide : 6 ≤ 970) (by decide : (40 : Int).natAbs < 2 ^ 6)
    rw [hdiv]
    refine ⟨doubles.smaller (doubles.ofInt 40) (doubles.larger doubles.zero (.float (x * y))), ?_, ?_⟩
    · show (do
        let product ← doubles.mul (.float x) (doubles.ofInt 40)
        return doubles.smaller (doubles.ofInt 40) (doubles.larger doubles.zero product)) = _
      rw [mul_ofInt x hy]
      rfl
    · have hzero : doubles.zero = .float 0 := rfl
      rw [Arithmetic.larger, hzero]
      split
      · next hless => exact within_smaller (notNegative_of_zero_less hless)
      · refine within_smaller ?_
        rw [datum_zero]
        rfl

/-- **There is a penalty for time**, unless its quotient is too large for a double. -/
theorem exists_timePenalty {seconds expected : Number}
    (h : expected.atMost 0 = true ∨ (seconds.div? expected).isSome = true) :
    ∃ penalty, timePenalty doubles seconds expected = .ok penalty ∧ penalty.Within 40 := by
  unfold timePenalty
  by_cases hnone : doubles.atMost expected (doubles.ofInt 0) = true
  · rw [if_pos hnone]
    exact ⟨.float 0, rfl, within_zero 40⟩
  · rw [if_neg hnone]
    obtain ⟨x, hdiv⟩ := doubles_div (h.resolve_left hnone)
    rw [hdiv]
    show ∃ penalty, (do
      if doubles.atMost (.float x) (doubles.ofInt 1) then return doubles.zero
      let more ← doubles.sub (.float x) (doubles.ofInt 1)
      let product ← doubles.mul more (doubles.ofInt 20)
      return doubles.smaller (doubles.ofInt 40) product) = .ok penalty ∧ penalty.Within 40
    by_cases hearly : doubles.atMost (.float x) (doubles.ofInt 1) = true
    · rw [if_pos hearly]
      exact ⟨.float 0, rfl, within_zero 40⟩
    · rw [if_neg hearly]
      have hone : ofInt? 1 = some 1 := rfl
      have htwenty : ofInt? 20 = some 20 := rfl
      have hdatum : datum 20 = .finite .positive (5 * 2 ^ 50) (-48) (by decide) := rfl
      have hsub : doubles.sub (.float x) (doubles.ofInt 1) = .ok (.float (x - 1)) := by
        show orOverflow ((Number.float x).sub? (.int 1)) = _
        simp [sub?, combine, Number.toFloat?, hone, orOverflow]
      have hlate : NotNegative (datum (x - 1)) := notNegative_sub_one (Bool.not_eq_true _ ▸ hearly)
      refine ⟨doubles.smaller (doubles.ofInt 40) (.float ((x - 1) * 20)), ?_, within_smaller ?_⟩
      · rw [hsub]
        show (do
          let product ← doubles.mul (.float (x - 1)) (doubles.ofInt 20)
          return doubles.smaller (doubles.ofInt 40) product) = _
        rw [mul_ofInt _ htwenty]
        rfl
      · rw [datum_mul, hdatum]
        exact notNegative_unpack_pack (notNegative_mul hlate _ _ _)

/-- Hints that are too many for a double leave no penalty. -/
theorem hintPenalty_eq_overflow {hints maxHints : Number} (hmax : maxHints.atMost 0 = false)
    (hnone : hints.div? maxHints = none) : hintPenalty doubles hints maxHints = .error .overflow := by
  have hdiv := doubles_div_eq_overflow hnone
  have hmax : doubles.atMost maxHints (doubles.ofInt 0) = false := hmax
  simp only [hintPenalty, hmax, hdiv, bind, Except.bind, Bool.false_eq_true, if_false]

/-- Nor do seconds. -/
theorem timePenalty_eq_overflow {seconds expected : Number} (hexpected : expected.atMost 0 = false)
    (hnone : seconds.div? expected = none) : timePenalty doubles seconds expected = .error .overflow := by
  have hdiv := doubles_div_eq_overflow hnone
  have hexpected : doubles.atMost expected (doubles.ofInt 0) = false := hexpected
  simp only [timePenalty, hexpected, hdiv, bind, Except.bind, Bool.false_eq_true, if_false]

/-- **The penalty for hints is one from 0 to 40.** -/
theorem within_of_hintPenalty {hints maxHints p : Number} (h : hintPenalty doubles hints maxHints = .ok p) :
    p.Within 40 := by
  obtain ⟨penalty, hpenalty, hrange⟩ := exists_hintPenalty (quotient_of_ok h hintPenalty_eq_overflow)
  rw [h] at hpenalty
  cases hpenalty
  exact hrange

/-- **The penalty for time is one from 0 to 40.** -/
theorem within_of_timePenalty {seconds expected p : Number} (h : timePenalty doubles seconds expected = .ok p) :
    p.Within 40 := by
  obtain ⟨penalty, hpenalty, hrange⟩ := exists_timePenalty (quotient_of_ok h timePenalty_eq_overflow)
  rw [h] at hpenalty
  cases hpenalty
  exact hrange

/-! ## Scores -/

/-- A score is brought into its range. -/
theorem clampScore_range (n : Int) : 0 ≤ clampScore n ∧ clampScore n ≤ 100 := by
  unfold clampScore
  omega

/-- A computation with a result has a result at each step. -/
theorem ok_of_bind {ε β γ : Type} {x : Except ε β} {f : β → Except ε γ} {c : γ} (h : x >>= f = .ok c) :
    ∃ b, x = .ok b ∧ f b = .ok c := by
  cases x with
  | error e => cases h
  | ok b => exact ⟨b, rfl, h⟩

/-- Whatever score there is lies in its range. -/
theorem struggleScore_range {α : Type} {A : Arithmetic α} {hints seconds failed maxHints expected : α} {score : Int}
    (h : struggleScore A hints seconds failed maxHints expected = .ok score) : 0 ≤ score ∧ score ≤ 100 := by
  obtain ⟨help, -, h⟩ := ok_of_bind h
  obtain ⟨time, -, h⟩ := ok_of_bind h
  obtain ⟨failure, -, h⟩ := ok_of_bind h
  obtain ⟨effort, -, h⟩ := ok_of_bind h
  obtain ⟨total, -, h⟩ := ok_of_bind h
  obtain ⟨rounded, -, h⟩ := ok_of_bind h
  cases h
  exact clampScore_range rounded

/-- The penalty for failures is their weight. -/
theorem failurePenalty_eq (failed : Nat) : failurePenalty doubles (.int failed) = .ok (.int (failed * 10 : Nat)) := by
  show Except.ok (doubles.larger (.int 0) (.int (failed * 10 : Nat))) = _
  cases failed with
  | zero => rfl
  | succ n =>
    have hless : doubles.less (.int 0) (.int ((n + 1) * 10 : Nat)) = true := by
      show (some (compare (0 : Int) ((n + 1) * 10 : Nat)) == some .lt) = true
      rw [Int.compare_eq_lt.mpr (by omega)]
      rfl
    rw [Arithmetic.larger, if_pos hless]

/-- A sum of numbers that are not too large. -/
theorem doubles_add {k : Nat} {a b : Number} (hk : k ≤ 968) (ha : a.Below k) (hb : b.Below k) :
    ∃ c, doubles.add a b = .ok c ∧ c.Below (k + 3) := by
  obtain ⟨c, hc, hbelow⟩ := ha.add? hk hb
  refine ⟨c, ?_, hbelow⟩
  show orOverflow (a.add? b) = _
  rw [hc]
  rfl

/-- **The score of penalties that exist**: failures are never too many for a double. -/
theorem struggleScore_eq_ok {hints seconds maxHints expected : Number} {failed : Nat}
    (hhelp : maxHints.atMost 0 = true ∨ (hints.div? maxHints).isSome = true)
    (htime : expected.atMost 0 = true ∨ (seconds.div? expected).isSome = true) (hfailed : failed < 2 ^ 64) :
    ∃ score, struggleScore doubles hints seconds (.int failed) maxHints expected = .ok score := by
  obtain ⟨help, hhelp, hrangeHelp⟩ := exists_hintPenalty hhelp
  obtain ⟨time, htime, hrangeTime⟩ := exists_timePenalty htime
  have hbelowFailure : (Number.int (failed * 10 : Nat)).Below 68 := by
    show ((failed * 10 : Nat) : Int).natAbs < 2 ^ 68
    omega
  have hbelowHelp : help.Below 6 := hrangeHelp.below (by decide)
  have hbelowTime : time.Below 6 := hrangeTime.below (by decide)
  obtain ⟨effort, heffort, hbelowEffort⟩ := doubles_add (by decide) hbelowHelp hbelowTime
  obtain ⟨total, htotal, hbelowTotal⟩ :=
    doubles_add (by decide) (hbelowEffort.mono (by decide : 9 ≤ 68)) hbelowFailure
  have hhalf : doubles.half.Below 71 := by
    have hdatum : datum 0.5 = .finite .positive (2 ^ 52) (-53) (by decide) := rfl
    show Small 71 (datum 0.5)
    rw [hdatum]
    show Float.Model.totalExponent (2 ^ 52) (-53) ≤ 71
    decide
  obtain ⟨raised, hraised, hbelowRaised⟩ := doubles_add (by decide) hbelowTotal hhalf
  obtain ⟨rounded, hrounded⟩ := hbelowRaised.floor?
  have hfloor : doubles.floor raised = .ok rounded := by
    show floorNumber raised = _
    rw [floorNumber, hrounded]
  refine ⟨clampScore rounded, ?_⟩
  simp only [struggleScore, roundHalfUp, hhelp, htime, failurePenalty_eq, heffort, htotal, hraised, hfloor, bind,
    Except.bind, pure, Except.pure]

/-- Hints that are too many for a double leave no score. -/
theorem struggleScore_eq_overflow {hints seconds failed maxHints expected : Number} (hmax : maxHints.atMost 0 = false)
    (hnone : hints.div? maxHints = none) :
    struggleScore doubles hints seconds failed maxHints expected = .error .overflow := by
  have hhelp := hintPenalty_eq_overflow hmax hnone
  simp only [struggleScore, hhelp, bind, Except.bind]

end Verification

end WorkflowLab
