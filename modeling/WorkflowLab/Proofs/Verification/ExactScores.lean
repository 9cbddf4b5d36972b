import Mathlib.Algebra.Order.Floor.Ring
import Mathlib.Data.Rat.Floor
import Mathlib.Tactic.Linarith
import WorkflowLab.Proofs.Verification.Order
import WorkflowLab.Verification.Credential

/-!
# The order of exact scores

With exact rationals every computation of a score has a result, and each of its steps keeps the order of attempts.

- `hintPoints`, `timePoints`, `failurePoints`: the penalties in closed form; `struggleScore_exact`: the score;
- `share_le`: a larger share of a smaller allowance;
- `hintPoints_mono`, `timePoints_mono`, `failurePoints_mono`: the penalties keep the order;
- `Tier.place`: the tiers from the best to the lowest; `Tier.place_ofScore_mono`: scores keep their order;
- `struggleScore_orders`: an attempt that is worse in no respect has neither a higher score nor a lower tier.
-/

namespace WorkflowLab.Verification

/-! ## Scores in closed form -/

theorem exact_ofInt (n : Int) : exact.ofInt n = (n : ℚ) := rfl

theorem exact_atMost (a b : ℚ) : exact.atMost a b = decide (a ≤ b) := rfl

theorem exact_smaller (a b : ℚ) : exact.smaller a b = min a b := by
  show (if decide (b < a) = true then b else a) = min a b
  rw [min_def]
  by_cases h : a ≤ b
  · rw [if_pos h, if_neg (by simpa using h)]
  · rw [if_neg h, if_pos (by simpa using h)]

theorem exact_larger (a b : ℚ) : exact.larger a b = max a b := by
  show (if decide (a < b) = true then b else a) = max a b
  rw [max_def_lt]
  simp only [decide_eq_true_eq]

/-- The penalty for hints as a rational. -/
def hintPoints (hints maxHints : ℚ) : ℚ := if maxHints ≤ 0 then 0 else min 40 (max 0 (hints / maxHints * 40))

/-- The penalty for time as a rational; a share that is not above one makes it no smaller than none. -/
def timePoints (seconds expected : ℚ) : ℚ := if expected ≤ 0 then 0 else min 40 (max 0 ((seconds / expected - 1) * 20))

/-- The penalty for failed requirements as a rational. -/
def failurePoints (failed : ℚ) : ℚ := max 0 (failed * 10)

theorem hintPenalty_exact (hints maxHints : ℚ) : hintPenalty exact hints maxHints = .ok (hintPoints hints maxHints) := by
  unfold hintPenalty hintPoints
  rw [exact_ofInt, exact_atMost, Int.cast_zero]
  by_cases h : maxHints ≤ 0
  · rw [decide_eq_true h, if_pos rfl, if_pos h]
    rfl
  · rw [decide_eq_false h, if_neg Bool.false_ne_true, if_neg h]
    show Except.ok (exact.smaller (exact.ofInt 40) (exact.larger 0 (hints / maxHints * exact.ofInt 40))) = _
    rw [exact_smaller, exact_larger, exact_ofInt, Int.cast_ofNat]

theorem timePenalty_exact (seconds expected : ℚ) :
    timePenalty exact seconds expected = .ok (timePoints seconds expected) := by
  unfold timePenalty timePoints
  rw [exact_ofInt, exact_atMost, Int.cast_zero]
  by_cases h : expected ≤ 0
  · rw [decide_eq_true h, if_pos rfl, if_pos h]
    rfl
  · rw [decide_eq_false h, if_neg Bool.false_ne_true, if_neg h]
    show (if exact.atMost (seconds / expected) (exact.ofInt 1) = true then Except.ok 0
      else .ok (exact.smaller (exact.ofInt 40) ((seconds / expected - exact.ofInt 1) * exact.ofInt 20))) = _
    rw [exact_smaller, exact_atMost, exact_ofInt, exact_ofInt, exact_ofInt, Int.cast_one, Int.cast_ofNat,
      Int.cast_ofNat]
    by_cases hratio : seconds / expected ≤ 1
    · have hnone : (seconds / expected - 1) * 20 ≤ 0 := by linarith
      rw [decide_eq_true hratio, if_pos rfl, max_eq_left hnone, min_eq_right (by norm_num)]
    · have hsome : 0 ≤ (seconds / expected - 1) * 20 := by linarith
      rw [decide_eq_false hratio, if_neg Bool.false_ne_true, max_eq_right hsome]

theorem failurePenalty_exact (failed : ℚ) : failurePenalty exact failed = .ok (failurePoints failed) := by
  show Except.ok (exact.larger (exact.ofInt 0) (failed * exact.ofInt 10)) = _
  rw [exact_larger, exact_ofInt, exact_ofInt, Int.cast_zero, Int.cast_ofNat, failurePoints]

/-- **An exact score in closed form.** -/
theorem struggleScore_exact (hints seconds failed maxHints expected : ℚ) :
    struggleScore exact hints seconds failed maxHints expected =
      .ok (clampScore ⌊hintPoints hints maxHints + timePoints seconds expected + failurePoints failed + 1 / 2⌋) := by
  unfold struggleScore
  rw [hintPenalty_exact, timePenalty_exact, failurePenalty_exact]
  rfl

/-! ## Penalties -/

/-- **A larger share of a smaller allowance is larger**, shares below zero counting as none. -/
theorem share_le {a b m m' : ℚ} (hm' : 0 < m') (hm : m' ≤ m) (h : a ≤ b) : a / m ≤ max 0 (b / m') := by
  rcases le_total 0 b with hb | hb
  · refine le_max_of_le_right ?_
    calc a / m ≤ b / m := div_le_div_of_nonneg_right h (hm'.trans_le hm).le
      _ ≤ b / m' := div_le_div_of_nonneg_left hb hm' hm
  · exact le_max_of_le_left (div_nonpos_of_nonpos_of_nonneg (h.trans hb) (hm'.trans_le hm).le)

/-- A penalty between zero and 40 is no larger than that of a number which is no smaller, or than none. -/
theorem capped_le {x y : ℚ} (h : x ≤ max 0 y) : min 40 (max 0 x) ≤ min 40 (max 0 y) :=
  min_le_min_left 40 (max_le (le_max_left 0 y) h)

/-- More hints, and fewer that may be used, make no smaller penalty. -/
theorem hintPoints_mono {hints hints' maxHints maxHints' : ℚ} (hhints : hints ≤ hints') (hmax : maxHints' ≤ maxHints)
    (hpos : 0 < maxHints') : hintPoints hints maxHints ≤ hintPoints hints' maxHints' := by
  rw [hintPoints, hintPoints, if_neg (hpos.trans_le hmax).not_ge, if_neg hpos.not_ge]
  refine capped_le ?_
  rcases le_max_iff.mp (share_le hpos hmax hhints) with hnone | hshare
  · exact le_max_of_le_left (by linarith)
  · exact le_max_of_le_right (by linarith)

/-- More time, and less that is expected, make no smaller penalty. -/
theorem timePoints_mono {seconds seconds' expected expected' : ℚ} (hseconds : seconds ≤ seconds')
    (hexpected : expected' ≤ expected) (hpos : 0 < expected') :
    timePoints seconds expected ≤ timePoints seconds' expected' := by
  rw [timePoints, timePoints, if_neg (hpos.trans_le hexpected).not_ge, if_neg hpos.not_ge]
  refine capped_le ?_
  rcases le_max_iff.mp (share_le hpos hexpected hseconds) with hnone | hshare
  · exact le_max_of_le_left (by linarith)
  · exact le_max_of_le_right (by linarith)

/-- More failures make no smaller penalty. -/
theorem failurePoints_mono {failed failed' : ℚ} (h : failed ≤ failed') : failurePoints failed ≤ failurePoints failed' :=
  max_le_max_left 0 (by linarith)

/-! ## Tiers -/

/-- The place of a tier, the best one first. -/
def Tier.place : Tier → Nat
  | .elite => 0
  | .advanced => 1
  | .proficient => 2
  | .competent => 3
  | .foundational => 4

/-- Comparison of integers. -/
theorem atMost_int (m n : Int) : Number.atMost (.int m) (.int n) = decide (m ≤ n) := by
  show ((some (compare m n) == some .lt) || (some (compare m n) == some .eq)) = _
  rcases Int.lt_trichotomy m n with hlt | rfl | hgt
  · rw [Int.compare_eq_lt.mpr hlt, decide_eq_true (Int.le_of_lt hlt)]
    rfl
  · rw [Int.compare_eq_eq.mpr rfl, decide_eq_true (Int.le_refl m)]
    rfl
  · rw [Int.compare_eq_gt.mpr hgt, decide_eq_false (Int.not_le.mpr hgt)]
    rfl

/-- The place of the tier of a score, by the ceilings. -/
theorem Tier.place_ofScore (score : Int) : (Tier.ofScore (.int score)).place =
    if score ≤ 20 then 0 else if score ≤ 40 then 1 else if score ≤ 60 then 2 else if score ≤ 80 then 3 else 4 := by
  unfold Tier.ofScore Tier.ceilings
  simp only [atMost_int, List.find?_cons, List.find?_nil]
  by_cases h20 : score ≤ 20
  · simp [h20, place]
  by_cases h40 : score ≤ 40
  · simp [h20, h40, place]
  by_cases h60 : score ≤ 60
  · simp [h20, h40, h60, place]
  by_cases h80 : score ≤ 80 <;> simp [h20, h40, h60, h80, place]

/-- **A higher score has no better tier.** -/
theorem Tier.place_ofScore_mono {score score' : Int} (h : score ≤ score') :
    (Tier.ofScore (.int score)).place ≤ (Tier.ofScore (.int score')).place := by
  rw [place_ofScore, place_ofScore]
  split_ifs <;> omega

/-! ## Attempts -/

/-- **Exact scores order attempts.** With allowances above zero, every attempt has a score from 0 to 100, the sum of its
penalties with a half rounded up; and if an attempt takes no fewer hints, no less time and no fewer failures than another
one, with no larger allowance of hints or time, then its score is no lower and its tier no better. -/
theorem struggleScore_orders {hints hints' failed failed' : Int} {seconds seconds' maxHints maxHints' expected expected' : ℚ}
    (hhints : hints ≤ hints') (hseconds : seconds ≤ seconds') (hfailed : failed ≤ failed')
    (hmax : maxHints' ≤ maxHints) (hmaxPos : 0 < maxHints') (hexpected : expected' ≤ expected)
    (hexpectedPos : 0 < expected') :
    ∃ score score', struggleScore exact (hints : ℚ) seconds (failed : ℚ) maxHints expected = .ok score ∧
      struggleScore exact (hints' : ℚ) seconds' (failed' : ℚ) maxHints' expected' = .ok score' ∧
      score = clampScore ⌊hintPoints hints maxHints + timePoints seconds expected + failurePoints failed + 1 / 2⌋ ∧
      0 ≤ score ∧ score ≤ score' ∧ score' ≤ 100 ∧
      (Tier.ofScore (.int score)).place ≤ (Tier.ofScore (.int score')).place := by
  have hhelp := hintPoints_mono (Int.cast_le.mpr hhints : (hints : ℚ) ≤ hints') hmax hmaxPos
  have htime := timePoints_mono hseconds hexpected hexpectedPos
  have hfailure := failurePoints_mono (Int.cast_le.mpr hfailed : (failed : ℚ) ≤ failed')
  have hscore := clampScore_mono (Int.floor_mono (add_le_add_left (add_le_add (add_le_add hhelp htime) hfailure) (1 / 2)))
  exact ⟨_, _, struggleScore_exact .., struggleScore_exact .., rfl, (clampScore_range _).1, hscore,
    (clampScore_range _).2, Tier.place_ofScore_mono hscore⟩

/-- Half a point is rounded up, and more of everything with less allowed costs two tiers. -/
theorem struggleScore_orders_half :
    struggleScore exact ((1 : Int) : ℚ) 60 ((0 : Int) : ℚ) 16 120 = .ok 3 ∧
      struggleScore exact ((2 : Int) : ℚ) 150 ((1 : Int) : ℚ) 3 100 = .ok 47 ∧
      (Tier.ofScore (.int 3)).place ≤ (Tier.ofScore (.int 47)).place ∧
      Tier.ofScore (.int 3) = .elite ∧ Tier.ofScore (.int 47) = .proficient := by
  have hfirst : struggleScore exact ((1 : Int) : ℚ) 60 ((0 : Int) : ℚ) 16 120 = .ok 3 := by decide +kernel
  have hsecond : struggleScore exact ((2 : Int) : ℚ) 150 ((1 : Int) : ℚ) 3 100 = .ok 47 := by decide +kernel
  obtain ⟨score, score', h, h', -, -, -, -, hplace⟩ :=
    struggleScore_orders (show (1 : Int) ≤ 2 by decide) (show (60 : ℚ) ≤ 150 by norm_num) (show (0 : Int) ≤ 1 by decide)
      (show (3 : ℚ) ≤ 16 by norm_num) (by norm_num) (show (100 : ℚ) ≤ 120 by norm_num) (by norm_num)
  rw [hfirst] at h
  rw [hsecond] at h'
  cases h
  cases h'
  exact ⟨hfirst, hsecond, hplace, by decide +kernel, by decide +kernel⟩

end WorkflowLab.Verification
