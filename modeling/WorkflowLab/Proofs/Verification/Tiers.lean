import WorkflowLab.Proofs.Verification.ExactScores
import WorkflowLab.Proofs.Verification.Strictness
import WorkflowLab.Verification.Outcome

/-!
# A pass earns a tier above the lowest

Who passes has no failures, and hints and time cost 40 points each at most. So a pass leaves a score of 80 or less, which
is the ceiling of the last tier but one, whether scores are computed with doubles or with exact rationals.

- `Tier.ofScore_eq_foundational_iff`: the scores of the lowest tier;
- `struggleScore_exact_le`: the bound for exact rationals, beside `struggleScore_le` for doubles;
- `VerificationResult.Earns`: what the bound means for certificates and for profiles;
- `verify_earns`: every result has it.
-/

namespace WorkflowLab.Verification

open Run Time

/-! ## Tiers -/

/-- **The lowest tier is that of the scores above 80.** -/
theorem Tier.ofScore_eq_foundational_iff {score : Int} : Tier.ofScore (.int score) = .foundational ↔ 80 < score := by
  have hplace (tier : Tier) : tier = .foundational ↔ tier.place = 4 := by cases tier <;> decide
  rw [hplace, place_ofScore]
  split_ifs <;> simp <;> omega

/-! ## Exact scores -/

/-- The penalty for hints is at most 40. -/
theorem hintPoints_le (hints maxHints : ℚ) : hintPoints hints maxHints ≤ 40 := by
  unfold hintPoints
  split_ifs
  · norm_num
  · exact min_le_left 40 _

/-- The penalty for time is at most 40. -/
theorem timePoints_le (seconds expected : ℚ) : timePoints seconds expected ≤ 40 := by
  unfold timePoints
  split_ifs
  · norm_num
  · exact min_le_left 40 _

/-- **Without failures no exact score is above 80.** -/
theorem struggleScore_exact_le {hints seconds maxHints expected : ℚ} {score : Int}
    (h : struggleScore exact hints seconds (exact.ofInt 0) maxHints expected = .ok score) : score ≤ 80 := by
  rw [struggleScore_exact, exact_ofInt, Int.cast_zero] at h
  obtain rfl := Except.ok.inj h
  have hnone : failurePoints 0 = 0 := by rw [failurePoints, zero_mul, max_self]
  have hhelp := hintPoints_le hints maxHints
  have htime := timePoints_le seconds expected
  have hfloor : ⌊hintPoints hints maxHints + timePoints seconds expected + failurePoints 0 + 1 / 2⌋ < 81 := by
    rw [Int.floor_lt, hnone]
    norm_num
    linarith
  unfold clampScore
  omega

/-! ## Results -/

/-- What a result is good for: a pass leaves a score of 80 or less and earns a tier above the lowest; with a score above
80 the attempt has failed, and neither its profile nor anything else learns of it. -/
structure VerificationResult.Earns (r : VerificationResult) : Prop where
  tier : r.passed = true → r.struggleScore ≤ 80 ∧ Tier.ofScore (.int r.struggleScore) ≠ .foundational
  silence : 80 < r.struggleScore →
    r.passed = false ∧ ∀ category world, applyOutcome r category world = ((.notPassed, []), world)

/-- What has failed is not recorded. -/
theorem applyOutcome_of_failed {r : VerificationResult} (h : r.passed = false) (category : String) (world : World) :
    applyOutcome r category world = ((.notPassed, []), world) := by
  have houtcome : Outcome.ofResult r = .notPassed := by
    rw [Outcome.ofResult, h]
    rfl
  unfold applyOutcome
  rw [houtcome]
  rfl

/-- A bound for passes is all it takes. -/
theorem VerificationResult.earns_of_le {r : VerificationResult} (h : r.passed = true → r.struggleScore ≤ 80) :
    r.Earns where
  tier hpassed := by
    refine ⟨h hpassed, ?_⟩
    rw [Ne, Tier.ofScore_eq_foundational_iff, Int.not_lt]
    exact h hpassed
  silence habove := by
    have hfailed : r.passed = false := by
      rw [← Bool.not_eq_true]
      intro hpassed
      exact absurd (h hpassed) (by omega)
    exact ⟨hfailed, applyOutcome_of_failed hfailed⟩

/-- A judgement that has passed has the score of no failures, in any arithmetic. -/
theorem score_of_passed {α : Type} {A : Arithmetic α} {w : Workspace} {criteria : Criteria}
    {hints seconds maxHints expected : α} {j : Judgement}
    (h : judgeWith A w criteria hints seconds maxHints expected = .ok j) (hpassed : j.passed = true) :
    struggleScore A hints seconds (A.ofInt 0) maxHints expected = .ok j.score := by
  obtain ⟨validations, -, -, hchecks, hscore⟩ := judgeWith_ok h
  have hnone : failures (checksFor w criteria) = 0 := by
    rw [failures_eq_zero_iff, ← hchecks]
    exact (j.passed_iff.mp hpassed).2
  rw [hnone] at hscore
  exact hscore

namespace Allowance

/-- **A pass never earns the lowest tier**: with any allowance and criteria, every result of a verification keeps the
bound, and so does every result with a score that was computed with exact rationals. -/
theorem verify_earns (s : Serializer) (akuId : String) (w : Workspace) (criteria : Option Criteria) :
    (∀ (allowance : Allowance) (hints seconds : Number) (world : World) (r : VerificationResult),
      (allowance.verify s akuId w hints seconds criteria world).1 = .ok r → r.Earns) ∧
    ∀ (maxHints expected : ℚ) (hints seconds : Int) (time : Timestamp) (j : Judgement) (r : VerificationResult),
      judgeWith exact w (criteria.getD Criteria.none) hints seconds maxHints expected = .ok j →
        resultAt s akuId w (.int hints) (.int seconds) j time = .ok r → r.Earns := by
  constructor
  · intro allowance hints seconds world r h
    obtain ⟨j, hjudge, hr⟩ := exists_judge_of_verify h
    apply VerificationResult.earns_of_le
    rw [hr.passed, hr.score]
    intro hpassed
    exact struggleScore_le (score_of_passed hjudge hpassed)
  · intro maxHints expected hints seconds time j r hjudge h
    have hr := reports_of_resultAt h
    apply VerificationResult.earns_of_le
    rw [hr.passed, hr.score]
    intro hpassed
    exact struggleScore_exact_le (score_of_passed hjudge hpassed)

end Allowance

open Runner Allowance in
/-- All hints and three times the expected time leave a score of 80, in either arithmetic, and an answer still passes. -/
theorem verify_earns_answering :
    (∃ r, (standard.verify .customary "first" answering 3 360 none dawn).1 = .ok r ∧ r.passed = true ∧
      r.struggleScore = 80 ∧ Tier.ofScore (.int r.struggleScore) ≠ .foundational) ∧
    ∃ j r, judgeWith exact answering Criteria.none ((3 : Int) : ℚ) ((360 : Int) : ℚ) 3 120 = .ok j ∧
      resultAt .customary "first" answering (.int 3) (.int 360) j dawn.clock.now = .ok r ∧ r.passed = true ∧
      r.struggleScore = 80 ∧ Tier.ofScore (.int r.struggleScore) ≠ .foundational := by
  obtain ⟨hdoubles, hexact⟩ := verify_earns .customary "first" answering none
  obtain ⟨taken, htaken⟩ := exists_takeSnapshot_answering dawn.clock.now
  have hscore : struggleScore doubles (.int 3) (.int 360) (.int 0) (.int 3) (.int 120) = .ok 80 := by decide +kernel
  have hscore' : struggleScore exact ((3 : Int) : ℚ) ((360 : Int) : ℚ) (exact.ofInt 0) 3 120 = .ok 80 := by
    decide +kernel
  constructor
  · have hr := verify_eq_ok standard .customary "first" answering 3 360 none rfl hscore htaken
    exact ⟨_, hr, rfl, rfl, ((hdoubles standard 3 360 dawn _ hr).tier rfl).2⟩
  · have hrules : checkRules answering.finalOutput Criteria.none.rules = .ok [] := rfl
    have hjudge := judgeWith_eq_ok hrules hscore'
    have hr (j : Judgement) : resultAt .customary "first" answering (.int 3) (.int 360) j dawn.clock.now =
        .ok (j.resultAt "first" answering 3 360 dawn.clock.now taken) := by
      rw [resultAt_eq, htaken]
    exact ⟨_, _, hjudge, hr _, rfl, rfl, ((hexact 3 120 3 360 _ _ _ hjudge (hr _)).tier rfl).2⟩

end WorkflowLab.Verification
