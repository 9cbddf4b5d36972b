import WorkflowLab.Proofs.Json.Serializers
import WorkflowLab.Proofs.Verification.Scores
import WorkflowLab.Verification.Verdict

/-!
# When there is a verdict

- `IsShort`: workflows whose integers can be written;
- `takeSnapshot_eq`, `exists_takeSnapshot_iff`: which snapshot is taken, and when there is one;
- `Judgement.resultAt`: the result that a judgement comes to at a time, with a snapshot;
- `verify_eq`: a verification ends with this result, or with the first of its three faults: a path that cannot be
  followed, a score that cannot be computed, and a workflow without a snapshot;
- `judge_eq`: the first two of these;
- `judgeWith_ok`, `exists_judge_of_verify`: where the checks and the score of a result come from;
- `failures_lt`: the failures of checks that a word can count.
-/

namespace WorkflowLab.Verification

open Intake Run Time

/-! ## Snapshots -/

/-- No integer in a workflow has too many digits. -/
def IsShort (workflow : List Node) : Prop := ∀ node ∈ workflow, node.listing.isShort = true

instance (workflow : List Node) : Decidable (IsShort workflow) :=
  inferInstanceAs (Decidable (∀ node ∈ workflow, node.listing.isShort = true))

/-- The document of a snapshot has the integers of the workflow. -/
theorem isShort_snapshotDocument_iff {workflow : List Node} {time : Timestamp} :
    (snapshotDocument workflow time).isShort = true ↔ IsShort workflow := by
  simp only [snapshotDocument, stamped, Json.isShort_obj, List.forall_mem_cons, Json.isShort_arr, List.forall_mem_map,
    Json.isShort_finite]
  exact and_iff_left ⟨rfl, List.forall_mem_nil _⟩

section

variable {s : Serializer} (hs : s.Faithful) (workflow : List Node) (time : Timestamp)
include hs

/-- **A snapshot that is taken is that of the workflow.** What can stand in its way is the serializer and an integer that
is too long. -/
theorem takeSnapshot_eq : takeSnapshot s workflow time =
    match workflow.mapM fun n => s.record n.listing with
    | .error message => .error (.refused message)
    | .ok _ => if IsShort workflow then .ok (snapshot workflow time) else .error .hugeInteger := by
  unfold takeSnapshot
  cases hrecords : workflow.mapM fun n => s.record n.listing with
  | error message => rfl
  | ok documents =>
    obtain rfl : documents = workflow.map fun n => n.listing.finite :=
      eq_map_of_mapM hrecords fun n _ hn => hs.record hn
    exact if_congr isShort_snapshotDocument_iff rfl rfl

theorem eq_snapshot_of_takeSnapshot {workflow : List Node} {time : Timestamp} {taken : String}
    (h : takeSnapshot s workflow time = .ok taken) : taken = snapshot workflow time := by
  rw [takeSnapshot_eq hs] at h
  split at h
  · cases h
  · split at h
    · exact (Except.ok.inj h).symm
    · cases h

/-- **A workflow has a snapshot exactly when its nodes have documents and its integers are short.** -/
theorem exists_takeSnapshot_iff {workflow : List Node} {time : Timestamp} :
    (∃ taken, takeSnapshot s workflow time = .ok taken) ↔
      (∀ node ∈ workflow, s.TakesRecord node.listing) ∧ IsShort workflow := by
  rw [takeSnapshot_eq hs]
  have hrecords : (∃ documents, workflow.mapM (fun n => s.record n.listing) = .ok documents) ↔
      ∀ node ∈ workflow, s.TakesRecord node.listing := exists_mapM_eq_ok_iff
  rw [← hrecords]
  cases workflow.mapM fun n => s.record n.listing with
  | error message => simp
  | ok documents =>
    by_cases hshort : IsShort workflow <;> simp [hshort]

end

/-! ## Judgements -/

/-- The result that a judgement comes to. -/
def Judgement.resultAt (j : Judgement) (akuId : String) (w : Workspace) (hints seconds : Int) (time : Timestamp)
    (taken : String) : VerificationResult where
  passed := j.passed
  akuId
  learnerId := w.learnerId
  timestamp := time
  validations := j.validations
  checks := j.checks
  struggleScore := j.score
  hintsUsed := hints
  timeToComplete := seconds
  snapshot := taken
  extra := []

/-- The result of a judgement: it has its checks and its score. -/
structure VerificationResult.Reports (r : VerificationResult) (j : Judgement) : Prop where
  passed : r.passed = j.passed
  validations : r.validations = j.validations
  checks : r.checks = j.checks
  score : r.struggleScore = j.score

/-- A judgement has passed when every check has. -/
theorem Judgement.passed_iff (j : Judgement) :
    j.passed = true ↔ (∀ v ∈ j.validations, v.passed = true) ∧ ∀ c ∈ j.checks, c.passed = true := by
  simp [passed]

/-- **Where a judgement comes from**: the rules could be decided, and the score is that of the failures. -/
theorem judgeWith_ok {α : Type} {A : Arithmetic α} {w : Workspace} {criteria : Criteria}
    {hints seconds maxHints expected : α} {j : Judgement}
    (h : judgeWith A w criteria hints seconds maxHints expected = .ok j) :
    ∃ validations, checkRules w.finalOutput criteria.rules = .ok validations ∧
      j.validations = w.baselineValidations ++ validations ∧ j.checks = checksFor w criteria ∧
      struggleScore A hints seconds (A.ofInt (failures (checksFor w criteria))) maxHints expected = .ok j.score := by
  unfold judgeWith validationsFor at h
  cases hrules : checkRules w.finalOutput criteria.rules with
  | error f =>
    rw [hrules] at h
    cases h
  | ok validations =>
    rw [hrules] at h
    dsimp only [Except.map] at h
    cases hscore : struggleScore A hints seconds (A.ofInt (failures (checksFor w criteria))) maxHints expected with
    | error f =>
      rw [hscore] at h
      cases h
    | ok score =>
      rw [hscore] at h
      cases h
      exact ⟨validations, rfl, rfl, rfl, rfl⟩

/-- A judgement without faults. -/
theorem judgeWith_eq_ok {α : Type} {A : Arithmetic α} {w : Workspace} {criteria : Criteria}
    {hints seconds maxHints expected : α} {validations : List OutputValidation} {score : Int}
    (hrules : checkRules w.finalOutput criteria.rules = .ok validations)
    (hscore : struggleScore A hints seconds (A.ofInt (failures (checksFor w criteria))) maxHints expected =
      .ok score) :
    judgeWith A w criteria hints seconds maxHints expected =
      .ok ⟨w.baselineValidations ++ validations, checksFor w criteria, score⟩ := by
  unfold judgeWith validationsFor
  rw [hrules]
  dsimp only [Except.map]
  rw [hscore]

/-- Checks that a word can count do not fail too often. -/
theorem failures_lt {checks : List RequirementCheck} (h : checks.length < 2 * wordLimit) :
    failures checks < 2 ^ 64 := by
  have hword : 2 * wordLimit = 2 ^ 64 := rfl
  rw [← hword]
  exact Nat.lt_of_le_of_lt List.countP_le_length h

namespace Allowance

/-- The result of a judgement reports it. -/
theorem reports_of_resultAt {s : Serializer} {akuId : String} {w : Workspace} {hints seconds : Number} {j : Judgement}
    {time : Timestamp} {r : VerificationResult} (h : resultAt s akuId w hints seconds j time = .ok r) :
    r.Reports j := by
  obtain ⟨snapshot, -, h⟩ := ok_of_bind h
  dsimp only at h
  split at h
  · cases h
  · cases h
    exact ⟨rfl, rfl, rfl, rfl⟩

/-- **Where a result comes from**: a judgement that it reports. -/
theorem exists_judge_of_verify {allowance : Allowance} {s : Serializer} {akuId : String} {w : Workspace}
    {hints seconds : Number} {criteria : Option Criteria} {world : World} {r : VerificationResult}
    (h : (allowance.verify s akuId w hints seconds criteria world).1 = .ok r) :
    ∃ j, allowance.judge w (criteria.getD Criteria.none) hints seconds = .ok j ∧ r.Reports j := by
  unfold verify at h
  cases hjudge : allowance.judge w (criteria.getD Criteria.none) hints seconds with
  | error f =>
    rw [hjudge] at h
    cases h
  | ok j =>
    rw [hjudge] at h
    have hclock : Lab.clocked Clock.read world = (world.clock.now, { world with clock := world.clock.tick.2 }) := rfl
    simp only [bind, StateT.bind, hclock] at h
    cases hresult : resultAt s akuId w hints seconds j world.clock.now with
    | error f =>
      rw [hresult] at h
      cases h
    | ok result =>
      rw [hresult] at h
      cases h
      exact ⟨j, rfl, reports_of_resultAt hresult⟩

variable (allowance : Allowance) (s : Serializer) (akuId : String) (w : Workspace) (hints seconds : Int)

/-- Whole hints and seconds make a result, if the workflow has a snapshot. -/
theorem resultAt_eq (j : Judgement) (time : Timestamp) :
    resultAt s akuId w (.int hints) (.int seconds) j time =
      match takeSnapshot s w.workflow time with
      | .error f => .error (.snapshot f)
      | .ok taken => .ok (j.resultAt akuId w hints seconds time taken) := by
  unfold resultAt
  cases takeSnapshot s w.workflow time <;> rfl

/-- **A verification ends with the result of its judgement**, or with the fault that stands in the way. -/
theorem verify_eq (criteria : Option Criteria) (world : World) :
    (allowance.verify s akuId w (.int hints) (.int seconds) criteria world).1 =
      match allowance.judge w (criteria.getD Criteria.none) (.int hints) (.int seconds) with
      | .error f => .error f
      | .ok j =>
        match takeSnapshot s w.workflow world.clock.now with
        | .error f => .error (.snapshot f)
        | .ok taken => .ok (j.resultAt akuId w hints seconds world.clock.now taken) := by
  unfold verify
  cases allowance.judge w (criteria.getD Criteria.none) (.int hints) (.int seconds) with
  | error f => rfl
  | ok j =>
    have hclock : Lab.clocked Clock.read world = (world.clock.now, { world with clock := world.clock.tick.2 }) := rfl
    simp only [bind, StateT.bind, hclock, resultAt_eq]
    cases takeSnapshot s w.workflow world.clock.now <;> rfl

/-- **The faults of a judgement**: a path that cannot be followed, and a score that cannot be computed. -/
theorem judge_eq (criteria : Criteria) (hints seconds : Number) :
    allowance.judge w criteria hints seconds =
      match checkRules w.finalOutput criteria.rules with
      | .error f => .error (.path f)
      | .ok validations =>
        match struggleScore doubles hints seconds (.int (failures (checksFor w criteria))) allowance.maxHints
          allowance.expectedDuration with
        | .error f => .error (.score f)
        | .ok score => .ok ⟨w.baselineValidations ++ validations, checksFor w criteria, score⟩ := by
  unfold judge judgeWith validationsFor
  cases checkRules w.finalOutput criteria.rules <;> rfl

/-- A verification without faults. -/
theorem verify_eq_ok (criteria : Option Criteria) {validations : List OutputValidation} {score : Int}
    (hrules : checkRules w.finalOutput (criteria.getD Criteria.none).rules = .ok validations)
    (hscore : struggleScore doubles (.int hints) (.int seconds)
      (.int (failures (checksFor w (criteria.getD Criteria.none)))) allowance.maxHints allowance.expectedDuration =
        .ok score)
    {world : World} {taken : String} (htaken : takeSnapshot s w.workflow world.clock.now = .ok taken) :
    (allowance.verify s akuId w (.int hints) (.int seconds) criteria world).1 =
      .ok (Judgement.resultAt ⟨w.baselineValidations ++ validations, checksFor w (criteria.getD Criteria.none), score⟩
        akuId w hints seconds world.clock.now taken) := by
  rw [verify_eq, judge, judgeWith_eq_ok hrules hscore, htaken]

/-- The share of the hints of the standard allowance that is too large for a double. -/
theorem standard_div?_eq_none {hints : Int} (h : Binary.tooLarge * 3 ≤ hints.natAbs) :
    (Number.int hints).div? standard.maxHints = none := by
  refine (Number.div?_eq_none_iff (b := 3) (by decide)).mpr ?_
  rw [show (3 : Int).natAbs = 3 from rfl]
  exact h

end Allowance

end WorkflowLab.Verification
