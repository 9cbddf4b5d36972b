import WorkflowLab.Run.World
import WorkflowLab.Verification.Result
import WorkflowLab.Verification.Score
import WorkflowLab.Verification.Snapshot

/-!
# Verdicts

- `Allowance`: the hints and the time that scores are measured against;
- `Allowance.judge`: the checks and the score of an attempt;
- `Allowance.verify`: the result at the time of the verdict.

The verdict reads the workspace and nothing else; it does not measure time itself.
-/

namespace WorkflowLab.Verification

open Intake Run Time

/-- What an attempt may use: hints, and seconds before time counts against it. Scores are measured against it. -/
structure Allowance where
  maxHints : Number
  expectedDuration : Number

/-- The allowance when nothing else is set. -/
def Allowance.standard : Allowance := ⟨.int defaultMaxHints, .int defaultExpectedDuration⟩

/-- Why there is no verdict. -/
inductive VerifyFault where
  | path (fault : PathFault)
  | score (fault : ScoreFault)
  | snapshot (fault : SnapshotFault)
  | result (issues : List Issue)
deriving DecidableEq, Repr

/-- Checks and score. -/
structure Judgement where
  validations : List OutputValidation
  checks : List RequirementCheck
  score : Int

namespace Judgement

/-- Whether every check passed. -/
def passed (j : Judgement) : Bool := j.validations.all (·.passed) && j.checks.all (·.passed)

end Judgement

/-- Decides rules about an output, up to the first path that cannot be followed. -/
def checkRules (output : Json) : List OutputRule → Except PathFault (List OutputValidation)
  | [] => .ok []
  | rule :: rest =>
    match rule.check output with
    | .error f => .error f
    | .ok v => (checkRules output rest).map (v :: ·)

/-- The checks of the output: the baseline, then the rules. -/
def validationsFor (w : Workspace) (criteria : Criteria) : Except PathFault (List OutputValidation) :=
  (checkRules w.finalOutput criteria.rules).map (w.baselineValidations ++ ·)

/-- The checks of the run: the baseline, then the requirements. -/
def checksFor (w : Workspace) (criteria : Criteria) : List RequirementCheck :=
  w.baselineChecks ++ criteria.requirements.map (·.check w.log)

/-- How many checks of the run failed. -/
def failures (checks : List RequirementCheck) : Nat := checks.countP (!·.passed)

/-- Checks and score of an attempt, the score in any arithmetic. -/
def judgeWith {α : Type} (A : Arithmetic α) (w : Workspace) (criteria : Criteria)
    (hints seconds maxHints expected : α) : Except VerifyFault Judgement :=
  match validationsFor w criteria with
  | .error f => .error (.path f)
  | .ok validations =>
    let checks := checksFor w criteria
    match struggleScore A hints seconds (A.ofInt (failures checks)) maxHints expected with
    | .error f => .error (.score f)
    | .ok score => .ok ⟨validations, checks, score⟩

namespace Allowance

/-- Checks and score of an attempt. -/
def judge (allowance : Allowance) (w : Workspace) (criteria : Criteria) (hints seconds : Number) :
    Except VerifyFault Judgement :=
  judgeWith doubles w criteria hints seconds allowance.maxHints allowance.expectedDuration

/-- The result of an attempt at a time, with a snapshot; hints and seconds have to be whole. -/
def resultAt (s : Serializer) (akuId : String) (w : Workspace) (hints seconds : Number) (j : Judgement)
    (time : Timestamp) : Except VerifyFault VerificationResult := do
  let snapshot ← (takeSnapshot s w.workflow time).mapError .snapshot
  let numbers : Checked (Int × Int) :=
    Prod.mk <$> (integer (.num hints)).under (.key "hints_used")
      <*> (integer (.num seconds)).under (.key "time_to_complete")
  match numbers with
  | .bad issues => .error (.result issues)
  | .good (hints, seconds) =>
    .ok {
      passed := j.passed
      akuId
      learnerId := w.learnerId
      timestamp := time
      validations := j.validations
      checks := j.checks
      struggleScore := j.score
      hintsUsed := hints
      timeToComplete := seconds
      snapshot
      extra := [] }

/-- What failed, by name. -/
def failing (r : VerificationResult) : List String :=
  (r.validations.filter (!·.passed)).map (·.field) ++ r.failedRequirements

/-- The note about a result. -/
def noteOf (r : VerificationResult) : String :=
  if r.passed then
    "✓ Verification passed for " ++ r.akuId ++ " (learner " ++ r.learnerId ++ ", struggle " ++
      toString r.struggleScore ++ ")"
  else "✗ Verification failed for " ++ r.akuId ++ ": " ++ Text.joinWith ", " (failing r)

/-- Verifies an attempt. The clock is read once the checks are done. -/
def verify (allowance : Allowance) (s : Serializer) (akuId : String) (w : Workspace) (hints seconds : Number)
    (criteria : Option Criteria) : Lab (Except VerifyFault VerificationResult) := do
  match allowance.judge w (criteria.getD Criteria.none) hints seconds with
  | .error f => return .error f
  | .ok j =>
    let time ← Lab.clocked Clock.read
    match resultAt s akuId w hints seconds j time with
    | .error f => return .error f
    | .ok r =>
      Lab.note .info .verification (noteOf r) []
      return .ok r

end Allowance

end WorkflowLab.Verification
