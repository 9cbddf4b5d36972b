import WorkflowLab.Json.Serializer
import WorkflowLab.Verification.Check

/-!
# Verification results

The verdict on an attempt with all its checks.

- `VerificationResult`, `VerificationResult.read`: the type, and its reader, which takes both spellings of its members;
- `VerificationResult.wire`, `VerificationResult.send`: a result as clients get it, and how a serializer makes it.
-/

namespace WorkflowLab.Verification

open Intake Time

/-- The verdict on an attempt. -/
structure VerificationResult where
  passed : Bool
  akuId : String
  learnerId : String
  timestamp : Timestamp
  validations : List OutputValidation
  checks : List RequirementCheck
  struggleScore : Int
  hintsUsed : Int
  timeToComplete : Int
  snapshot : String
  extra : Fields

namespace VerificationResult

/-- The member `passed`. -/
def passedMember : Member := .plain "passed"
/-- The member for the knowledge unit. -/
def akuMember : Member := .aliased "akuId" "aku_id"
/-- The member for the learner. -/
def learnerMember : Member := .aliased "learnerId" "learner_id"
/-- The member for the time of the verdict. -/
def timestampMember : Member := .plain "timestamp"
/-- The member for the checks of the output. -/
def validationsMember : Member := .aliased "outputValidations" "output_validations"
/-- The member for the checks of the run. -/
def checksMember : Member := .aliased "executionResults" "execution_results"
/-- The member for the score. -/
def scoreMember : Member := .aliased "struggleScore" "struggle_score"
/-- The member for the number of hints. -/
def hintsMember : Member := .aliased "hintsUsed" "hints_used"
/-- The member for the number of seconds. -/
def timeMember : Member := .aliased "timeToComplete" "time_to_complete"
/-- The member for the snapshot. -/
def snapshotMember : Member := .aliased "workflowSnapshot" "workflow_snapshot"

/-- The members of a result. -/
def form : List Member :=
  [passedMember, akuMember, learnerMember, timestampMember, validationsMember, checksMember, scoreMember,
    hintsMember, timeMember, snapshotMember]

/-- Reads a result. -/
def read : Json → Checked VerificationResult :=
  readForm "VerificationResult" fun fields =>
    VerificationResult.mk <$> passedMember.required fields truth
      <*> akuMember.required fields text
      <*> learnerMember.required fields text
      <*> timestampMember.required fields time
      <*> validationsMember.optional fields [] (list OutputValidation.read)
      <*> checksMember.optional fields [] (list RequirementCheck.read)
      <*> scoreMember.required fields
        (fun v => bounded Number.int (.atMost 100) (bounded Number.int (.atLeast 0) (integer v)))
      <*> hintsMember.optional fields 0 integer
      <*> timeMember.optional fields 0 integer
      <*> snapshotMember.optional fields "" text
      <*> .good (extras form fields)

/-- A result as a document. -/
def listing (r : VerificationResult) : Json :=
  Intake.listing .wire
    [(passedMember, .bool r.passed), (akuMember, .str r.akuId), (learnerMember, .str r.learnerId),
      (timestampMember, .str r.timestamp.json),
      (validationsMember, .arr (r.validations.map OutputValidation.listing)),
      (checksMember, .arr (r.checks.map RequirementCheck.listing)), (scoreMember, .int r.struggleScore),
      (hintsMember, .int r.hintsUsed), (timeMember, .int r.timeToComplete), (snapshotMember, .str r.snapshot)]
    r.extra

/-- A result as clients get it. -/
def wire (r : VerificationResult) : Json := r.listing.finite

/-- A result for clients. -/
def send (s : Serializer) (r : VerificationResult) : Except String Json := s.record r.listing

/-- The requirements that were not met. -/
def failedRequirements (r : VerificationResult) : List String :=
  (r.checks.filter (!·.passed)).map (·.requirement)

end VerificationResult

end WorkflowLab.Verification
