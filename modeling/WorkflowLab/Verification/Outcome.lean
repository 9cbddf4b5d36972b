import WorkflowLab.Run.World
import WorkflowLab.Verification.Result

/-!
# Outcomes

What a result means for the profile of a learner.

- `Outcome`, `Outcome.ofResult`: the outcome of a result;
- `ProfileUpdate`, `Outcome.updates`: what the profile is told;
- `applyOutcome`: both, with a note.
-/

namespace WorkflowLab.Verification

open Run

/-- What is recorded for a learner. -/
inductive Outcome where
  | notPassed
  | completed
  | struggleArea
  | mastered
deriving DecidableEq, Repr

/-- The name of an outcome. -/
def Outcome.name : Outcome → String
  | .notPassed => "not_passed"
  | .completed => "completed"
  | .struggleArea => "struggle_area"
  | .mastered => "mastered"

/-- What a profile is told. -/
inductive ProfileUpdate where
  | completeAku (learnerId akuId : String)
  | addStruggleArea (learnerId category : String)
  | addMasteredConcept (learnerId category : String)
deriving DecidableEq, Repr

/-- Scores above this one mark a struggle area. -/
def struggleThreshold : Int := 70
/-- Scores below this one mark a mastered concept. -/
def masteredThreshold : Int := 30

namespace Outcome

/-- The outcome of a result. -/
def ofResult (r : VerificationResult) : Outcome :=
  if !r.passed then .notPassed
  else if struggleThreshold < r.struggleScore then .struggleArea
  else if r.struggleScore < masteredThreshold then .mastered
  else .completed

/-- What the profile is told about a result with this outcome. -/
def updates (outcome : Outcome) (r : VerificationResult) (category : String) : List ProfileUpdate :=
  match outcome with
  | .notPassed => []
  | .completed => [.completeAku r.learnerId r.akuId]
  | .struggleArea => [.completeAku r.learnerId r.akuId, .addStruggleArea r.learnerId category]
  | .mastered => [.completeAku r.learnerId r.akuId, .addMasteredConcept r.learnerId category]

end Outcome

/-- The outcome of a result and what the profile is told. -/
def applyOutcome (r : VerificationResult) (category : String) : Lab (Outcome × List ProfileUpdate) := do
  let outcome := Outcome.ofResult r
  if outcome ≠ .notPassed then
    Lab.note .info .outcomes
      ("Learner " ++ r.learnerId ++ ": " ++ r.akuId ++ " recorded as " ++ outcome.name) []
  return (outcome, outcome.updates r category)

end WorkflowLab.Verification
