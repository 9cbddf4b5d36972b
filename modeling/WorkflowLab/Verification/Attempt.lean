import WorkflowLab.Verification.Verdict

/-!
# Attempts

What a client sends to have an attempt verified.

- `Attempt`, `Attempt.ofPayload`: the request and its reader, with `AttemptFault`;
- `secondsBetween`: whole seconds between two times;
- `verifyAttempt`: the result of an attempt.
-/

namespace WorkflowLab.Verification

open Intake Run Time

/-- A request to verify an attempt. -/
structure Attempt where
  akuId : String
  workspace : Workspace
  hintsUsed : Int
  startTime : Timestamp
  endTime : Timestamp
  criteria : Option Criteria
  extra : Fields

namespace Attempt

/-- The member for the knowledge unit. -/
def akuMember : Member := .aliased "akuId" "aku_id"
/-- The member for the workspace. -/
def workspaceMember : Member := .aliased "sandboxState" "sandbox_state"
/-- The member for the number of hints. -/
def hintsMember : Member := .aliased "hintsUsed" "hints_used"
/-- The member for the start. -/
def startMember : Member := .aliased "startTime" "start_time"
/-- The member for the end. -/
def endMember : Member := .aliased "endTime" "end_time"
/-- The member `criteria`. -/
def criteriaMember : Member := .plain "criteria"

/-- The members of a request. -/
def form : List Member := [akuMember, workspaceMember, hintsMember, startMember, endMember, criteriaMember]

/-- Reads a request. -/
def read : Json → Checked (Clocked Attempt) :=
  readForm "VerifyRequest" fun fields =>
    (fun akuId (workspace : Clocked Workspace) hints start stop criteria extra => do
        return Attempt.mk akuId (← workspace) hints start stop criteria extra) <$>
      akuMember.required fields text
      <*> workspaceMember.required fields Workspace.read
      <*> hintsMember.optional fields 0 (fun v => bounded Number.int (.atLeast 0) (integer v))
      <*> startMember.required fields time
      <*> endMember.required fields time
      <*> criteriaMember.optional fields none (nullable Criteria.read)
      <*> .good (extras form fields)

/-- The request as a document. -/
def listing (a : Attempt) : Json :=
  Intake.listing .wire
    [(akuMember, .str a.akuId), (workspaceMember, a.workspace.listing), (hintsMember, .int a.hintsUsed),
      (startMember, .str a.startTime.json), (endMember, .str a.endTime.json),
      (criteriaMember, .ofOption (a.criteria.map Criteria.listing))]
    a.extra

/-- The request for clients. -/
def send (s : Serializer) (a : Attempt) : Except String Json := s.record a.listing

end Attempt

/-- Why an attempt has no result. -/
inductive AttemptFault where
  | notObject
  | invalid (issues : List Issue)
  | verification (fault : VerifyFault)
deriving DecidableEq, Repr

/-- What is wrong with a payload, in words. -/
def AttemptFault.payloadMessage : AttemptFault → String
  | .notObject => "verification payload must be an object"
  | .invalid issues => "invalid verification payload: " ++ messages issues
  | .verification _ => ""

/-- Reads a payload. -/
def Attempt.ofPayload (payload : Json) : Except AttemptFault (Clocked Attempt) :=
  if payload.isObject then
    match Attempt.read payload with
    | .good a => .ok a
    | .bad issues => .error (.invalid issues)
  else .error .notObject

/-- Whole seconds from one time to another, halves going up. A time of unknown distance counts as universal. -/
def secondsBetween (first last : Timestamp) : Int :=
  (Binary.floor? (Timestamp.seconds (last.universal - first.universal) + 0.5)).getD 0

/-- Verifies an attempt that was read. -/
def Attempt.verify (allowance : Allowance) (s : Serializer) (a : Attempt) :
    Lab (Except VerifyFault VerificationResult) := do
  let seconds := secondsBetween a.startTime a.endTime
  match ← allowance.verify s a.akuId a.workspace (.int a.hintsUsed) (.int seconds) a.criteria with
  | .error f => return .error f
  | .ok r =>
    Lab.note .debug .service
      ("Verified " ++ a.akuId ++ ": passed=" ++ (Json.bool r.passed).literal) []
    return .ok r

/-- Verifies what a client sends. -/
def verifyAttempt (allowance : Allowance) (s : Serializer) (payload : Json) :
    Lab (Except AttemptFault VerificationResult) :=
  match Attempt.ofPayload payload with
  | .error f => return .error f
  | .ok attempt => do
    let a ← Lab.clocked attempt
    match ← a.verify allowance s with
    | .error f => return .error (.verification f)
    | .ok r => return .ok r

end WorkflowLab.Verification
