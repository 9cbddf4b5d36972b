import WorkflowLab.Journal.Entry
import WorkflowLab.Node.Basic

/-!
# Workspaces

The workspace of a learner as the editor reports it: the graph, the log of its last run and the status of that run.
Entries without a time get that of their reading.
-/

namespace WorkflowLab.Verification

open Intake Time

/-- The status of a workspace. -/
inductive Status where
  | idle
  | running
  | complete
  | error
deriving DecidableEq, Repr

namespace Status

/-- The name of a status in documents. -/
def name : Status → String
  | .idle => "idle"
  | .running => "running"
  | .complete => "complete"
  | .error => "error"

/-- The statuses by name. -/
def byName : List (String × Status) :=
  [("idle", .idle), ("running", .running), ("complete", .complete), ("error", .error)]

end Status

/-- The workspace of a learner. -/
structure Workspace where
  learnerId : String
  sessionId : Option String
  workflow : List Node
  log : List Entry
  status : Status
  extra : Fields

namespace Workspace

/-- The member for the id of the learner. -/
def learnerMember : Member := .aliased "learnerId" "learner_id"
/-- The member for the id of the session. -/
def sessionMember : Member := .aliased "sessionId" "session_id"
/-- The member `workflow`. -/
def workflowMember : Member := .plain "workflow"
/-- The member for the log. -/
def logMember : Member := .aliased "executionLog" "execution_log"
/-- The member `status`. -/
def statusMember : Member := .plain "status"

/-- The members of a workspace. -/
def form : List Member := [learnerMember, sessionMember, workflowMember, logMember, statusMember]

/-- Reads a workspace; the clock gives the times that its log leaves out. -/
def read : Json → Checked (Clocked Workspace) :=
  readForm "SandboxState" fun fields =>
    (fun learnerId sessionId workflow (log : List (Clocked Entry)) status extra => do
        let log ← log.mapM id
        return Workspace.mk learnerId sessionId workflow log status extra) <$>
      learnerMember.required fields text
      <*> sessionMember.optional fields none (nullable text)
      <*> workflowMember.optional fields [] (list Node.read)
      <*> logMember.optional fields [] (list Entry.read)
      <*> statusMember.optional fields .idle (choice Status.byName)
      <*> .good (extras form fields)

/-- The workspace as a document. -/
def listing (w : Workspace) : Json :=
  Intake.listing .wire
    [(learnerMember, .str w.learnerId), (sessionMember, .ofString? w.sessionId),
      (workflowMember, .arr (w.workflow.map Node.listing)), (logMember, .arr (w.log.map Entry.listing)),
      (statusMember, .str w.status.name)]
    w.extra

/-- The entries about something that succeeded. -/
def successes (log : List Entry) : List Entry := log.filter (·.event == .success)

end Workspace

end WorkflowLab.Verification
