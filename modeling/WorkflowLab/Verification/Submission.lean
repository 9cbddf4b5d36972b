import WorkflowLab.Run.Runner
import WorkflowLab.Verification.Workspace

/-!
# Submissions

- `submission`: the workspace that is handed in for verification after a run: the nodes, the log of the run as clients
  get it, and its status.
-/

namespace WorkflowLab.Verification

open Run

/-- The status of a workspace after a run. -/
def Status.ofRun (run : RunResult) : Status := if run.success then .complete else .error

/-- The workspace of a learner after a run of some nodes, as a document. -/
def submission (learnerId nodes : Json) (logs : List Json) (status : Status) : Json :=
  .obj [("learnerId", learnerId), ("workflow", nodes), ("executionLog", .arr logs), ("status", .str status.name)]

end WorkflowLab.Verification
