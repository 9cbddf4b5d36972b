import WorkflowLab.Node.Settings
import WorkflowLab.Run.World

/-!
# The work of executors

- `NodeFault`: how an executor fails: it reports its failure itself, or it lets one pass;
- `Work`: computations of executors;
- `Work.report`, `Work.fail`, `Work.settings`: reporting a failure, ending with one, and reading the settings of a node.
-/

namespace WorkflowLab.Run

open Intake

/-- How an executor fails. By its word, a reported failure has its entry in the log already. -/
inductive NodeFault where
  | reported (message : String)
  | raised (failure : Failure)
deriving DecidableEq, Repr

/-- Computations that may fail for their node. -/
abbrev Work := ExceptT NodeFault Lab

namespace Work

variable {α : Type}

/-- An entry of the log. -/
def enter (task : Task) (event : Event) (message : String) (data : Json) : Work Unit :=
  ExceptT.lift (Lab.enter task.id event message data)

/-- Reports a failure: an error entry and a warning. -/
def report (task : Task) (message : String) : Work Unit :=
  ExceptT.lift do
    Lab.enter task.id .error message .null
    Lab.note .warning .executors ("Node '" ++ task.id ++ "' failed: " ++ message) [("node_id", .str task.id)]

/-- Reports a failure and ends with it. -/
def fail (task : Task) (message : String) : Work α := do
  report task message
  throw (.reported message)

/-- Reads the settings of a node, and reports the issues with them. -/
def settings (task : Task) (read : Json → Checked α) : Work α :=
  match read (.obj task.config) with
  | .good s => pure s
  | .bad issues => fail task ("Invalid config: " ++ messages issues)

/-- After a result the rest goes on with it. -/
theorem bind_of_ok {β : Type} {c : Work β} {f : β → Work α} {b : β} {w w' : World} (h : c w = (.ok b, w')) :
    (c >>= f) w = f b w' := by
  show (ExceptT.bindCont f (c w).1 : Lab (Except NodeFault α)) (c w).2 = f b w'
  rw [h]
  rfl

end Work

end WorkflowLab.Run
