import WorkflowLab.Json.Equality
import WorkflowLab.Run.Prompt
import WorkflowLab.Time.IsoReader
import WorkflowLab.Verification.Criteria
import WorkflowLab.Verification.Lookup
import WorkflowLab.Verification.Workspace

/-!
# Checks

- `OutputValidation`, `RequirementCheck`: the checks of a verdict, about the output and about the log;
- `Workspace.finalOutput`: what the output node captured;
- `OutputRule.check`, `Requirement.check`: rules and requirements decided;
- `Workspace.baselineValidations`, `baselineChecks`: what every attempt is asked.
-/

namespace WorkflowLab.Verification

open Intake Run Time

/-! ## The checks of a verdict -/

/-- A check of the graph or its output. -/
structure OutputValidation where
  field : String
  passed : Bool
  actual : Json
  extra : Fields

namespace OutputValidation

/-- The member `field`. -/
def fieldMember : Member := .plain "field"
/-- The member `passed`. -/
def passedMember : Member := .plain "passed"
/-- The member `actual`. -/
def actualMember : Member := .plain "actual"

/-- The members of a check. -/
def form : List Member := [fieldMember, passedMember, actualMember]

/-- Reads a check. -/
def read : Json → Checked OutputValidation :=
  readForm "OutputValidation" fun fields =>
    OutputValidation.mk <$> fieldMember.required fields text
      <*> passedMember.required fields truth
      <*> actualMember.optional fields .null anything
      <*> .good (extras form fields)

/-- The check as a document. -/
def listing (v : OutputValidation) : Json :=
  Intake.listing .wire
    [(fieldMember, .str v.field), (passedMember, .bool v.passed), (actualMember, v.actual)] v.extra

end OutputValidation

/-- A check of the run. -/
structure RequirementCheck where
  requirement : String
  passed : Bool
  extra : Fields

namespace RequirementCheck

/-- The member `requirement`. -/
def requirementMember : Member := .plain "requirement"
/-- The member `passed`. -/
def passedMember : Member := .plain "passed"

/-- The members of a check. -/
def form : List Member := [requirementMember, passedMember]

/-- Reads a check. -/
def read : Json → Checked RequirementCheck :=
  readForm "RequirementCheck" fun fields =>
    RequirementCheck.mk <$> requirementMember.required fields text
      <*> passedMember.required fields truth
      <*> .good (extras form fields)

/-- The check as a document. -/
def listing (c : RequirementCheck) : Json :=
  Intake.listing .wire [(requirementMember, .str c.requirement), (passedMember, .bool c.passed)] c.extra

end RequirementCheck

/-! ## Rules -/

/-- What the first output node captured when it last succeeded; an empty object when that is nothing. -/
def Workspace.finalOutput (w : Workspace) : Json :=
  match w.workflow.find? (·.kind == .output) with
  | none => .obj []
  | some node =>
    match w.log.reverse.find? fun e => e.nodeId == node.id && e.event == .success with
    | some entry => entry.data.orElse (.obj [])
    | none => .obj []

/-- The name of the type of a value, as rules give it. -/
def valueTypeName : Json → String
  | .null => "undefined"
  | .bool _ => "boolean"
  | .num _ => "number"
  | .str _ => "string"
  | .arr _ => "object"
  | .obj _ => "object"

/-- Whether a value contains the text of another one. -/
def containsText (actual expected : Json) : Bool :=
  match actual with
  | .str s => Text.occursIn (stringifyValue expected).toList s.toList
  | _ => false

/-- Whether a value is what a rule asks for. -/
def RuleType.accepts (type : RuleType) (actual expected : Json) : Bool :=
  match type with
  | .exists => !actual.isNull
  | .matches => actual.same expected
  | .contains => containsText actual expected
  | .typeCheck => (Json.str (valueTypeName actual)).same expected

/-- Decides a rule about an output. -/
def OutputRule.check (rule : OutputRule) (output : Json) : Except PathFault OutputValidation :=
  (lookup output rule.field).map fun actual => ⟨rule.field, rule.type.accepts actual rule.expected, actual, []⟩

/-! ## Requirements -/

/-- The id of the node that deploys a workflow. -/
def deployId : String := "deploy"

/-- Milliseconds between the first and the last entry; `none` when a time cannot be read or compared. -/
def spanMillis? (log : List Entry) : Option Float := do
  let first ← readIso? (← log.head?).timestamp
  let last ← readIso? (← log.getLast?).timestamp
  return Timestamp.seconds (← Timestamp.elapsed? first last) * 1000

/-- Whether the log shows a success, and took no longer than the target says. A target that is no number asks for
nothing more. -/
def latencyUnder (target : String) (log : List Entry) : Bool :=
  !(Workspace.successes log).isEmpty &&
    match readFloat? target.toList with
    | none => true
    | some budget =>
      match spanMillis? log with
      | some span => (Number.float span).atMost (.float budget)
      | none => false

/-- Whether the log is as a requirement asks. -/
def Requirement.holds (r : Requirement) (log : List Entry) : Bool :=
  let successes := Workspace.successes log
  match r.type with
  | .apiCalled => successes.any fun e => Text.occursIn r.target.toList e.nodeId.toList
  | .workflowDeployed => successes.any (·.nodeId == deployId)
  | .responseReceived => successes.any (!·.data.isNull)
  | .latencyUnder => latencyUnder r.target log

/-- Decides a requirement on a log. -/
def Requirement.check (r : Requirement) (log : List Entry) : RequirementCheck := ⟨r.label, r.holds log, []⟩

/-! ## The baseline -/

/-- The fewest nodes of a workflow that passes. -/
def minNodes : Nat := 2

/-- What every attempt is asked about its graph and log. -/
def Workspace.baselineValidations (w : Workspace) : List OutputValidation :=
  let hasSuccess := w.log.any (·.event == .success)
  let hasOutput := w.workflow.any (·.kind == .output)
  [⟨"workflow_nodes", decide (minNodes ≤ w.workflow.length), .nat w.workflow.length, []⟩,
    ⟨"execution_success", hasSuccess, .bool hasSuccess, []⟩,
    ⟨"output_node", hasOutput, .bool hasOutput, []⟩]

/-- What every attempt is asked about its run. -/
def Workspace.baselineChecks (w : Workspace) : List RequirementCheck :=
  [⟨"workflow_executed", !w.log.isEmpty, []⟩,
    ⟨"no_errors", !w.log.any (·.event == .error), []⟩,
    ⟨"status_complete", w.status == .complete, []⟩]

end WorkflowLab.Verification
