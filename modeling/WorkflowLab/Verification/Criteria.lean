import WorkflowLab.Intake.Scalar
import WorkflowLab.Json.Depth

/-!
# Criteria

What a knowledge unit asks of an attempt beyond the baseline: rules about the captured output, and requirements on the
log.

- `OutputRule`, `Requirement`, `Criteria`, with their readers and listings;
- `Requirement.label`: the name of a requirement in verdicts.
-/

namespace WorkflowLab.Verification

open Intake

/-- What a rule asks of a part of the output. -/
inductive RuleType where
  | exists
  | matches
  | contains
  | typeCheck
deriving DecidableEq, Repr

namespace RuleType

/-- The name of a rule type in documents. -/
def name : RuleType → String
  | .exists => "exists"
  | .matches => "matches"
  | .contains => "contains"
  | .typeCheck => "type_check"

/-- The rule types by name. -/
def byName : List (String × RuleType) :=
  [("exists", .exists), ("matches", .matches), ("contains", .contains), ("type_check", .typeCheck)]

end RuleType

/-- A rule about the part of the output at a dot path. -/
structure OutputRule where
  field : String
  type : RuleType
  expected : Json
  extra : Fields

namespace OutputRule

/-- The member `field`. -/
def fieldMember : Member := .plain "field"
/-- The member `type`. -/
def typeMember : Member := .plain "type"
/-- The member `expected`. -/
def expectedMember : Member := .plain "expected"

/-- The members of a rule. -/
def form : List Member := [fieldMember, typeMember, expectedMember]

/-- Reads a rule. -/
def read : Json → Checked OutputRule :=
  readForm "OutputRule" fun fields =>
    OutputRule.mk <$> fieldMember.required fields text
      <*> typeMember.required fields (choice RuleType.byName)
      <*> expectedMember.optional fields .null anything
      <*> .good (extras form fields)

/-- The rule as a document. -/
def listing (rule : OutputRule) : Json :=
  Intake.listing .wire
    [(fieldMember, .str rule.field), (typeMember, .str rule.type.name), (expectedMember, rule.expected)]
    rule.extra

end OutputRule

/-- What a requirement asks of the log. -/
inductive RequirementType where
  | apiCalled
  | workflowDeployed
  | responseReceived
  | latencyUnder
deriving DecidableEq, Repr

namespace RequirementType

/-- The name of a requirement type in documents. -/
def name : RequirementType → String
  | .apiCalled => "api_called"
  | .workflowDeployed => "workflow_deployed"
  | .responseReceived => "response_received"
  | .latencyUnder => "latency_under"

/-- The requirement types by name. -/
def byName : List (String × RequirementType) :=
  [("api_called", .apiCalled), ("workflow_deployed", .workflowDeployed),
    ("response_received", .responseReceived), ("latency_under", .latencyUnder)]

end RequirementType

/-- A requirement on the log. -/
structure Requirement where
  type : RequirementType
  target : String
  extra : Fields

namespace Requirement

/-- The member `type`. -/
def typeMember : Member := .plain "type"
/-- The member `target`. -/
def targetMember : Member := .plain "target"

/-- The members of a requirement. -/
def form : List Member := [typeMember, targetMember]

/-- Reads a requirement. -/
def read : Json → Checked Requirement :=
  readForm "ExecutionRequirement" fun fields =>
    Requirement.mk <$> typeMember.required fields (choice RequirementType.byName)
      <*> targetMember.optional fields "" text
      <*> .good (extras form fields)

/-- The requirement as a document. -/
def listing (r : Requirement) : Json :=
  Intake.listing .wire [(typeMember, .str r.type.name), (targetMember, .str r.target)] r.extra

/-- Type and target, or the type alone when there is no target. -/
def label (r : Requirement) : String := if r.target = "" then r.type.name else r.type.name ++ ":" ++ r.target

end Requirement

/-- All that a knowledge unit asks. -/
structure Criteria where
  rules : List OutputRule
  requirements : List Requirement
  extra : Fields

namespace Criteria

/-- The member for the rules. -/
def rulesMember : Member := .aliased "outputValidation" "output_validation"
/-- The member for the requirements. -/
def requirementsMember : Member := .aliased "executionRequirements" "execution_requirements"

/-- The members of criteria. -/
def form : List Member := [rulesMember, requirementsMember]

/-- Reads criteria. -/
def read : Json → Checked Criteria :=
  readForm "VerificationCriteria" fun fields =>
    Criteria.mk <$> rulesMember.optional fields [] (list OutputRule.read)
      <*> requirementsMember.optional fields [] (list Requirement.read)
      <*> .good (extras form fields)

/-- The criteria as a document. -/
def listing (c : Criteria) : Json :=
  Intake.listing .wire
    [(rulesMember, .arr (c.rules.map OutputRule.listing)),
      (requirementsMember, .arr (c.requirements.map Requirement.listing))]
    c.extra

/-- No criteria. -/
def none : Criteria := ⟨[], [], []⟩

end Criteria

end WorkflowLab.Verification
