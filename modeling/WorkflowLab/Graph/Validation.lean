import WorkflowLab.Graph.Basic

/-!
# Validation of graphs

What is odd about a graph, for its author to see; none of it stops a run but a missing trigger.

- `Finding`: what can be odd;
- `Graph.findings`: the findings of a graph: nodes and triggers, ids, successors, and services when these are strict;
- `Finding.message`: a finding in words.
-/

namespace WorkflowLab

/-- What is odd about a graph. -/
inductive Finding where
  | noNodes
  | noTrigger
  | manyTriggers (ids : List String)
  | duplicateId (id : String)
  | missingSuccessor (id successor : String)
  | unknownService (id service : String) (kind : Kind)
deriving DecidableEq, Repr

/-- The message for a graph without trigger. -/
def noTriggerMessage : String := "no trigger node found"

/-- A finding in words. -/
def Finding.message : Finding → String
  | .noNodes => "Workflow has no nodes"
  | .noTrigger => noTriggerMessage
  | .manyTriggers ids =>
    "Workflow has " ++ toString ids.length ++ " trigger nodes (" ++ String.intercalate ", " ids ++ "); only '" ++
      ids.headD "" ++ "' will run"
  | .duplicateId id => "Duplicate node ID: '" ++ id ++ "'"
  | .missingSuccessor id successor =>
    "Node '" ++ id ++ "' references missing successor '" ++ successor ++ "'"
  | .unknownService id service kind =>
    "Node '" ++ id ++ "' has unsupported service '" ++ service ++ "' for kind '" ++ kind.name ++ "'"

namespace Graph

/-- Findings about the number of nodes and triggers. -/
def triggerFindings (graph : Graph) : List Finding :=
  if graph.nodes.isEmpty then [.noNodes]
  else
    match graph.triggers with
    | [] => [.noTrigger]
    | [_] => []
    | triggers => [.manyTriggers (triggers.map (·.id))]

/-- Findings about ids that occur before, `seen` being the ids of the earlier nodes. -/
def duplicateFindings (seen : List String) : List Node → List Finding
  | [] => []
  | node :: rest =>
    let later := duplicateFindings (node.id :: seen) rest
    if seen.contains node.id then .duplicateId node.id :: later else later

/-- Findings about successors that are the id of no node. -/
def successorFindings (graph : Graph) : List Finding :=
  graph.nodes.flatMap fun node =>
    (node.successors.filter fun s => !(graph.nodes.any (·.id == s))).map (.missingSuccessor node.id)

/-- Findings about services. -/
def serviceFindings (graph : Graph) : List Finding :=
  graph.unknown.map fun node => .unknownService node.id node.service node.kind

/-- What is odd about the graph; services count when they are strict. -/
def findings (graph : Graph) (strictServices : Bool) : List Finding :=
  graph.triggerFindings ++ duplicateFindings [] graph.nodes ++ graph.successorFindings ++
    if strictServices then graph.serviceFindings else []

/-- The findings in words. -/
def validate (graph : Graph) (strictServices : Bool) : List String :=
  (graph.findings strictServices).map Finding.message

end Graph

end WorkflowLab
