import WorkflowLab.Node.Basic

/-!
# Workflow graphs

A graph is a list of nodes in the order of the editor; its edges are the successor lists of the nodes. Ids may repeat,
and then the first node of an id counts.

- `Graph`, `Graph.node?`, `Graph.trigger?`: the type and its look-ups;
- `Graph.ofPayload`: reads a bare list of nodes, or an object that holds one;
- `PayloadFault`: why a payload is no graph.
-/

namespace WorkflowLab

open Intake

/-- A workflow. -/
structure Graph where
  nodes : List Node
deriving Inhabited

/-- Why a payload is no graph. -/
inductive PayloadFault where
  | missing
  | notList
  | invalid (issues : List Issue)
deriving DecidableEq, Repr

namespace PayloadFault

/-- The fault in words. -/
def message : PayloadFault → String
  | .missing => "workflow is missing"
  | .notList => "invalid workflow: expected a list of nodes"
  | .invalid issues => "invalid workflow: " ++ messages issues

/-- The single issues in words. -/
def details : PayloadFault → List String
  | .invalid issues => issues.map Issue.message
  | _ => []

end PayloadFault

namespace Graph

/-- The list of nodes that a payload gives. -/
def nodesOf : Json → Json
  | .obj fields => (Fields.get? fields "workflow").getD ((Fields.get? fields "nodes").getD .null)
  | v => v

/-- Reads a graph. -/
def ofPayload (payload : Json) : Except PayloadFault Graph :=
  match nodesOf payload with
  | .null => .error .missing
  | .arr items =>
    match (Checked.all Node.read items).under (.key "nodes") with
    | .good nodes => .ok ⟨nodes⟩
    | .bad issues => .error (.invalid issues)
  | _ => .error .notList

/-- The first node with an id. -/
def node? (graph : Graph) (id : String) : Option Node := graph.nodes.find? (·.id == id)

/-- The ids of the nodes of a graph belong to nodes. -/
theorem isSome_node?_of_mem {graph : Graph} {node : Node} (h : node ∈ graph.nodes) :
    (graph.node? node.id).isSome := by
  rw [node?, List.find?_isSome]
  exact ⟨node, h, by simp⟩

/-- The nodes that start a run. -/
def triggers (graph : Graph) : List Node := graph.nodes.filter (·.kind == .trigger)

/-- The nodes whose value is the result of a run. -/
def outputs (graph : Graph) : List Node := graph.nodes.filter (·.kind == .output)

/-- The first trigger. -/
def trigger? (graph : Graph) : Option Node := graph.triggers.head?

/-- The nodes for whose variant no executor is made. -/
def unknown (graph : Graph) : List Node := graph.nodes.filter (!·.isKnown)

/-- The nodes that choose one of their successors. -/
def branching (graph : Graph) : List Node := graph.nodes.filter (·.isBranching)

/-- The ids of the graph, each one once, in the order of their first nodes. -/
def ids (graph : Graph) : List String := (graph.nodes.map (·.id)).eraseDups

end Graph

end WorkflowLab
