import WorkflowLab.Intake.Scalar

/-!
# Nodes

A node is one task of a workflow: a kind, a free service name within it, settings that only its executor reads, and the
ids of the nodes that follow it.

- `Kind`, `Node`, `Node.variant`: the types, and the pair of kind and service by which executors are chosen;
- `Node.isBranching`: whether the node chooses one of its successors;
- `Node.read`, `Node.listing`: from a document and back.
-/

namespace WorkflowLab

open Intake

/-- The kinds of nodes. -/
inductive Kind where
  | trigger
  | action
  | logic
  | output
deriving DecidableEq, Repr, Inhabited

namespace Kind

/-- The name of a kind in documents. -/
def name : Kind → String
  | .trigger => "trigger"
  | .action => "action"
  | .logic => "logic"
  | .output => "output"

/-- The name of a kind at the start of a message. -/
def title : Kind → String
  | .trigger => "Trigger"
  | .action => "Action"
  | .logic => "Logic"
  | .output => "Output"

/-- The kinds by name. -/
def byName : List (String × Kind) :=
  [("trigger", .trigger), ("action", .action), ("logic", .logic), ("output", .output)]

end Kind

/-- Kind and service. -/
abbrev Variant := String × String

/-- The services with an executor of their own. -/
inductive Service where
  | manual
  | webhook
  | openai
  | http
  | code
  | ifElse
deriving DecidableEq, Repr

namespace Service

/-- The name of a service in documents. -/
def name : Service → String
  | .manual => "manual"
  | .webhook => "webhook"
  | .openai => "openai"
  | .http => "http"
  | .code => "code"
  | .ifElse => "if-else"

/-- The kind of the nodes that a service belongs to. -/
def kind : Service → Kind
  | .manual => .trigger
  | .webhook => .trigger
  | .openai => .action
  | .http => .action
  | .code => .action
  | .ifElse => .logic

/-- The variant of the nodes of a service. -/
def variant (s : Service) : Variant := (s.kind.name, s.name)

/-- All services. -/
def all : List Service := [.manual, .webhook, .openai, .http, .code, .ifElse]

/-- The service of a variant. -/
def ofVariant? (v : Variant) : Option Service := all.find? (·.variant == v)

end Service

/-- One task of a workflow. -/
structure Node where
  id : String
  kind : Kind
  service : String
  config : Fields
  successors : List String
  position : Option Fields
  extra : Fields
deriving Inhabited

namespace Node

/-- The pair by which an executor is chosen. -/
def variant (node : Node) : Variant := (node.kind.name, node.service)

/-- An executor is made for nodes of this variant; output nodes share one. -/
def isKnown (node : Node) : Bool :=
  node.kind == .output || (Service.ofVariant? node.variant).isSome

/-- The node chooses one of its successors. -/
def isBranching (node : Node) : Bool := node.service == Service.ifElse.name

/-- The member `id`. -/
def idMember : Member := .plain "id"
/-- The member for the kind, also called the type. -/
def kindMember : Member := ⟨["kind", "type"], "kind"⟩
/-- The member `service`. -/
def serviceMember : Member := .plain "service"
/-- The member `config`. -/
def configMember : Member := .plain "config"
/-- The member for the ids of the successors, also called connections. -/
def successorsMember : Member := ⟨["successors", "connections"], "successors"⟩
/-- The member for the place on the canvas. -/
def positionMember : Member := .plain "position"

/-- The members of a node. -/
def form : List Member :=
  [idMember, kindMember, serviceMember, configMember, successorsMember, positionMember]

/-- Reads a node; settings and successors that count as nothing are empty. -/
def read : Json → Checked Node :=
  readForm "NodeSpec" fun fields =>
    Node.mk <$> idMember.required fields text
      <*> kindMember.required fields (choice Kind.byName)
      <*> serviceMember.optional fields "" text
      <*> configMember.optional fields [] (fun v => if v.truthy then map v else .good [])
      <*> successorsMember.optional fields [] (fun v => if v.truthy then list text v else .good [])
      <*> positionMember.optional fields none (nullable map)
      <*> .good (extras form fields)

/-- The node as a document. -/
def listing (node : Node) : Json :=
  Intake.listing .kept
    [(idMember, .str node.id), (kindMember, .str node.kind.name), (serviceMember, .str node.service),
      (configMember, .obj node.config), (successorsMember, .ofStrings node.successors),
      (positionMember, .ofOption (node.position.map .obj))]
    node.extra

end Node

end WorkflowLab
