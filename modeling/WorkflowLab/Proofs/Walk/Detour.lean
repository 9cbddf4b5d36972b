import Mathlib.Data.List.Forall2
import WorkflowLab.Proofs.Walk.Steps
import WorkflowLab.Proofs.Walk.Wiring

/-!
# Detours

One edge of a graph is led over a new node that has the old end of the edge as its only successor.

- `Detour`: the graph, the edge and the node; `Detour.graph`, `Detour.detoured`;
- `Rerouted`: nodes that differ in this edge; `find?_detoured`: what is looked up in both graphs;
- `Stands`: the targets that stand for one another; `stands_next`, `next_via`: those that follow nodes.
-/

namespace WorkflowLab

open Run

/-- **A detour**: the place of `v` in the successors of the node `u` is given to a new node `via`, which stands anywhere
among the nodes, has an id that nothing else has or names, is simulated and does not branch, and leads to `v`. -/
structure Detour where
  before : List Node
  u : Node
  after : List Node
  left : List String
  v : String
  right : List String
  via : Node
  front : List Node
  back : List Node
  successors : u.successors = left ++ v :: right
  fresh : ∀ node ∈ before ++ u :: after, node.id ≠ via.id ∧ via.id ∉ node.successors
  relay : via.kind = .action ∨ via.kind = .logic
  simulated : Service.ofVariant? via.variant = none
  plain : via.service ≠ Service.ifElse.name
  leads : via.successors = [v]
  place : front ++ back = before ++ { u with successors := left ++ via.id :: right } :: after

namespace Detour

variable (d : Detour)

/-- The graph without the detour. -/
def graph : Graph := ⟨d.before ++ d.u :: d.after⟩

/-- The graph with the detour. -/
def detoured : Graph := ⟨d.front ++ d.via :: d.back⟩

/-- An id in place of another: it is the same, or that of the new node in place of the end of the edge. -/
def Edge (a' a : String) : Prop := a' = a ∧ a ≠ d.via.id ∨ a' = d.via.id ∧ a = d.v

/-- A node in place of another: it differs in one edge at most. -/
structure Rerouted (node' node : Node) : Prop where
  unwired : node'.unwired = node.unwired
  new : node.id ≠ d.via.id
  successors : List.Forall₂ d.Edge node'.successors node.successors

/-- A target in place of another: the input is the same. -/
def Stands (target' target : Target) : Prop := d.Edge target'.1 target.1 ∧ target'.2 = target.2

variable {d}

theorem Rerouted.id {node' node : Node} (h : d.Rerouted node' node) : node'.id = node.id :=
  Node.id_eq_of_unwired h.unwired

theorem Rerouted.kind {node' node : Node} (h : d.Rerouted node' node) : node'.kind = node.kind :=
  Node.kind_eq_of_unwired h.unwired

theorem Rerouted.isBranching {node' node : Node} (h : d.Rerouted node' node) : node'.isBranching = node.isBranching := by
  rw [Node.isBranching, Node.isBranching, Node.service_eq_of_unwired h.unwired]

variable (d)

/-- The end of the edge is not the new node. -/
theorem v_ne_via : d.v ≠ d.via.id := by
  have hfresh := (d.fresh d.u (List.mem_append_right _ List.mem_cons_self)).2
  rw [d.successors] at hfresh
  intro heq
  exact hfresh (List.mem_append_right _ (heq ▸ List.mem_cons_self))

/-- Ids that are not that of the new node stand for themselves. -/
theorem edges_refl {ids : List String} (h : d.via.id ∉ ids) : List.Forall₂ d.Edge ids ids := by
  rw [List.forall₂_same]
  intro id hid
  exact .inl ⟨rfl, fun heq => h (heq ▸ hid)⟩

/-- The nodes of the graph stand for themselves. -/
theorem rerouted_self {node : Node} (h : node ∈ d.before ++ d.u :: d.after) : d.Rerouted node node where
  unwired := rfl
  new := (d.fresh node h).1
  successors := d.edges_refl (d.fresh node h).2

/-- The node with the new edge stands for the one with the old edge. -/
theorem rerouted_u : d.Rerouted { d.u with successors := d.left ++ d.via.id :: d.right } d.u := by
  have hmem : d.u ∈ d.before ++ d.u :: d.after := List.mem_append_right _ List.mem_cons_self
  obtain ⟨hid, hnew⟩ := d.fresh d.u hmem
  rw [d.successors, List.mem_append, List.mem_cons] at hnew
  push Not at hnew
  obtain ⟨hleft, -, hright⟩ := hnew
  refine ⟨rfl, hid, ?_⟩
  rw [d.successors]
  apply List.rel_append (d.edges_refl hleft)
  exact .cons (.inr ⟨rfl, rfl⟩) (d.edges_refl hright)

/-- All other nodes of the graph with the detour stand for those of the graph without it. -/
theorem rerouted_nodes : List.Forall₂ d.Rerouted (d.front ++ d.back) (d.before ++ d.u :: d.after) := by
  rw [d.place]
  apply List.rel_append
  · rw [List.forall₂_same]
    intro node hnode
    exact d.rerouted_self (List.mem_append_left _ hnode)
  · apply List.Forall₂.cons d.rerouted_u
    rw [List.forall₂_same]
    intro node hnode
    exact d.rerouted_self (List.mem_append_right _ (List.mem_cons_of_mem _ hnode))

/-! ## Look-ups -/

/-- What is found first in two lists whose items stand for one another. -/
theorem find?_of_forall₂ {α β : Type} {R : α → β → Prop} {test : α → Bool} {test' : β → Bool} {l : List α} {l' : List β}
    (h : List.Forall₂ R l l') (htest : ∀ a b, R a b → test a = test' b) :
    Option.Rel R (l.find? test) (l'.find? test') := by
  induction h with
  | nil => exact .none
  | @cons a b rest rest' hab _ ih =>
    rw [List.find?_cons, List.find?_cons, htest a b hab]
    cases test' b with
    | true => exact .some hab
    | false => exact ih

/-- Nothing stands for nothing. -/
theorem eq_none_of_rel {α β : Type} {R : α → β → Prop} {o : Option β} (h : Option.Rel R none o) : o = none := by
  cases h
  rfl

/-- Something stands for something. -/
theorem exists_of_rel {α β : Type} {R : α → β → Prop} {a : α} {o : Option β} (h : Option.Rel R (some a) o) :
    ∃ b, o = some b ∧ R a b := by
  cases h with
  | some hab => exact ⟨_, rfl, hab⟩

/-- **What is looked up in both graphs** by a test that the new node does not pass, and that sees only tasks. -/
theorem find?_detoured {test : Node → Bool} (hvia : test d.via = false)
    (htest : ∀ node' node, d.Rerouted node' node → test node' = test node) :
    Option.Rel d.Rerouted (d.detoured.nodes.find? test) (d.graph.nodes.find? test) := by
  have hskip : d.detoured.nodes.find? test = (d.front ++ d.back).find? test := by
    rw [detoured, List.find?_append, List.find?_append, List.find?_cons_of_neg (by simp [hvia])]
  rw [hskip]
  exact find?_of_forall₂ d.rerouted_nodes htest

/-- The nodes of an id that is not new. -/
theorem node?_detoured {id : String} (h : id ≠ d.via.id) :
    Option.Rel d.Rerouted (d.detoured.node? id) (d.graph.node? id) := by
  apply d.find?_detoured
  · simpa using Ne.symm h
  · intro node' node hrerouted
    rw [hrerouted.id]

/-- The first triggers. -/
theorem trigger?_detoured : Option.Rel d.Rerouted d.detoured.trigger? d.graph.trigger? := by
  rw [Graph.trigger?, Graph.trigger?, Graph.triggers, Graph.triggers, List.head?_filter, List.head?_filter]
  apply d.find?_detoured
  · rcases d.relay with hkind | hkind <;> rw [hkind] <;> rfl
  · intro node' node hrerouted
    rw [hrerouted.kind]

/-- Whatever stands for something is in the first list. -/
theorem exists_of_forall₂ {α β : Type} {R : α → β → Prop} {l : List α} {l' : List β} (h : List.Forall₂ R l l') {a : α}
    (ha : a ∈ l) : ∃ b, R a b := by
  induction h with
  | nil => cases ha
  | @cons first other rest rest' hfirst _ ih =>
    rcases List.mem_cons.mp ha with rfl | hrest
    · exact ⟨other, hfirst⟩
    · exact ih hrest

/-- The new id belongs to the new node. -/
theorem node?_via : d.detoured.node? d.via.id = some d.via := by
  have hfront : d.front.find? (·.id == d.via.id) = none := by
    rw [List.find?_eq_none]
    intro node' hnode' hid
    obtain ⟨node, hrerouted⟩ := exists_of_forall₂ d.rerouted_nodes (List.mem_append_left d.back hnode')
    exact hrerouted.new (hrerouted.id.symm.trans (beq_iff_eq.mp hid))
  rw [Graph.node?, detoured, List.find?_append, hfront, Option.none_or, List.find?_cons_of_pos (by simp)]

/-! ## What follows -/

section Following

variable {d} {σ τ : Type} {tour' : Tour σ} {tour : Tour τ}

/-- The same place in both lists of successors is chosen. -/
theorem edges_select {ids' ids : List String} (h : List.Forall₂ d.Edge ids' ids) (mode : BranchMode) (branch : Json) :
    List.Forall₂ d.Edge (mode.select ids' branch).toList (mode.select ids branch).toList := by
  have hhead : List.Forall₂ d.Edge ids'.head?.toList ids.head?.toList := by
    cases h with
    | nil => exact .nil
    | cons hfirst _ => exact .cons hfirst .nil
  cases mode with
  | legacy => exact hhead
  | strict =>
    unfold BranchMode.select
    cases takesFirst branch with
    | true => exact hhead
    | false =>
      cases h with
      | nil => exact .nil
      | cons _ hrest =>
        cases hrest with
        | nil => exact .nil
        | cons hsecond _ => exact .cons hsecond .nil

/-- Ids with the same input. -/
theorem stands_map {ids' ids : List String} (h : List.Forall₂ d.Edge ids' ids) (input : Json) :
    List.Forall₂ d.Stands (ids'.map fun id => (id, input)) (ids.map fun id => (id, input)) := by
  induction h with
  | nil => exact .nil
  | cons hfirst _ ih => exact .cons ⟨hfirst, rfl⟩ ih

/-- **The targets that follow nodes which stand for one another** stand for one another. -/
theorem stands_next (hmode : tour'.mode = tour.mode) {node' node : Node} (h : d.Rerouted node' node) (output : Json) :
    List.Forall₂ d.Stands (tour'.next node' output) (tour.next node output) := by
  unfold Tour.next
  rw [h.isBranching, hmode]
  split
  · exact stands_map (edges_select h.successors _ _) _
  · exact stands_map h.successors output

/-- The end of the edge follows the new node. -/
theorem next_via (tour : Tour σ) (output : Json) : tour.next d.via output = [(d.v, output)] := by
  have hplain : d.via.isBranching = false := by simpa [Node.isBranching] using d.plain
  unfold Tour.next
  rw [hplain, d.leads]
  rfl

end Following

end Detour

end WorkflowLab
