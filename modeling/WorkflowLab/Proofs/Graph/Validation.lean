import Mathlib.Data.List.Nodup
import WorkflowLab.Graph.Validation

/-!
# Graphs without findings

- `Graph.WellFormed`: a graph with one trigger, ids that occur once, and successors that are ids of its nodes;
- `WellFormed.node?_of_mem`: every node of such a graph is found under its id;
- `triggerFindings_eq_nil_iff`, `duplicateFindings_eq_nil_iff`, `successorFindings_eq_nil_iff`,
  `serviceFindings_eq_nil_iff`: when the parts of a validation find nothing;
- `validate_eq_nil_iff`: a validation finds nothing exactly when the graph is well-formed, and, with strict services,
  an executor is made for every node.
-/

namespace WorkflowLab.Graph

variable {graph : Graph}

/-- **A graph that validation has nothing to say about.** A successor may be any node of the list, also an earlier one
or the node itself. -/
structure WellFormed (graph : Graph) : Prop where
  nonempty : graph.nodes ≠ []
  oneTrigger : ∃ trigger, graph.triggers = [trigger]
  distinct : (graph.nodes.map (·.id)).Nodup
  connected : ∀ node ∈ graph.nodes, ∀ id ∈ node.successors, ∃ other ∈ graph.nodes, other.id = id

/-- When ids occur once, every node is found under its id. -/
theorem node?_of_mem (hdistinct : (graph.nodes.map (·.id)).Nodup) {node : Node} (h : node ∈ graph.nodes) :
    graph.node? node.id = some node := by
  obtain ⟨found, hfound⟩ := Option.isSome_iff_exists.mp (isSome_node?_of_mem h)
  have hid : found.id = node.id := by simpa using List.find?_some hfound
  rw [hfound, List.inj_on_of_nodup_map hdistinct (List.mem_of_find?_eq_some hfound) h hid]

/-- The successors of the nodes of a well-formed graph are found. -/
theorem WellFormed.isSome_node? (h : graph.WellFormed) {node : Node} (hnode : node ∈ graph.nodes) {id : String}
    (hid : id ∈ node.successors) : (graph.node? id).isSome := by
  obtain ⟨other, hother, rfl⟩ := h.connected node hnode id hid
  rw [node?_of_mem h.distinct hother]
  rfl

/-! ## The parts of a validation -/

/-- Nothing is found about triggers when there is one. -/
theorem triggerFindings_eq_nil_iff :
    graph.triggerFindings = [] ↔ graph.nodes ≠ [] ∧ ∃ trigger, graph.triggers = [trigger] := by
  unfold triggerFindings
  cases hnodes : graph.nodes with
  | nil => simp
  | cons first rest =>
    have hsome : (first :: rest : List Node) ≠ [] := List.cons_ne_nil first rest
    rw [List.isEmpty_cons, if_neg Bool.false_ne_true]
    cases htriggers : graph.triggers with
    | nil => simp
    | cons trigger others =>
      cases others with
      | nil => exact iff_of_true rfl ⟨hsome, trigger, rfl⟩
      | cons second more => simp

/-- Nothing is found about ids when each occurs once, and none of them among the earlier ones. -/
theorem duplicateFindings_eq_nil_iff {seen : List String} {nodes : List Node} :
    duplicateFindings seen nodes = [] ↔ (nodes.map (·.id)).Nodup ∧ ∀ node ∈ nodes, node.id ∉ seen := by
  induction nodes generalizing seen with
  | nil => simp [duplicateFindings]
  | cons node rest ih =>
    rw [List.map_cons, List.nodup_cons, List.forall_mem_cons]
    by_cases hseen : node.id ∈ seen
    · simp [duplicateFindings, hseen]
    · have hlater : duplicateFindings seen (node :: rest) = duplicateFindings (node.id :: seen) rest := by
        simp [duplicateFindings, hseen]
      rw [hlater, ih]
      constructor
      · rintro ⟨hnodup, hnew⟩
        have hfirst : node.id ∉ rest.map (·.id) := by
          intro hmem
          obtain ⟨other, hother, hid⟩ := List.mem_map.mp hmem
          exact hnew other hother (hid ▸ List.mem_cons_self)
        exact ⟨⟨hfirst, hnodup⟩, hseen, fun other hother hmem => hnew other hother (List.mem_cons_of_mem _ hmem)⟩
      · rintro ⟨⟨hfirst, hnodup⟩, -, hnew⟩
        refine ⟨hnodup, fun other hother hmem => ?_⟩
        rcases List.mem_cons.mp hmem with hid | hmem
        · exact hfirst (hid ▸ List.mem_map_of_mem hother)
        · exact hnew other hother hmem

/-- Nothing is found about successors when all are ids of nodes. -/
theorem successorFindings_eq_nil_iff :
    graph.successorFindings = [] ↔
      ∀ node ∈ graph.nodes, ∀ id ∈ node.successors, ∃ other ∈ graph.nodes, other.id = id := by
  simp [successorFindings, List.flatMap_eq_nil_iff]

/-- Nothing is found about services when executors are made for all nodes. -/
theorem serviceFindings_eq_nil_iff : graph.serviceFindings = [] ↔ ∀ node ∈ graph.nodes, node.isKnown = true := by
  simp [serviceFindings, unknown]

/-! ## The whole validation -/

/-- **Validation is sound and complete.** -/
theorem validate_eq_nil_iff (graph : Graph) (strictServices : Bool) :
    graph.validate strictServices = [] ↔
      graph.WellFormed ∧ (strictServices = true → ∀ node ∈ graph.nodes, node.isKnown = true) := by
  have hservices : (if strictServices then graph.serviceFindings else []) = [] ↔
      (strictServices = true → ∀ node ∈ graph.nodes, node.isKnown = true) := by
    cases strictServices with
    | false => simp
    | true => simp [serviceFindings_eq_nil_iff]
  rw [validate, findings, List.map_eq_nil_iff, List.append_eq_nil_iff, List.append_eq_nil_iff,
    List.append_eq_nil_iff, triggerFindings_eq_nil_iff, duplicateFindings_eq_nil_iff, successorFindings_eq_nil_iff,
    hservices]
  constructor
  · rintro ⟨⟨⟨⟨hnonempty, htrigger⟩, hdistinct, -⟩, hconnected⟩, hknown⟩
    exact ⟨⟨hnonempty, htrigger, hdistinct, hconnected⟩, hknown⟩
  · rintro ⟨hgraph, hknown⟩
    exact ⟨⟨⟨⟨hgraph.nonempty, hgraph.oneTrigger⟩, hgraph.distinct, fun _ _ => List.not_mem_nil⟩, hgraph.connected⟩,
      hknown⟩

end WorkflowLab.Graph
