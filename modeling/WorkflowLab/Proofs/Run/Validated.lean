import WorkflowLab.Proofs.Graph.Validation
import WorkflowLab.Proofs.Run.Start
import WorkflowLab.Proofs.Run.Departure
import WorkflowLab.Proofs.Walk.Machine
import WorkflowLab.Proofs.Walk.Thinning

/-!
# Runs of graphs without findings

- `Tour.isSome_of_mem_arrivals`: in a graph whose successors are all found, a walk is called for ids of nodes only;
- `Tour.explore_of_connected`: so it does not matter what happens at other ids;
- `validate_protects`: validation finds nothing exactly in well-formed graphs, and a run of such a graph starts at its
  one trigger and misses no successor, unless strict services bar the graph.
-/

namespace WorkflowLab.Run

namespace Tour

variable {σ : Type} (tour : Tour σ)

/-- Every successor of a node of the graph is found. -/
def Connected : Prop := ∀ node ∈ tour.graph.nodes, ∀ id ∈ node.successors, (tour.graph.node? id).isSome

variable {tour}

/-- The targets that follow a node of a connected graph are found. -/
theorem Connected.isSome_of_mem_next (h : tour.Connected) {u : String} {node : Node}
    (hnode : tour.graph.node? u = some node) {output : Json} {target : Target} (htarget : target ∈ tour.next node output) :
    (tour.graph.node? target.1).isSome :=
  h node (List.mem_of_find?_eq_some hnode) target.1 (tour.mem_successors_of_mem_next htarget)

/-- **In a connected graph a walk is called for ids of nodes only.** -/
theorem Connected.isSome_of_mem_arrivals (h : tour.Connected) (state : σ) (start : Target)
    (hstart : (tour.graph.node? start.1).isSome) {caller : Option String} {target : Target}
    (hcall : (caller, target) ∈ tour.arrivals (.start state) none [start]) : (tour.graph.node? target.1).isSome := by
  rcases tour.mem_arrivals (tour.consistent_start state) hcall with ⟨-, hfirst⟩ | ⟨u, node, output, -, hnode, -, hnext⟩
  · rw [List.mem_singleton.mp hfirst]
    exact hstart
  · exact h.isSome_of_mem_next hnode hnext

/-- **In a connected graph it does not matter what happens at ids of no node.** -/
theorem Connected.explore_eq (h : tour.Connected) (missing : String → σ → σ) (p : Progress σ) {targets : List Target}
    (htargets : ∀ target ∈ targets, (tour.graph.node? target.1).isSome) :
    explore { tour with missing } p targets = tour.explore p targets := by
  induction p, targets using tour.explore_induction with
  | nil p => rw [explore_nil, explore_nil]
  | cons p target rest ihDeep ihWide =>
    obtain ⟨hfirst, hrest⟩ := List.forall_mem_cons.mp htargets
    obtain ⟨node, hnode⟩ := Option.isSome_iff_exists.mp hfirst
    have hstep : step { tour with missing } p target = tour.step p target := by
      unfold step
      rw [hnode]
      rfl
    -- what follows a node is found again, so the walk never comes to the one branch in which the two differ
    have hnext : ∀ next ∈ (tour.step p target).2, (tour.graph.node? next.1).isSome := by
      intro next hmem
      have hmove := tour.step_moves p target
      generalize (tour.step p target).1 = q, (tour.step p target).2 = targets at hmove hmem
      cases hmove with
      | stopped | again | missing | failed => cases hmem
      | passed _ _ hfound => exact h.isSome_of_mem_next hfound hmem
    rw [explore_cons, explore_cons, hstep, ihDeep hnext, ihWide hrest]

end Tour

namespace Runner

variable {graph : Graph}

/-- The one trigger of a graph is its first one. -/
theorem trigger?_of_triggers {trigger : Node} (h : graph.triggers = [trigger]) : graph.trigger? = some trigger := by
  rw [Graph.trigger?, h]
  rfl

/-- A run begins with the node that has the id of its trigger. -/
theorem head?_path_voyage (runner : Runner) {trigger node : Node} (hnode : graph.node? trigger.id = some node)
    (w : World) : (runner.voyage graph trigger w).path.head? = some node.id := by
  rw [voyage, Tour.explore_singleton _ _ _ _ rfl, Tour.step_start _ _ hnode]
  obtain ⟨later, hlater⟩ := (runner.tour graph).path_prefix_explore
    ((runner.tour graph).attend (.start (departure graph trigger w)) node .null).1
    ((runner.tour graph).attend (.start (departure graph trigger w)) node .null).2
  rw [← hlater, Tour.path_attend]
  rfl

/-- **Validation is sound and complete, and protects the walk.** It finds nothing exactly in well-formed graphs, in
which executors are made for all nodes if services are strict. A run of a graph without findings, with any executors and
any way of branching, starts at the one trigger; all its calls are for ids of nodes, and it does not matter what would
happen at other ids. Only when strict services bar the graph is it refused, and no node is run. -/
theorem validate_protects (graph : Graph) :
    (∀ strictServices, graph.validate strictServices = [] ↔
      graph.WellFormed ∧ (strictServices = true → ∀ node ∈ graph.nodes, node.isKnown = true)) ∧
    (graph.validate false = [] → ∃ trigger, graph.triggers = [trigger] ∧ ∀ (runner : Runner) (w : World),
      (runner.Bars graph → ∃ time,
        (runner.run graph w).1 = .refusal (StartFault.unsupported (runner.refused graph)).message time) ∧
      (¬runner.Bars graph →
        (runner.run graph w).1 = .ofWalk (runner.voyage graph trigger w) ∧
        graph.node? trigger.id = some trigger ∧
        (runner.run graph w).1.path.head? = some trigger.id ∧
        (∀ call ∈ (runner.tour graph).arrivals (.start (departure graph trigger w)) none [(trigger.id, .null)],
          (graph.node? call.2.1).isSome) ∧
        ∀ missing, Tour.explore { runner.tour graph with missing } (.start (departure graph trigger w))
          [(trigger.id, .null)] = runner.voyage graph trigger w)) := by
  refine ⟨graph.validate_eq_nil_iff, fun hvalid => ?_⟩
  obtain ⟨hgraph, -⟩ := (graph.validate_eq_nil_iff false).mp hvalid
  obtain ⟨trigger, htriggers⟩ := hgraph.oneTrigger
  have hfirst := trigger?_of_triggers htriggers
  have hmem : trigger ∈ graph.nodes := (List.mem_filter.mp (List.mem_of_head? hfirst)).1
  have hnode : graph.node? trigger.id = some trigger := Graph.node?_of_mem hgraph.distinct hmem
  refine ⟨trigger, htriggers, fun runner w => ⟨fun hbars => ?_, fun hfree => ?_⟩⟩
  · obtain ⟨trace, records, hrun⟩ := run_eq_refusal (locateTrigger_of_bars hbars hfirst) w
    exact ⟨_, congrArg Prod.fst hrun⟩
  · have hrun : (runner.run graph w).1 = .ofWalk (runner.voyage graph trigger w) :=
      congrArg Prod.fst (run_eq_walk (locateTrigger_of_not_bars hfree hfirst) w)
    have hconnected : (runner.tour graph).Connected := fun node hnode id hid => hgraph.isSome_node? hnode hid
    have hstart : ((runner.tour graph).graph.node? trigger.id).isSome := Graph.isSome_node?_of_mem hmem
    refine ⟨hrun, hnode, ?_, fun call hcall => ?_, fun missing => ?_⟩
    · rw [hrun]
      exact head?_path_voyage runner hnode w
    · exact hconnected.isSome_of_mem_arrivals _ (trigger.id, .null) hstart hcall
    · exact hconnected.explore_eq missing _ (by simpa using hstart)

/-- A trigger before an action of a service without executor. -/
def unserved : Graph where
  nodes := [
    { id := "t", kind := .trigger, service := "manual", config := [], successors := ["x"], position := none,
      extra := [] },
    { id := "x", kind := .action, service := "slack", config := [], successors := [], position := none, extra := [] }]

/-- Without strict services its run starts at the trigger. -/
theorem validate_protects_unserved :
    unserved.validate false = [] ∧ ¬(standard none offline .standard).Bars unserved ∧
      ((standard none offline .standard).run unserved dawn).1.path.head? = some "t" := by
  have hvalid : unserved.validate false = [] := by decide
  have hfree : ¬(standard none offline .standard).Bars unserved := fun hbars => absurd hbars.1 (by decide)
  obtain ⟨trigger, htriggers, hruns⟩ := (validate_protects unserved).2 hvalid
  obtain ⟨-, -, hhead, -⟩ := (hruns (standard none offline .standard) dawn).2 hfree
  have hid : ["t"] = [trigger.id] := congrArg (List.map Node.id) htriggers
  rw [hhead, (List.cons.inj hid).1]
  exact ⟨hvalid, hfree, rfl⟩

/-- With strict services it is refused, although validation finds nothing: its run starts nowhere. -/
theorem unserved_starts_nowhere :
    unserved.validate false = [] ∧ unserved.triggers.map (·.id) = ["t"] ∧
      ((standard none offline { Setup.standard with strictServices := true }).run unserved dawn).1.path = [] ∧
      ((standard none offline { Setup.standard with strictServices := true }).run unserved dawn).1.success = false := by
  have hbars : (standard none offline { Setup.standard with strictServices := true }).Bars unserved :=
    ⟨rfl, List.cons_ne_nil unserved.nodes[1] []⟩
  obtain ⟨trace, records, hrun⟩ := run_eq_refusal (locateTrigger_of_bars hbars rfl) dawn
  rw [hrun]
  exact ⟨by decide, by decide, rfl, rfl⟩

end Runner

end WorkflowLab.Run
