import WorkflowLab.Proofs.Run.Departure
import WorkflowLab.Proofs.Run.Start
import WorkflowLab.Proofs.Walk.Thinning

/-!
# Further triggers

A run starts at the first trigger of its graph. The walk does not look at the kinds of the nodes that it comes to, so
another trigger is run like any other node once an executed node hands on to it.

- `exists_active_of_mem_path`: whatever a walk runs, but its start, has an active edge from a node that it has run;
- `run_triggers`: so the further triggers that run are those to which executed nodes hand on;
- `run_one_trigger`: when no successor list names a trigger, the first one runs alone.
-/

namespace WorkflowLab

/-- A trigger other than the first one, that its id leads to, has another id. -/
theorem Graph.id_ne_of_second_trigger {graph : Graph} {trigger other : Node} {v : String}
    (htrigger : graph.trigger? = some trigger) (hnode : graph.node? v = some other) (hkind : other.kind = .trigger)
    (hother : other ≠ trigger) : v ≠ trigger.id := by
  rintro rfl
  exact hother ((Graph.node?_trigger_iff htrigger hnode).2.mpr hkind)

namespace Run

namespace Tour

variable {σ : Type} (tour : Tour σ)

/-- **Whatever a walk runs, but its start, an executed node has handed on to.** -/
theorem exists_active_of_mem_path {state : σ} {start : String} {input : Json} {v : String}
    (hv : v ∈ (tour.explore (.start state) [(start, input)]).path) (hne : v ≠ start) :
    ∃ u ∈ (tour.explore (.start state) [(start, input)]).path,
      tour.Active (tour.explore (.start state) [(start, input)]).outputs u v := by
  have hconsistent := tour.consistent_explore (tour.consistent_start state) [(start, input)]
  -- the start and the ends of active edges are a closed set
  have hclosed : tour.Closed (tour.explore (.start state) [(start, input)]).outputs
      {id | id = start ∨ ∃ u ∈ (tour.explore (.start state) [(start, input)]).path,
        tour.Active (tour.explore (.start state) [(start, input)]).outputs u id} := by
    intro u _ id hactive
    obtain ⟨node, output, -, hout, -⟩ := tour.active_iff.mp hactive
    exact .inr ⟨u, hconsistent.mem_path tour (Fields.mem_keys_iff.mpr ⟨output, hout⟩), hactive⟩
  have htargets : ∀ target ∈ [(start, input)], (tour.graph.node? target.1).isSome →
      target.1 ∈ {id | id = start ∨ ∃ u ∈ (tour.explore (.start state) [(start, input)]).path,
        tour.Active (tour.explore (.start state) [(start, input)]).outputs u id} := by
    intro target htarget _
    rw [List.mem_singleton.mp htarget]
    exact .inl rfl
  exact (tour.mem_of_closed (tour.consistent_start state) (by simp) htargets hclosed v hv).resolve_left hne

end Tour

namespace Runner

variable (runner : Runner) {graph : Graph} {trigger : Node}

/-- **Which further triggers run.** A trigger other than the first one is executed only when an executed node hands on
to it; and in a run that comes to its end, whenever one does. -/
theorem run_triggers (htrigger : runner.locateTrigger graph = .ok trigger) (w : World) {v : String} {other : Node}
    (hnode : graph.node? v = some other) (hkind : other.kind = .trigger) (hother : other ≠ trigger) :
    (v ∈ (runner.run graph w).1.path →
        ∃ u ∈ (runner.run graph w).1.path, (runner.tour graph).Active (runner.run graph w).1.outputs u v) ∧
      ((runner.run graph w).1.success = true →
        (v ∈ (runner.run graph w).1.path ↔
          ∃ u ∈ (runner.run graph w).1.path, (runner.tour graph).Active (runner.run graph w).1.outputs u v)) := by
  have hne := Graph.id_ne_of_second_trigger (trigger?_of_locateTrigger htrigger) hnode hkind hother
  rw [run_eq_walk htrigger]
  have honly (hv : v ∈ (runner.voyage graph trigger w).path) :=
    (runner.tour graph).exists_active_of_mem_path hv hne
  refine ⟨honly, fun hsuccess => ⟨honly, ?_⟩⟩
  rintro ⟨u, hu, hactive⟩
  have hend : (runner.voyage graph trigger w).fault = none := by
    cases hfault : (runner.voyage graph trigger w).fault with
    | none => rfl
    | some message =>
      rw [RunResult.success_of_fault hfault] at hsuccess
      cases hsuccess
  exact (runner.tour graph).closed_path_explore hend u hu v hactive

/-- **The first trigger runs alone** when no successor list names another one. -/
theorem run_one_trigger (htrigger : runner.locateTrigger graph = .ok trigger) (w : World) {v : String} {other : Node}
    (hnode : graph.node? v = some other) (hkind : other.kind = .trigger) (hother : other ≠ trigger)
    (hunnamed : ∀ node ∈ graph.nodes, v ∉ node.successors) : v ∉ (runner.run graph w).1.path := by
  have hne := Graph.id_ne_of_second_trigger (trigger?_of_locateTrigger htrigger) hnode hkind hother
  rw [run_eq_walk htrigger]
  intro hv
  obtain ⟨u, -, hactive⟩ := (runner.tour graph).exists_active_of_mem_path hv hne
  obtain ⟨node, output, hfound, -, hmem, -⟩ := (runner.tour graph).active_iff.mp hactive
  obtain ⟨target, htarget, rfl⟩ := List.mem_map.mp hmem
  exact hunnamed node (List.mem_of_find?_eq_some hfound) ((runner.tour graph).mem_successors_of_mem_next htarget)

/-- A manual trigger that leads to a webhook. -/
def relayed : Graph where
  nodes := [
    { id := "t1", kind := .trigger, service := "manual", config := [], successors := ["t2"], position := none,
      extra := [] },
    { id := "t2", kind := .trigger, service := "webhook", config := [], successors := [], position := none,
      extra := [] }]

/-- Its path. -/
theorem path_relayed : ((standard none offline .standard).run relayed dawn).1.path = ["t1", "t2"] := by
  have htrigger : (standard none offline .standard).locateTrigger relayed = .ok _ := rfl
  rw [run_eq_walk htrigger, voyage, Tour.explore_of_within rfl]
  rfl

/-- The webhook runs because the manual trigger hands on to it. -/
theorem run_triggers_relayed :
    ∃ trigger other, (standard none offline .standard).locateTrigger relayed = .ok trigger ∧
      relayed.node? "t2" = some other ∧ other.kind = .trigger ∧ other ≠ trigger ∧
      ∃ u ∈ ((standard none offline .standard).run relayed dawn).1.path,
        ((standard none offline .standard).tour relayed).Active
          ((standard none offline .standard).run relayed dawn).1.outputs u "t2" := by
  have htrigger : (standard none offline .standard).locateTrigger relayed = .ok _ := rfl
  have hnode : relayed.node? "t2" = some _ := rfl
  have hother : relayed.nodes[1] ≠ relayed.nodes[0] := fun heq => absurd (congrArg Node.id heq) (by decide)
  have hrun := (run_triggers (standard none offline .standard) htrigger dawn hnode rfl hother).1
  exact ⟨_, _, htrigger, hnode, rfl, hother, hrun (by rw [path_relayed]; decide)⟩

/-- Validation says that only the first trigger will run, but both do. -/
theorem relayed_runs_two_triggers :
    relayed.trigger?.map (·.id) = some "t1" ∧
      "Workflow has 2 trigger nodes (t1, t2); only 't1' will run" ∈ relayed.validate false ∧
      (relayed.node? "t2").map (·.kind) = some .trigger ∧
      "t2" ∈ ((standard none offline .standard).run relayed dawn).1.path := by
  refine ⟨rfl, ?_, rfl, by rw [path_relayed]; decide⟩
  decide

end Runner

end Run

end WorkflowLab
