import WorkflowLab.Proofs.Journal.Blocks

/-!
# The first node of a run

A run looks for its trigger by kind, and then goes to it by id.

- `Graph.beforeTrigger`: the nodes that stand before the trigger;
- `node?_trigger_iff`: when the look-up by id finds the trigger again;
- `step_start`: the first step of a walk runs the node that this look-up finds;
- `run_first`: so a run begins with its trigger exactly when no node before the trigger has the same id.
-/

namespace WorkflowLab

namespace Graph

/-- The nodes before the first trigger. -/
def beforeTrigger (graph : Graph) : List Node := graph.nodes.takeWhile (·.kind != .trigger)

variable {graph : Graph} {trigger : Node}

/-- The first trigger stands behind the nodes that are none. -/
theorem nodes_eq_of_trigger? (h : graph.trigger? = some trigger) :
    trigger.kind = .trigger ∧ ∃ after, graph.nodes = graph.beforeTrigger ++ trigger :: after := by
  rw [trigger?, triggers, List.head?_filter, List.find?_eq_some_iff_append] at h
  obtain ⟨hkind, before, after, hnodes, hbefore⟩ := h
  refine ⟨by simpa using hkind, after, ?_⟩
  have hskip : ∀ other ∈ before, (other.kind != .trigger) = true := by simpa using hbefore
  rw [beforeTrigger, hnodes, List.takeWhile_append_of_pos hskip, List.takeWhile_cons_of_neg (by simpa using hkind),
    List.append_nil]

/-- The nodes before the trigger are of other kinds. -/
theorem kind_of_mem_beforeTrigger {other : Node} (h : other ∈ graph.beforeTrigger) : other.kind ≠ .trigger := by
  have hkind : (other.kind != .trigger) = true := List.all_eq_true.mp List.all_takeWhile other h
  simpa using hkind

/-- The id of the trigger leads to the first node before the trigger that has it, and else to the trigger. -/
theorem node?_trigger (h : graph.trigger? = some trigger) :
    graph.node? trigger.id = (graph.beforeTrigger.find? (·.id == trigger.id)).or (some trigger) := by
  obtain ⟨-, after, hnodes⟩ := nodes_eq_of_trigger? h
  rw [node?, hnodes, List.find?_append, List.find?_cons_of_pos (by simp)]

/-- **The id of the trigger leads to the trigger** exactly when no node before it has the same id, and otherwise to a
node of another kind. -/
theorem node?_trigger_iff (h : graph.trigger? = some trigger) {node : Node}
    (hnode : graph.node? trigger.id = some node) :
    (node = trigger ↔ ∀ other ∈ graph.beforeTrigger, other.id ≠ trigger.id) ∧
      (node = trigger ↔ node.kind = .trigger) := by
  have hkind := (nodes_eq_of_trigger? h).1
  rw [node?_trigger h] at hnode
  cases hearlier : graph.beforeTrigger.find? (·.id == trigger.id) with
  | none =>
    rw [hearlier, Option.none_or] at hnode
    obtain rfl := Option.some.inj hnode
    have hnone : ∀ other ∈ graph.beforeTrigger, other.id ≠ trigger.id := by
      simpa using List.find?_eq_none.mp hearlier
    exact ⟨iff_of_true rfl hnone, iff_of_true rfl hkind⟩
  | some first =>
    rw [hearlier, Option.some_or] at hnode
    obtain rfl := Option.some.inj hnode
    have hmem := List.mem_of_find?_eq_some hearlier
    have hother : first.kind ≠ .trigger := kind_of_mem_beforeTrigger hmem
    have hid : first.id = trigger.id := by simpa using List.find?_some hearlier
    have hne : first ≠ trigger := fun heq => hother (heq ▸ hkind)
    exact ⟨iff_of_false hne fun hall => hall first hmem hid, iff_of_false hne hother⟩

end Graph

namespace Run

/-- The first step of a walk runs the node that has the id of its target. -/
theorem Tour.step_start {σ : Type} (tour : Tour σ) (state : σ) {id : String} {node : Node}
    (hnode : tour.graph.node? id = some node) (input : Json) :
    tour.step (.start state) (id, input) = tour.attend (.start state) node input := by
  simp [step, Progress.start, Progress.visited, Progress.path, hnode]

namespace Runner

/-- **What a run begins with**: the first node that has the id of its trigger. So it begins with the trigger exactly
when no node before the trigger has the same id; otherwise it begins with a node of another kind. -/
theorem run_first (runner : Runner) {graph : Graph} {trigger : Node}
    (htrigger : runner.locateTrigger graph = .ok trigger) (w : World) :
    graph.trigger? = some trigger ∧ ∃ node start, graph.node? trigger.id = some node ∧
      (runner.run graph w).1 = .ofWalk
        ((runner.tour graph).explore ((runner.tour graph).attend (.start start) node .null).1
          ((runner.tour graph).attend (.start start) node .null).2) ∧
      (runner.run graph w).1.path.head? = some node.id ∧
      (node = trigger ↔ ∀ other ∈ graph.beforeTrigger, other.id ≠ trigger.id) ∧
      (node = trigger ↔ node.kind = .trigger) := by
  have hfirst := trigger?_of_locateTrigger htrigger
  obtain ⟨node, hnode⟩ := Option.isSome_iff_exists.mp (isSome_node?_of_locateTrigger htrigger)
  obtain ⟨start, p, -, -, hwalk, hrun⟩ := run_of_ok htrigger w
  rw [Tour.explore_singleton _ _ _ _ rfl, Tour.step_start _ start hnode .null] at hwalk
  obtain ⟨later, hlater⟩ := (runner.tour graph).path_prefix_explore
    ((runner.tour graph).attend (.start start) node .null).1 ((runner.tour graph).attend (.start start) node .null).2
  have hhead : p.path.head? = some node.id := by
    rw [hwalk, ← hlater, Tour.path_attend]
    rfl
  rw [hrun]
  exact ⟨hfirst, node, start, hnode, congrArg RunResult.ofWalk hwalk, hhead, Graph.node?_trigger_iff hfirst hnode⟩

/-- A node before two triggers, the second of which has the id of the first. -/
def twice : Graph where
  nodes := [
    { id := "a", kind := .action, service := "code", config := [], successors := [], position := none, extra := [] },
    { id := "t", kind := .trigger, service := "manual", config := [], successors := ["a"], position := none,
      extra := [] },
    { id := "t", kind := .trigger, service := "webhook", config := [], successors := [], position := none,
      extra := [] }]

/-- A run begins with the first trigger, whatever stands after it under the same id. -/
theorem run_first_twice : ∃ trigger node start, (standard none offline .standard).locateTrigger twice = .ok trigger ∧
    ((standard none offline .standard).run twice dawn).1 = .ofWalk
      (((standard none offline .standard).tour twice).explore
        (((standard none offline .standard).tour twice).attend (.start start) node .null).1
        (((standard none offline .standard).tour twice).attend (.start start) node .null).2) ∧
    node = trigger := by
  have htrigger : (standard none offline .standard).locateTrigger twice = .ok _ := rfl
  obtain ⟨-, node, start, -, hrun, -, hiff, -⟩ := run_first (standard none offline .standard) htrigger dawn
  exact ⟨_, node, start, htrigger, hrun, hiff.mpr (by decide)⟩

/-- An action with the id of the trigger after it. -/
def shadowed : Graph where
  nodes := [
    { id := "t", kind := .action, service := "slack", config := [], successors := [], position := none, extra := [] },
    { id := "t", kind := .trigger, service := "manual", config := [], successors := [], position := none,
      extra := [] }]

/-- A run of this graph is accepted and succeeds, but its trigger does not run: the action does. -/
theorem shadowed_skips_trigger :
    (∃ trigger, (standard none offline .standard).locateTrigger shadowed = .ok trigger ∧ trigger.kind = .trigger) ∧
      ((standard none offline .standard).run shadowed dawn).1.success = true ∧
      ((standard none offline .standard).run shadowed dawn).1.path = ["t"] ∧
      ((standard none offline .standard).run shadowed dawn).1.log.map (·.message) = ["Action slack simulated"] := by
  have htrigger : (standard none offline .standard).locateTrigger shadowed = .ok _ := rfl
  refine ⟨⟨_, htrigger, rfl⟩, ?_⟩
  obtain ⟨start, p, hlog, -, hwalk, hrun⟩ := run_of_ok htrigger dawn
  rw [Tour.explore_singleton _ _ _ [] rfl, Tour.explore_nil] at hwalk
  obtain ⟨entry, hadded, hmessage⟩ : ∃ entry : Entry, p.state.log = start.log ++ [entry] ∧
      entry.message = "Action slack simulated" := by
    rw [hwalk]
    exact ⟨_, rfl, rfl⟩
  rw [hrun]
  refine ⟨by rw [hwalk]; rfl, by rw [hwalk]; rfl, ?_⟩
  show p.state.log.map (·.message) = _
  rw [hadded, hlog, List.nil_append, List.map_singleton, hmessage]

end Runner

end Run

end WorkflowLab
