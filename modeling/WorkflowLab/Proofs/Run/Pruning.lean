import WorkflowLab.Proofs.Journal.Blocks
import WorkflowLab.Proofs.Run.Departure
import WorkflowLab.Proofs.Run.Twins
import WorkflowLab.Proofs.Walk.Thinning

/-!
# Runs of pruned graphs

- `World.Retold`: worlds that differ in trace and records, and in the successors of the nodes that were run;
- `voyage_prune`: a walk does the same in a graph without its dead parts, if executors ignore successors;
- `run_prune`: so do runs;
- `dead_parts_told`: what an executor that counts successors tells of dead parts, and an action that chooses.
-/

namespace WorkflowLab.Run

/-- The world but for trace, records and the id of runs. The nodes of tasks may differ in successors. -/
structure World.Retold (w w' : World) : Prop where
  clock : w'.clock = w.clock
  log : w'.log = w.log
  calls : w'.calls = w.calls
  guests : w'.guests.map Task.unwired = w.guests.map Task.unwired

namespace World.Retold

variable {w w' v v' : World}

/-- Worlds that go on in step remain the same but for trace and records. -/
theorem of_inStep (h : w.Retold w') (hstep : InStep w w' v v') : v.Retold v' :=
  ⟨hstep.clock, hstep.log_eq h.log, hstep.calls_eq h.calls, hstep.guests_eq h.guests⟩

/-- Two runs begin in such worlds. -/
theorem departure (graph graph' : Graph) (trigger trigger' : Node) (w : World) :
    (Runner.departure graph trigger w).Retold (Runner.departure graph' trigger' w) := by
  obtain ⟨trace, records, h⟩ := Runner.departure_eq graph trigger w
  obtain ⟨trace', records', h'⟩ := Runner.departure_eq graph' trigger' w
  rw [h, h']
  exact ⟨rfl, rfl, rfl, rfl⟩

end World.Retold

/-- Walks that have done the same, in worlds that differ in trace and records, have the same result. -/
theorem RunResult.ofWalk_of_alike {p p' : Progress World} (h : p.Alike World.Retold p') : ofWalk p' = ofWalk p := by
  unfold ofWalk
  rw [h.outputs, h.state.log, h.path, h.fault, h.final]

namespace Runner

/-- What two configurations have in common when the second walk is in the pruned graph: the same was done, all targets
lie ahead of the start, and the second stack is thinned. -/
structure Abreast (runner : Runner) (graph : Graph) (start : String) (p : Progress World) (stack : List Target)
    (p' : Progress World) (stack' : List Target) : Prop where
  alike : p.Alike World.Retold p'
  ahead : ∀ target ∈ stack, graph.Reaches start target.1
  thinned : Tour.Thinned ((runner.tour graph).Idle p) stack stack'

/-- A step on a target that was left out does nothing that shows. -/
theorem Abreast.drop {runner : Runner} {graph : Graph} {start : String} {p q p' : Progress World} {target : Target}
    {targets rest stack' : List Target} (halike : p.Alike World.Retold p')
    (hahead : ∀ other ∈ target :: rest, graph.Reaches start other.1)
    (hmove : (runner.tour graph).Moves p target q targets) (hidle : (runner.tour graph).Idle p target.1)
    (hthinned : Tour.Thinned ((runner.tour graph).Idle p) rest stack') :
    runner.Abreast graph start q (targets ++ rest) p' stack' := by
  have hrest : ∀ other ∈ rest, graph.Reaches start other.1 :=
    fun other hother => hahead other (List.mem_cons_of_mem _ hother)
  have hthinned := hthinned.mono fun id hid => hid.step _ hmove
  obtain ⟨rfl, rfl | rfl⟩ := hidle.moves _ hmove
  · exact ⟨halike, hrest, hthinned⟩
  · have hstate : World.Retold ((runner.tour graph).missing target.1 p.state) p'.state :=
      ⟨halike.state.clock, halike.state.log, halike.state.calls, halike.state.guests⟩
    exact ⟨⟨halike.handled, halike.outputs, halike.final, halike.fault, hstate⟩, hrest, hthinned⟩

/-- A step on a target of both stacks is taken by both walks. -/
theorem Abreast.keep {runner : Runner} (hignores : runner.registry.IgnoresWiring) {graph : Graph} {start : String}
    (hstart : (graph.node? start).isSome) {p q p' : Progress World} {target : Target}
    {targets rest rest' : List Target} (halike : p.Alike World.Retold p')
    (hahead : ∀ other ∈ target :: rest, graph.Reaches start other.1)
    (hmove : (runner.tour graph).Moves p target q targets)
    (hthinned : Tour.Thinned (fun id => (runner.tour graph).Idle p id ∨ id = target.1) rest rest') :
    ∃ q' targets', (runner.tour (graph.prune start)).Moves p' target q' targets' ∧
      runner.Abreast graph start q (targets ++ rest) q' (targets' ++ rest') := by
  have htarget : graph.Reaches start target.1 := hahead target List.mem_cons_self
  have hrest : ∀ other ∈ rest, graph.Reaches start other.1 :=
    fun other hother => hahead other (List.mem_cons_of_mem _ hother)
  have hthinned : Tour.Thinned ((runner.tour graph).Idle q) rest rest' := by
    apply hthinned.mono
    rintro id (hid | rfl)
    · exact hid.step _ hmove
    · exact hmove.idle
  have hmissing : ∀ {s s'}, World.Retold s s' →
      World.Retold ((runner.tour graph).missing target.1 s) ((runner.tour (graph.prune start)).missing target.1 s') :=
    fun h => ⟨h.clock, h.log, h.calls, h.guests⟩
  have hhandle : ∀ node, graph.node? target.1 = some node → target.1 ∉ p.path →
      SameResult World.Retold ((runner.tour graph).handle node target.2 p.state)
        ((runner.tour (graph.prune start)).handle (graph.thin node) target.2 p'.state) := by
    intro node _ _
    obtain ⟨hsame, hstep⟩ := handle_unwired hignores target.2 (graph.unwired_thin node) halike.state.clock
      halike.state.calls halike.state.guests
    exact ⟨hsame, halike.state.of_inStep hstep⟩
  obtain ⟨q', targets', hmove', halike', hboth⟩ := hmove.follow halike graph.thin_id graph.thin_kind
    (Graph.node?_prune hstart htarget) hmissing hhandle
  refine ⟨q', targets', hmove', halike', ?_, ?_⟩
  · intro other hother
    rcases List.mem_append.mp hother with hnew | hold
    · rcases hboth with ⟨rfl, -⟩ | ⟨node, output, hnode, -, -, rfl, -⟩
      · cases hnew
      · exact .step htarget hnode ((runner.tour graph).mem_successors_of_mem_next hnew)
    · exact hrest other hold
  · rcases hboth with ⟨rfl, rfl⟩ | ⟨node, output, -, -, -, rfl, rfl⟩
    · exact hthinned
    · apply (runner.tour graph).thinned_next rfl
      · exact fun id hnone => .inr (.inr hnone)
      · exact hthinned

/-- **A step is taken by both walks, or by the first one alone and nothing comes of it.** -/
theorem Abreast.step {runner : Runner} (hignores : runner.registry.IgnoresWiring) {graph : Graph} {start : String}
    (hstart : (graph.node? start).isSome) {p q p' : Progress World} {target : Target}
    {targets rest stack' : List Target} (h : runner.Abreast graph start p (target :: rest) p' stack')
    (hmove : (runner.tour graph).Moves p target q targets) :
    runner.Abreast graph start q (targets ++ rest) p' stack' ∨
      ∃ target' rest' q' targets', stack' = target' :: rest' ∧
        (runner.tour (graph.prune start)).Moves p' target' q' targets' ∧
        runner.Abreast graph start q (targets ++ rest) q' (targets' ++ rest') := by
  obtain ⟨halike, hahead, hthinned⟩ := h
  cases hthinned with
  | drop target hidle hrest => exact .inl (.drop halike hahead hmove hidle hrest)
  | keep target hrest =>
    obtain ⟨q', targets', hmove', hnext⟩ := Abreast.keep hignores hstart halike hahead hmove hrest
    exact .inr ⟨_, _, q', targets', rfl, hmove', hnext⟩

/-- **A walk does the same without the dead parts of its graph.** -/
theorem voyage_prune {runner : Runner} (hignores : runner.registry.IgnoresWiring) {graph : Graph} {trigger : Node}
    (htrigger : graph.trigger? = some trigger) (w : World) :
    (runner.voyage graph trigger w).Alike World.Retold
      (runner.voyage (graph.prune trigger.id) (graph.thin trigger) w) := by
  have hstart : (graph.node? trigger.id).isSome :=
    Graph.isSome_node?_of_mem (List.mem_filter.mp (List.mem_of_head? htrigger)).1
  have hfirst : runner.Abreast graph trigger.id (.start (departure graph trigger w)) [(trigger.id, .null)]
      (.start (departure (graph.prune trigger.id) (graph.thin trigger) w)) [((graph.thin trigger).id, .null)] := by
    refine ⟨.start (.departure _ _ _ _ _), ?_, ?_⟩
    · intro target htarget
      rw [List.mem_singleton.mp htarget]
      exact .start
    · rw [graph.thin_id]
      exact .keep _ .nil
  obtain ⟨last, left, ⟨halike, -, hnothing⟩, hend⟩ := Tour.explore_follows (Abreast.step hignores hstart) hfirst
  cases hnothing
  rw [voyage, voyage, hend, Tour.explore_nil]
  exact halike

/-- **Dead parts of a graph do not matter to executors that ignore successors**: without the nodes to which the trigger
does not lead, and without the successors that are not in the graph or repeat others, the run has the same result and
makes the same calls. Where a node branches, its list stays as it is. -/
theorem run_prune (runner : Runner) (hignores : runner.registry.IgnoresWiring)
    (hservices : runner.strictServices = false) {graph : Graph} {trigger : Node}
    (htrigger : graph.trigger? = some trigger) (w : World) :
    (runner.run (graph.prune trigger.id) w).1 = (runner.run graph w).1 ∧
      (runner.run (graph.prune trigger.id) w).2.calls = (runner.run graph w).2.calls := by
  have hlocate : runner.locateTrigger graph = .ok trigger := locateTrigger_of_trigger? hservices htrigger
  have hlocate' : runner.locateTrigger (graph.prune trigger.id) = .ok (graph.thin trigger) :=
    locateTrigger_of_trigger? hservices (Graph.trigger?_prune htrigger)
  have halike := voyage_prune hignores htrigger w
  rw [run_eq_walk hlocate, run_eq_walk hlocate']
  refine ⟨RunResult.ofWalk_of_alike halike, ?_⟩
  rw [calls_noteEnd, calls_noteEnd, halike.state.calls]

/-- A graph with a node that is never reached, a successor that is not there, and one that repeats another. -/
def overgrown : Graph where
  nodes := [
    { id := "t", kind := .trigger, service := "manual", config := [], successors := ["ghost", "o", "o", "t"],
      position := none, extra := [] },
    { id := "a", kind := .action, service := "openai", config := [], successors := ["t"], position := none,
      extra := [] },
    { id := "o", kind := .output, service := "", config := [], successors := [], position := none, extra := [] }]

/-- The pruned graph has two nodes, and its run is that of the whole. -/
theorem run_prune_overgrown :
    (overgrown.prune "t").nodes.map (fun node => (node.id, node.successors)) = [("t", ["o", "t"]), ("o", [])] ∧
      ((standard none offline .standard).run (overgrown.prune "t") dawn).1 =
        ((standard none offline .standard).run overgrown dawn).1 := by
  obtain ⟨trigger, htrigger, hid⟩ : ∃ trigger, overgrown.trigger? = some trigger ∧ trigger.id = "t" := ⟨_, rfl, rfl⟩
  have hignores := Registry.ignoresWiring_standard none offline .standard
  obtain ⟨hresult, -⟩ := run_prune (standard none offline .standard) hignores rfl htrigger dawn
  rw [hid] at hresult
  refine ⟨?_, hresult⟩
  have hreachable : overgrown.reachable "t" = ["t", "o"] := by
    rw [Graph.reachable, Tour.explore_of_within rfl]
    rfl
  rw [Graph.prune, hreachable]
  rfl

/-- A trigger that counts the successors of its node. -/
def counting : Runner where
  registry := Registry.empty.registerFallback .trigger
    (.guest "Count" fun tasks => .ok (.nat (tasks.getLast?.elim 0 fun task => task.node.successors.length)))
  mode := .legacy
  strictServices := false

/-- A trigger with a successor that is not there. -/
def loose : Graph where
  nodes := [
    { id := "t", kind := .trigger, service := "manual", config := [], successors := ["ghost"], position := none,
      extra := [] }]

/-- An action of the service `if-else` with some successors. -/
def forked (successors : List String) : Graph where
  nodes := [
    { id := "t", kind := .trigger, service := "manual", config := [], successors := ["x"], position := none,
      extra := [] },
    { id := "x", kind := .action, service := "if-else", config := [], successors, position := none, extra := [] },
    { id := "o", kind := .output, service := "", config := [], successors := [], position := none, extra := [] }]

/-- **Dead parts are told** by an executor that counts successors, and by an action that is taken for a node that
branches: its first successor is the only one that follows, be it in the graph or not. -/
theorem dead_parts_told :
    (counting.run loose dawn).1.outputs = [("t", .nat 1)] ∧
      (counting.run (loose.prune "t") dawn).1.outputs = [("t", .nat 0)] ∧
      ((standard none offline .standard).run (forked ["ghost", "o"]) dawn).1.path = ["t", "x"] ∧
      ((standard none offline .standard).run (forked ["o"]) dawn).1.path = ["t", "x", "o"] := by
  have hreachable : loose.reachable "t" = ["t"] := by
    rw [Graph.reachable, Tour.explore_of_within rfl]
    rfl
  have hwhole : counting.locateTrigger loose = .ok _ := rfl
  have hpruned : counting.locateTrigger (loose.prune "t") = .ok { loose.nodes[0] with successors := [] } := by
    rw [Graph.prune, hreachable]
    rfl
  have hghost : (standard none offline .standard).locateTrigger (forked ["ghost", "o"]) = .ok _ := rfl
  have hthere : (standard none offline .standard).locateTrigger (forked ["o"]) = .ok _ := rfl
  refine ⟨?_, ?_, ?_, ?_⟩
  · rw [run_eq_walk hwhole, voyage, Tour.explore_of_within rfl]
    rfl
  · rw [run_eq_walk hpruned, voyage, Graph.prune, hreachable, Tour.explore_of_within rfl]
    rfl
  · rw [run_eq_walk hghost, voyage, Tour.explore_of_within rfl]
    rfl
  · rw [run_eq_walk hthere, voyage, Tour.explore_of_within rfl]
    rfl

end Runner

end WorkflowLab.Run
