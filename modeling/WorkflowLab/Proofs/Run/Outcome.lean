import WorkflowLab.Proofs.Walk.Steps
import WorkflowLab.Run.Runner

/-!
# Outcomes of runs

- `Runner.Outcome`: what a run of a graph can come to: a refusal, or the result of a walk from the trigger with an
  empty log; `run_outcome` says that every run comes to one of these;
- `runPayload_outcome`: the same for what an editor sends, which may be no graph;
- `mem_path_walk`: the walk of a run visits its trigger.
-/

namespace WorkflowLab.Run

namespace RunResult

/-- The result of what is not run, for the reason that its one entry gives. -/
def refusal (message time : String) : RunResult :=
  ⟨[], [⟨systemId, .error, message, time, .null, []⟩], [], .error message⟩

theorem success_of_ok {r : RunResult} {final : Json} (h : r.verdict = .ok final) : r.success = true := by
  simp [success, h, Except.isOk, Except.toBool]

theorem success_of_error {r : RunResult} {message : String} (h : r.verdict = .error message) : r.success = false := by
  simp [success, h, Except.isOk, Except.toBool]

theorem verdict_of_fault {p : Progress World} {message : String} (h : p.fault = some message) :
    (ofWalk p).verdict = .error (failureText message) := by simp [ofWalk, h]

theorem success_of_fault {p : Progress World} {message : String} (h : p.fault = some message) :
    (ofWalk p).success = false :=
  success_of_error (verdict_of_fault h)

/-- A run that succeeds has met no fault. -/
theorem fault_of_success {p : Progress World} (h : (ofWalk p).success = true) : p.fault = none := by
  cases hfault : p.fault with
  | none => rfl
  | some message =>
    rw [success_of_fault hfault] at h
    cases h

theorem verdict_of_no_fault {p : Progress World} (h : p.fault = none) : (ofWalk p).verdict = .ok p.final := by
  simp [ofWalk, h]

end RunResult

namespace Runner

variable (runner : Runner)

/-- **What a run of a graph can come to**, with the world after it. -/
inductive Outcome (graph : Graph) : RunResult × World → Prop
  | refused {fault : StartFault} (hfault : runner.locateTrigger graph = .error fault) (time : String) (w : World) :
    Outcome graph (.refusal fault.message time, w)
  | walked {trigger : Node} (htrigger : runner.locateTrigger graph = .ok trigger) {start : World}
    (hlog : start.log = []) {p : Progress World}
    (hwalk : p = (runner.tour graph).explore (.start start) [(trigger.id, .null)]) :
    Outcome graph (.ofWalk p, (noteEnd (.ofWalk p) p.state).2)

/-- A refusal adds one entry to the log. -/
theorem refuse_eq (message : String) {w : World} (hlog : w.log = []) :
    ∃ time w', refuse message w = (.refusal message time, w') :=
  ⟨w.clock.tick.1.iso, (Lab.enter systemId .error message .null w).2, by
    show ((⟨[], w.log ++ [⟨systemId, .error, message, w.clock.tick.1.iso, .null, []⟩], [], .error message⟩ : RunResult),
      (Lab.enter systemId .error message .null w).2) = _
    rw [hlog]
    rfl⟩

/-- Warnings are records and nothing else. -/
theorem warnOfTriggers_snd (graph : Graph) (w : World) :
    ∃ records, (warnOfTriggers graph w).2 = { w with records } := by
  unfold warnOfTriggers
  generalize graph.triggers = triggers
  rcases triggers with _ | ⟨trigger, _ | ⟨second, rest⟩⟩
  · exact ⟨w.records, rfl⟩
  · exact ⟨w.records, rfl⟩
  · exact ⟨_, rfl⟩

/-- The world in which a run looks for its trigger: the log is empty, and warnings are written. -/
def prepared (graph : Graph) (w : World) : World :=
  (warnOfTriggers graph { w with
    log := []
    trace := w.trace.merge [("run_id", .str w.runId), ("workflow_size", .nat graph.nodes.length)] }).2

theorem log_prepared (graph : Graph) (w : World) : (prepared graph w).log = [] := by
  obtain ⟨records, hwarned⟩ := warnOfTriggers_snd graph { w with
    log := []
    trace := w.trace.merge [("run_id", .str w.runId), ("workflow_size", .nat graph.nodes.length)] }
  rw [prepared, hwarned]

theorem calls_prepared (graph : Graph) (w : World) : (prepared graph w).calls = w.calls := by
  obtain ⟨records, hwarned⟩ := warnOfTriggers_snd graph { w with
    log := []
    trace := w.trace.merge [("run_id", .str w.runId), ("workflow_size", .nat graph.nodes.length)] }
  rw [prepared, hwarned]

variable {runner} in
/-- A run without a trigger ends at once. -/
theorem run_of_error {graph : Graph} {fault : StartFault} (h : runner.locateTrigger graph = .error fault) (w : World) :
    ∃ start : World, start.log = [] ∧ start.calls = w.calls ∧ runner.run graph w = refuse fault.message start := by
  refine ⟨(prepared graph w).noted .error .walker ("❌ Run rejected: " ++ fault.message) [],
    log_prepared graph w, calls_prepared graph w, ?_⟩
  unfold run
  rw [h]
  rfl

variable {runner} in
/-- A run with a trigger is a walk. -/
theorem run_of_ok {graph : Graph} {trigger : Node} (h : runner.locateTrigger graph = .ok trigger) (w : World) :
    ∃ (start : World) (p : Progress World), start.log = [] ∧ start.calls = w.calls ∧
      p = (runner.tour graph).explore (.start start) [(trigger.id, .null)] ∧
      runner.run graph w = (.ofWalk p, (noteEnd (.ofWalk p) p.state).2) := by
  refine ⟨(prepared graph w).noted .info .walker
      ("▶ Starting run at trigger '" ++ trigger.id ++ "' (" ++ toString graph.ids.length ++ " nodes)") [],
    _, log_prepared graph w, calls_prepared graph w, rfl, ?_⟩
  unfold run
  rw [h]
  rfl

/-- Every run comes to an outcome. -/
theorem run_outcome (graph : Graph) (w : World) : runner.Outcome graph (runner.run graph w) := by
  cases h : runner.locateTrigger graph with
  | error fault =>
    obtain ⟨start, hlog, -, hrun⟩ := run_of_error h w
    obtain ⟨time, w', hrefuse⟩ := refuse_eq fault.message hlog
    rw [hrun, hrefuse]
    exact .refused h time w'
  | ok trigger =>
    obtain ⟨start, p, hlog, -, hwalk, hrun⟩ := run_of_ok h w
    rw [hrun]
    exact .walked h hlog hwalk

/-- A run of what an editor sends is refused, or comes to an outcome of the graph that was sent. -/
theorem runPayload_outcome (payload : Json) (w : World) :
    (∃ fault time w', Graph.ofPayload payload = .error fault ∧
        runner.runPayload payload w = (.refusal fault.message time, w')) ∨
      ∃ graph, Graph.ofPayload payload = .ok graph ∧ runner.Outcome graph (runner.runPayload payload w) := by
  unfold runPayload
  cases h : Graph.ofPayload payload with
  | ok graph => exact .inr ⟨graph, rfl, runner.run_outcome graph w⟩
  | error fault =>
    have hclear : ({ w with log := [] } : World).log = [] := rfl
    obtain ⟨time, w', hrefuse⟩ := refuse_eq fault.message hclear
    exact .inl ⟨fault, time, w', rfl, hrefuse⟩

variable {runner}

/-- A run starts at the first trigger of its graph. -/
theorem trigger?_of_locateTrigger {graph : Graph} {trigger : Node} (h : runner.locateTrigger graph = .ok trigger) :
    graph.trigger? = some trigger := by
  unfold locateTrigger at h
  split at h
  · cases h
  · split at h
    · cases h
    · next first hfirst =>
      dsimp only at h
      split at h
      · cases h
      · cases h; exact hfirst

/-- The id of the trigger belongs to a node. -/
theorem isSome_node?_of_locateTrigger {graph : Graph} {trigger : Node}
    (h : runner.locateTrigger graph = .ok trigger) : (graph.node? trigger.id).isSome :=
  Graph.isSome_node?_of_mem (List.mem_filter.mp (List.mem_of_head? (trigger?_of_locateTrigger h))).1

/-- The walk of a run visits its trigger. -/
theorem mem_path_walk {graph : Graph} {trigger : Node} (h : runner.locateTrigger graph = .ok trigger) (start : World) :
    trigger.id ∈ ((runner.tour graph).explore (.start start) [(trigger.id, .null)]).path := by
  have hmove := (runner.tour graph).step_moves (.start start) (trigger.id, .null)
  rw [Tour.explore_singleton _ _ _ _ rfl]
  refine (runner.tour graph).mem_path_explore ?_ _
  rcases hmove.settled (runner.tour graph) rfl with hin | hout
  · exact hin
  · have hknown := isSome_node?_of_locateTrigger h
    have hnone : graph.node? trigger.id = none := hout
    rw [hnone] at hknown
    cases hknown

end Runner

end WorkflowLab.Run
