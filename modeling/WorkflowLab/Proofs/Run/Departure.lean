import WorkflowLab.Proofs.Run.Standard
import WorkflowLab.Proofs.Walk.Closure

/-!
# The beginning and the end of a run

- `Runner.Bars`: strict services bar a graph; `locateTrigger_of_bars` and `locateTrigger_of_not_bars` say where a run of
  a graph with a trigger starts;
- `departure`: the world in which a run begins to walk; it differs from the world before in log, trace and records;
- `run_eq_walk`, `run_eq_refusal`: a run as a walk from there, or as a refusal at the time of the clock;
- `noteEnd_eq`: the end of a run is told to trace and records only;
- `explore_of_within`: a walk from its nested calls.
-/

namespace WorkflowLab.Run

/-- A walk is what its nested calls come to. -/
theorem Tour.explore_of_within {σ : Type} {tour : Tour σ} {p q : Progress σ} {targets : List Target}
    (h : tour.exploreWithin (tour.graph.nodes.length + 1) p targets = some q) : tour.explore p targets = q := by
  rw [tour.exploreWithin_eq List.countP_le_length] at h
  exact Option.some.inj h

namespace Runner

/-- Strict services bar a graph: one of its nodes is no output and has no executor dedicated to it. -/
def Bars (runner : Runner) (graph : Graph) : Prop := runner.strictServices = true ∧ runner.refused graph ≠ []

/-- A graph with a trigger is run from it, unless it is barred. -/
theorem locateTrigger_eq_of_trigger? (runner : Runner) {graph : Graph} {trigger : Node}
    (h : graph.trigger? = some trigger) :
    runner.locateTrigger graph =
      if runner.strictServices && !(runner.refused graph).isEmpty then .error (.unsupported (runner.refused graph))
      else .ok trigger := by
  have hnodes : graph.nodes.isEmpty = false := by
    rw [List.isEmpty_eq_false_iff]
    exact List.ne_nil_of_mem (List.mem_filter.mp (List.mem_of_head? h)).1
  unfold locateTrigger
  rw [hnodes, h]
  rfl

theorem locateTrigger_of_bars {runner : Runner} {graph : Graph} (hbars : runner.Bars graph) {trigger : Node}
    (h : graph.trigger? = some trigger) :
    runner.locateTrigger graph = .error (.unsupported (runner.refused graph)) := by
  rw [locateTrigger_eq_of_trigger? runner h, if_pos (by simpa [Bars] using hbars)]

theorem locateTrigger_of_not_bars {runner : Runner} {graph : Graph} (hbars : ¬runner.Bars graph) {trigger : Node}
    (h : graph.trigger? = some trigger) : runner.locateTrigger graph = .ok trigger := by
  rw [locateTrigger_eq_of_trigger? runner h, if_neg (by simpa [Bars] using hbars)]

/-- Without strict services every graph with a trigger is run from it. -/
theorem locateTrigger_of_trigger? {runner : Runner} (hservices : runner.strictServices = false) {graph : Graph}
    {trigger : Node} (h : graph.trigger? = some trigger) : runner.locateTrigger graph = .ok trigger :=
  locateTrigger_of_not_bars (fun hbars => absurd hbars.1 (by simp [hservices])) h

/-- A graph that has nodes but no trigger cannot be run. -/
theorem locateTrigger_of_no_trigger (runner : Runner) {graph : Graph} (hnodes : graph.nodes ≠ [])
    (h : graph.trigger? = none) : runner.locateTrigger graph = .error .noTrigger := by
  unfold locateTrigger
  rw [List.isEmpty_eq_false_iff.mpr hnodes, h]
  rfl

/-- Where a run starts does not depend on the capabilities. -/
theorem locateTrigger_standard (provider provider' : Option Provider) (fetcher fetcher' : Fetcher) (setup : Setup)
    (graph : Graph) :
    (standard provider' fetcher' setup).locateTrigger graph =
      (standard provider fetcher setup).locateTrigger graph := by
  have hrefused : (standard provider' fetcher' setup).refused graph =
      (standard provider fetcher setup).refused graph := by
    unfold refused
    refine List.filter_congr fun node _ => ?_
    rw [standard, standard, Registry.hasDedicated_standard, Registry.hasDedicated_standard]
  unfold locateTrigger
  rw [hrefused]
  rfl

/-- The world after the preparations of a run differs in log, trace and records. -/
theorem prepared_eq (graph : Graph) (w : World) :
    ∃ trace records, prepared graph w = { w with log := [], trace, records } := by
  obtain ⟨records, hwarned⟩ := warnOfTriggers_snd graph { w with
    log := []
    trace := w.trace.merge [("run_id", .str w.runId), ("workflow_size", .nat graph.nodes.length)] }
  exact ⟨_, records, hwarned⟩

/-- The world in which a run begins to walk. -/
def departure (graph : Graph) (trigger : Node) (w : World) : World :=
  (prepared graph w).noted .info .walker
    ("▶ Starting run at trigger '" ++ trigger.id ++ "' (" ++ toString graph.ids.length ++ " nodes)") []

/-- A run begins with an empty log; clock, calls and tasks are those of the world before. -/
theorem departure_eq (graph : Graph) (trigger : Node) (w : World) :
    ∃ trace records, departure graph trigger w = { w with log := [], trace, records } := by
  obtain ⟨trace, records, hprepared⟩ := prepared_eq graph w
  rw [departure, hprepared]
  exact ⟨trace, _, rfl⟩

@[simp] theorem clock_departure (graph : Graph) (trigger : Node) (w : World) :
    (departure graph trigger w).clock = w.clock := by
  obtain ⟨trace, records, h⟩ := departure_eq graph trigger w
  rw [h]

@[simp] theorem log_departure (graph : Graph) (trigger : Node) (w : World) : (departure graph trigger w).log = [] := by
  obtain ⟨trace, records, h⟩ := departure_eq graph trigger w
  rw [h]

@[simp] theorem calls_departure (graph : Graph) (trigger : Node) (w : World) :
    (departure graph trigger w).calls = w.calls := by
  obtain ⟨trace, records, h⟩ := departure_eq graph trigger w
  rw [h]

/-- How a run ends is told to trace and records only. -/
theorem noteEnd_eq (r : RunResult) (w : World) : ∃ trace records, (noteEnd r w).2 = { w with trace, records } := by
  unfold noteEnd
  cases r.verdict <;> exact ⟨_, _, rfl⟩

variable {runner : Runner} {graph : Graph}

/-- The walk of a run. -/
def voyage (runner : Runner) (graph : Graph) (trigger : Node) (w : World) : Progress World :=
  (runner.tour graph).explore (.start (departure graph trigger w)) [(trigger.id, .null)]

/-- **A run with a trigger is a walk.** -/
theorem run_eq_walk {trigger : Node} (h : runner.locateTrigger graph = .ok trigger) (w : World) :
    runner.run graph w =
      (.ofWalk (runner.voyage graph trigger w),
        (noteEnd (.ofWalk (runner.voyage graph trigger w)) (runner.voyage graph trigger w).state).2) := by
  unfold run
  rw [h]
  rfl

/-- **A run without a trigger is a refusal** at the time that the clock shows. -/
theorem run_eq_refusal {fault : StartFault} (h : runner.locateTrigger graph = .error fault) (w : World) :
    ∃ trace records, runner.run graph w =
      (.refusal fault.message w.clock.tick.1.iso,
        { w with
          clock := w.clock.tick.2
          log := [⟨systemId, .error, fault.message, w.clock.tick.1.iso, .null, []⟩]
          trace
          records }) := by
  have hrun : runner.run graph w =
      refuse fault.message ((prepared graph w).noted .error .walker ("❌ Run rejected: " ++ fault.message) []) := by
    unfold run
    rw [h]
    rfl
  obtain ⟨trace, records, hprepared⟩ := prepared_eq graph w
  rw [hrun, hprepared]
  exact ⟨trace, _, rfl⟩

end Runner

end WorkflowLab.Run
