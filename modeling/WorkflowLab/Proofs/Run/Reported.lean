import WorkflowLab.Proofs.Journal.Reports
import WorkflowLab.Proofs.Run.Outcome

/-!
# Failed runs and their reports

- `RunResult.Reported`: the log of a failed run ends with the report of its failure;
- `handle_written`, `handle_report_iff`: what running a node writes, and when a failure gets its report;
- `Owned`: the log of a walk has only entries of its path;
- `runPayload_reported_iff`: which failed runs are reported.
-/

namespace WorkflowLab.Run

/-- The log of a failed run ends with the report of its failure, at the last node of its path if there is one. -/
def RunResult.Reported (r : RunResult) : Prop :=
  ∃ message, r.verdict = .error message ∧ Report (r.path.getLastD systemId) message r.log

namespace Runner

variable {runner : Runner} {node : Node} {input : Json}

/-! ## One node -/

/-- The world in which a node is run. -/
def entered (node : Node) (w : World) : World := (Lab.setTrace [("node_id", .str node.id)] w).2

/-- A node without executor fails at once. -/
theorem handle_of_none (h : runner.registry.resolve? node = none) (w : World) :
    runner.handle node input w = (.error (Registry.missingMessage node.kind), entered node w) := by
  unfold handle
  rw [h]
  rfl

/-- A node with an executor ends as that ends; what it lets pass is reported. -/
theorem handle_of_some {executor : Executor} (h : runner.registry.resolve? node = some executor) (w : World) :
    runner.handle node input w =
      match executor.run ⟨node, input⟩ (entered node w) with
      | (.ok output, w') => (.ok output, w')
      | (.error (.reported message), w') => (.error message, w')
      | (.error (.raised f), w') => (.error (reportRaised node f w').1, (reportRaised node f w').2) := by
  unfold handle
  rw [h]
  have hentered : Lab.setTrace [("node_id", .str node.id)] w = ((), entered node w) := rfl
  simp only [bind, StateT.bind, ExceptT.run, hentered]
  cases executor.run ⟨node, input⟩ (entered node w) with
  | mk result w' => rcases result with (_ | _) | _ <;> rfl

/-- The report of what an executor let pass follows what the executor has written, and has a message. -/
theorem reportRaised_writes (node : Node) (f : Failure) {w : World} {old added : List Entry}
    (hlog : w.log = old ++ added) :
    ∃ entry, (reportRaised node f w).2.log = old ++ (added ++ [entry]) ∧
      IsReport node.id (reportRaised node f w).1 entry ∧ (reportRaised node f w).1 ≠ "" := by
  refine ⟨⟨node.id, .error, (reportRaised node f w).1, w.clock.tick.1.iso, .null, []⟩, ?_, ⟨rfl, rfl, rfl⟩,
    textOr_ne_empty (by simp)⟩
  rw [← List.append_assoc, ← hlog]
  rfl

/-- Running a node writes entries of this node only, if its executor does. -/
theorem handle_written (hown : runner.registry.WritesOwn) (node : Node) (input : Json) (w : World) :
    ∃ added, (runner.handle node input w).2.log = w.log ++ added ∧ ∀ entry ∈ added, entry.nodeId = node.id := by
  cases hexecutor : runner.registry.resolve? node with
  | none =>
    rw [handle_of_none hexecutor]
    exact ⟨[], (List.append_nil _).symm, fun _ h => nomatch h⟩
  | some executor =>
    obtain ⟨added, hlog, hids⟩ := run_written (hown node executor hexecutor) ⟨node, input⟩ (entered node w)
    rw [handle_of_some hexecutor]
    generalize executor.run ⟨node, input⟩ (entered node w) = ended at hlog ⊢
    obtain ⟨(message | f) | output, w'⟩ := ended
    · exact ⟨added, hlog, hids⟩
    · obtain ⟨entry, hreport, ⟨hid, -, -⟩, -⟩ := reportRaised_writes node f hlog
      refine ⟨added ++ [entry], hreport, fun other hother => ?_⟩
      rcases List.mem_append.mp hother with hother | hother
      · exact hids other hother
      · rw [List.mem_singleton.mp hother]; exact hid
    · exact ⟨added, hlog, hids⟩

/-- A failure of a node is reported when its executor from elsewhere keeps its word. -/
theorem handle_guest_report_iff (hown : runner.registry.WritesOwn) {name : String} {act : List Task → Turn}
    (hexecutor : runner.registry.resolve? node = some (.guest name act)) {w w' : World} {message : String}
    (hrun : runner.handle node input w = (.error message, w')) :
    ∃ added, w'.log = w.log ++ added ∧
      (Report node.id (failureText message) added ↔ (act w'.guests).KeepsWord) := by
  obtain ⟨w₁, added, hguest, hguests, hlog, hgists⟩ := runGuest_writes act ⟨node, input⟩ (entered node w)
  have hguest : (Executor.guest name act).run ⟨node, input⟩ (entered node w) = ((act w₁.guests).result, w₁) := hguest
  have hids : ∀ note ∈ (act w₁.guests).notes, note.about node.id = node.id :=
    hown node _ hexecutor w.guests ⟨node, input⟩ _ (hguests ▸ rfl)
  rw [handle_of_some hexecutor, hguest] at hrun
  cases hresult : (act w₁.guests).result with
  | ok output => rw [hresult] at hrun; cases hrun
  | error fault =>
    rw [hresult] at hrun
    cases fault with
    | reported said =>
      cases hrun
      refine ⟨added, hlog, ?_⟩
      simp only [Turn.KeepsWord, hresult]
      exact report_iff_of_gists hgists hids
    | raised f =>
      obtain ⟨entry, hreport, hentry, hmessage⟩ := reportRaised_writes node f hlog
      cases hrun
      refine ⟨added ++ [entry], hreport, ?_⟩
      rw [failureText, if_neg hmessage, report_concat_iff hentry]
      show NoError node.id added ↔ (act w₁.guests).KeepsWord
      simp only [Turn.KeepsWord, hresult]
      exact noError_iff_of_gists hgists hids

/-- A failure of a node with an executor of the library is reported. -/
theorem handle_library_report {executor : Executor} (hlibrary : ∀ name act, executor ≠ .guest name act)
    (hexecutor : runner.registry.resolve? node = some executor) {w w' : World} {message : String}
    (hrun : runner.handle node input w = (.error message, w')) :
    ∃ added, w'.log = w.log ++ added ∧ Report node.id (failureText message) added := by
  rw [handle_of_some hexecutor] at hrun
  obtain ⟨added, hlog, hblock⟩ := run_block hlibrary ⟨node, input⟩ (entered node w)
  generalize executor.run ⟨node, input⟩ (entered node w) = ended at hrun hlog hblock
  obtain ⟨(said | f) | output, w₁⟩ := ended
  · cases hrun
    obtain ⟨hmessage, hreport⟩ := hblock.report
    rw [failureText, if_neg hmessage]
    exact ⟨added, hlog, hreport⟩
  · cases hblock
  · cases hrun

/-- **A failure of a node with an executor is reported when this keeps its word.** -/
theorem handle_report_iff (hown : runner.registry.WritesOwn) {executor : Executor}
    (hexecutor : runner.registry.resolve? node = some executor) {w w' : World} {message : String}
    (hrun : runner.handle node input w = (.error message, w')) :
    ∃ added, w'.log = w.log ++ added ∧
      (Report node.id (failureText message) added ↔ executor.KeepsWord w'.guests) := by
  rcases executor.guest_or_library with ⟨name, act, rfl⟩ | hlibrary
  · exact handle_guest_report_iff hown hexecutor hrun
  · obtain ⟨added, hlog, hreport⟩ := handle_library_report hlibrary hexecutor hrun
    refine ⟨added, hlog, iff_of_true hreport ?_⟩
    cases executor with
    | guest name act => exact absurd rfl (hlibrary name act)
    | _ => trivial

/-! ## Walks -/

/-- All entries of the log are of nodes on the path. -/
def Owned (p : Progress World) : Prop := ∀ entry ∈ p.state.log, entry.nodeId ∈ p.path

/-- What is written for the node that a path ends with is of a node on the path. -/
theorem owned_of_handle (hown : runner.registry.WritesOwn) {p q : Progress World} {node : Node} {input : Json}
    (h : Owned p) (hpath : q.path = p.path ++ [node.id])
    (hstate : q.state = (runner.handle node input p.state).2) : Owned q := by
  obtain ⟨added, hlog, hids⟩ := handle_written hown node input p.state
  intro entry hentry
  rw [hstate, hlog] at hentry
  rw [hpath]
  rcases List.mem_append.mp hentry with hold | hnew
  · exact List.mem_append_left _ (h entry hold)
  · rw [hids entry hnew]
    exact List.mem_append_right _ (List.mem_singleton_self node.id)

/-- Every move keeps this. -/
theorem owned_of_moves (hown : runner.registry.WritesOwn) {graph : Graph} {p q : Progress World} {target : Target}
    {targets : List Target} (hmove : (runner.tour graph).Moves p target q targets) (h : Owned p) : Owned q := by
  cases hmove with
  | stopped | again | missing => exact h
  | failed _ _ _ _ hrun => exact owned_of_handle hown h (Progress.path_failed ..) (congrArg Prod.snd hrun).symm
  | passed _ _ _ _ hrun => exact owned_of_handle hown h (Progress.path_passed ..) (congrArg Prod.snd hrun).symm

/-- The result of a walk that stops at a node is reported when the log is. -/
theorem reported_failed_iff (p : Progress World) (node : Node) (input : Json) (message : String) (state : World) :
    (RunResult.ofWalk (p.failed node input message state)).Reported ↔
      Report node.id (failureText message) state.log := by
  have hpath : (RunResult.ofWalk (p.failed node input message state)).path = p.path ++ [node.id] :=
    Progress.path_failed ..
  unfold RunResult.Reported
  rw [RunResult.verdict_of_fault rfl, hpath, List.getLastD_concat]
  constructor
  · rintro ⟨text, htext, hreport⟩
    cases htext
    exact hreport
  · exact fun hreport => ⟨failureText message, rfl, hreport⟩

/-- A walk that stops at a node is reported when the node has an executor that keeps its word. -/
theorem reported_walk_iff (hown : runner.registry.WritesOwn) {graph : Graph} {p : Progress World} {message : String}
    (hstopped : (runner.tour graph).StoppedAt Owned message p) :
    ∃ id, p.path.getLast? = some id ∧
      ((RunResult.ofWalk p).Reported ↔ ∃ node executor, graph.node? id = some node ∧
        runner.registry.resolve? node = some executor ∧ executor.KeepsWord p.state.guests) := by
  obtain @⟨q, node, input, state, howned, hnew, hnode, hrun⟩ := hstopped
  have hrun : runner.handle node input q.state = (.error message, state) := hrun
  have hnode : graph.node? node.id = some node := hnode
  have hforeign : ∀ entry ∈ q.state.log, entry.nodeId ≠ node.id :=
    fun entry hentry hid => hnew (hid ▸ howned entry hentry)
  refine ⟨node.id, by rw [Progress.path_failed, List.getLast?_concat], ?_⟩
  rw [reported_failed_iff]
  constructor
  · intro hreport
    cases hexecutor : runner.registry.resolve? node with
    | none =>
      rw [handle_of_none hexecutor] at hrun
      obtain rfl : state = entered node q.state := (congrArg Prod.snd hrun).symm
      exact absurd hreport (not_report_of_foreign hforeign)
    | some executor =>
      obtain ⟨added, hlog, hiff⟩ := handle_report_iff hown hexecutor hrun
      rw [hlog, report_append_iff hforeign] at hreport
      exact ⟨node, executor, hnode, hexecutor, hiff.mp hreport⟩
  · rintro ⟨other, executor, hother, hexecutor, hword⟩
    rw [hnode] at hother
    cases hother
    obtain ⟨added, hlog, hiff⟩ := handle_report_iff hown hexecutor hrun
    rw [hlog, report_append_iff hforeign]
    exact hiff.mpr hword

/-! ## Runs -/

/-- A refusal is reported. -/
theorem reported_refusal (message time : String) : (RunResult.refusal message time).Reported :=
  ⟨message, rfl, [], _, rfl, ⟨rfl, rfl, rfl⟩, fun _ h => nomatch h⟩

/-- The note of how a walk has ended calls no executor. -/
theorem guests_noteEnd (r : RunResult) (w : World) : (noteEnd r w).2.guests = w.guests := by
  unfold noteEnd
  cases r.verdict <;> rfl

/-- A run whose first node fails ends there. -/
theorem runPayload_of_failing_start (runner : Runner) {payload : Json} {graph : Graph}
    (hgraph : Graph.ofPayload payload = .ok graph) {trigger : Node}
    (htrigger : runner.locateTrigger graph = .ok trigger) (hnode : graph.node? trigger.id = some node)
    {message : String} (hfails : ∀ w, (runner.handle node .null w).1 = .error message) (w : World) :
    ∃ start : World, start.log = [] ∧ (runner.runPayload payload w).1 =
      .ofWalk ((Progress.start start).failed node .null message (runner.handle node .null start).2) := by
  rcases runner.runPayload_outcome payload w with ⟨fault, _, _, hfault, _⟩ | ⟨read, hread, hrun⟩
  · rw [hgraph] at hfault
    cases hfault
  · rw [hgraph] at hread
    cases hread
    generalize runner.runPayload payload w = ended at hrun
    cases hrun with
    | refused hfault => rw [htrigger] at hfault; cases hfault
    | @walked other hother start hlog p hwalk =>
      rw [htrigger] at hother
      cases hother
      refine ⟨start, hlog, ?_⟩
      have hstep : (runner.tour graph).step (.start start) (trigger.id, .null) =
          ((Progress.start start).failed node .null message (runner.handle node .null start).2, []) := by
        have hhandle : (runner.tour graph).handle node .null start =
          (.error message, (runner.handle node .null start).2) := Prod.ext (hfails start) rfl
        have hfound : (runner.tour graph).graph.node? trigger.id = some node := hnode
        have hfault : (Progress.start start).fault = none := rfl
        have hstate : (Progress.start start).state = start := rfl
        simp [Tour.step, Tour.attend, Progress.visited, hfault, hstate, hfound, hhandle]
      show RunResult.ofWalk p = _
      rw [hwalk, Tour.explore_singleton _ _ _ [] (by rw [hstep]), hstep, Tour.explore_nil]

/-- **Which failed runs are reported**, if executors write about the nodes that they run: those that were refused, and
those that stopped at a node with an executor that keeps its word, as executors of the library do. So the run of a node
without executor goes unreported. -/
theorem runPayload_reported_iff (runner : Runner) (hown : runner.registry.WritesOwn) (payload : Json) (w : World)
    (hfailed : (runner.runPayload payload w).1.success = false) :
    (runner.runPayload payload w).1.Reported ↔
      ∀ id ∈ (runner.runPayload payload w).1.path.getLast?, ∃ graph node executor,
        Graph.ofPayload payload = .ok graph ∧ graph.node? id = some node ∧
        runner.registry.resolve? node = some executor ∧
        executor.KeepsWord (runner.runPayload payload w).2.guests := by
  rcases runner.runPayload_outcome payload w with ⟨fault, time, w', _, hrun⟩ | ⟨graph, hgraph, hrun⟩
  · rw [hrun]
    exact iff_of_true (reported_refusal _ _) fun _ h => nomatch h
  · generalize runner.runPayload payload w = ended at hrun hfailed
    cases hrun with
    | refused hfault time w' => exact iff_of_true (reported_refusal _ _) fun _ h => nomatch h
    | @walked trigger htrigger start hlog p hwalk =>
      cases hfault : p.fault with
      | none => rw [RunResult.success_of_ok (RunResult.verdict_of_no_fault hfault)] at hfailed; cases hfailed
      | some message =>
        have hstart : Owned (.start start) := by
          intro entry hentry
          rw [show (Progress.start start).state.log = [] from hlog] at hentry
          cases hentry
        rw [hwalk] at hfault
        have hstopped := (runner.tour graph).stoppedAt_of_explore (owned_of_moves hown) hstart rfl hfault
        rw [← hwalk] at hstopped
        obtain ⟨id, hlast, hiff⟩ := reported_walk_iff hown hstopped
        show (RunResult.ofWalk p).Reported ↔ ∀ id ∈ p.path.getLast?, _
        rw [hiff, guests_noteEnd, hlast]
        simp [hgraph]

/-- A trigger before an output. -/
def greeting : Json := .arr [
  .obj [("id", .str "t"), ("type", .str "trigger"), ("service", .str "manual"), ("connections", .arr [.str "o"])],
  .obj [("id", .str "o"), ("type", .str "output")]]

/-- A world in which nothing has happened. -/
def dawn : World := ⟨⟨⟨0, none⟩, 0⟩, "run", [], [], [], [], [], []⟩

/-- A runner whose triggers fail without a text. -/
def exploding : Runner :=
  ⟨Registry.empty.registerFallback .trigger (.guest "Explode" fun _ => .error (.other "ValueError" "")), .strict, false⟩

/-- Its triggers write nothing. -/
theorem writesOwn_exploding : exploding.registry.WritesOwn := by
  intro node e hresolve tasks task turn hturn
  cases hkind : node.kind with
  | trigger =>
    rw [Registry.resolve?, hkind] at hresolve
    cases hresolve
    cases hturn
    exact List.forall_mem_nil _
  | action | logic | output =>
    rw [Registry.resolve?, hkind] at hresolve
    cases hresolve

/-- A failure that passes is reported, also when it has no text. -/
theorem exploding_reported : (exploding.runPayload greeting dawn).1.success = false ∧
    (exploding.runPayload greeting dawn).1.Reported := by
  have hgraph : Graph.ofPayload greeting = .ok _ := rfl
  obtain ⟨start, hlog, hrun⟩ := exploding.runPayload_of_failing_start hgraph rfl rfl (fun _ => rfl) dawn
  have hfailed : (exploding.runPayload greeting dawn).1.success = false := by rw [hrun]; rfl
  refine ⟨hfailed, (runPayload_reported_iff exploding writesOwn_exploding greeting dawn hfailed).mpr ?_⟩
  rw [hrun]
  intro id hid
  cases hid
  exact ⟨_, _, _, rfl, rfl, rfl, fun _ h => nomatch h⟩

/-- A runner without executors. -/
def idle : Runner := ⟨.empty, .strict, false⟩

/-- The failure of a node without executor is in no log. -/
theorem idle_unreported : (idle.runPayload greeting dawn).1.success = false ∧
    (idle.runPayload greeting dawn).1.log = [] ∧ ¬(idle.runPayload greeting dawn).1.Reported := by
  have hgraph : Graph.ofPayload greeting = .ok _ := rfl
  obtain ⟨start, hlog, hrun⟩ := idle.runPayload_of_failing_start hgraph rfl rfl (fun _ => rfl) dawn
  rw [hrun]
  refine ⟨rfl, hlog, ?_⟩
  rintro ⟨_, _, front, entry, hsplit, -⟩
  have hnil : start.log = front ++ [entry] := hsplit
  rw [hlog] at hnil
  simp at hnil

end Runner

end WorkflowLab.Run
