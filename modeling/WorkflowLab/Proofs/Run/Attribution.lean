import WorkflowLab.Proofs.Diagnostics.Messages
import WorkflowLab.Proofs.Run.Departure
import WorkflowLab.Proofs.Run.Notes
import WorkflowLab.Proofs.Walk.Handing
import WorkflowLab.Proofs.Walk.Thinning

/-!
# Which node a record names

The trace context names the node that was run last. A record is written on behalf of some node: its own while it is run,
and while the walk goes through its successors the notices of those that are missing.

- `Emission`, `Tour.emissions`: the records of a walk, each with the node on whose behalf it is;
- `Names`: a context names the run, and the node at the end of a path; `names_of_moves` says that every step keeps this;
- `Emission.Placed`: what the context of an emission says; `emissions_placed`: every emission of a walk is placed, and
  the emissions are all that it records;
- `serve_emissions`: **the records of a run, in order, and the nodes that they name**.
-/

namespace WorkflowLab.Run

/-- A record of a walk: the id of the node on whose behalf it was written, and the ids of the nodes run until then. -/
structure Emission where
  owner : String
  path : List String
  record : Record

namespace Tour

variable (tour : Tour World)

/-- What a step to a target of `owner` records: on behalf of the node of the target, or of the owner if there is no such
node. -/
def emitted (owner : String) (p : Progress World) (target : Target) : List Emission :=
  ((tour.step p target).1.state.records.drop p.state.records.length).map fun record =>
    { owner := if (tour.graph.node? target.1).isSome then target.1 else owner
      path := (tour.step p target).1.path
      record }

/-- What a walk along the targets of `owner` records. -/
def emissions (owner : String) (p : Progress World) (targets : List Target) : List Emission :=
  match targets with
  | [] => []
  | target :: rest =>
    let reached := tour.step p target
    tour.emitted owner p target ++ emissions target.1 reached.1 reached.2 ++
      emissions owner (tour.explore reached.1 reached.2) rest
termination_by (tour.unvisited p, targets.length)
decreasing_by
  · exact tour.step_decreases p target rest
  · exact tour.rest_decreases ((tour.path_prefix_step p target).trans (tour.path_prefix_explore _ _)) target rest

@[simp] theorem emissions_nil (owner : String) (p : Progress World) : tour.emissions owner p [] = [] := by
  rw [emissions]

theorem emissions_cons (owner : String) (p : Progress World) (target : Target) (rest : List Target) :
    tour.emissions owner p (target :: rest) =
      tour.emitted owner p target ++ tour.emissions target.1 (tour.step p target).1 (tour.step p target).2 ++
        tour.emissions owner (tour.explore (tour.step p target).1 (tour.step p target).2) rest := by
  rw [emissions]

end Tour

/-! ## Steps -/

/-- A context names a run, and the node at the end of a path, if the path has one. -/
structure Names (runId : String) (path : List String) (context : Fields) : Prop where
  run : context.get? "run_id" = some (.str runId)
  node : ∀ id ∈ path.getLast?, context.get? "node_id" = some (.str id)

section Steps

variable {runner : Runner} {graph : Graph} {runId : String} {p q : Progress World} {target : Target}
  {targets : List Target}

/-- In the world in which a node is run, the context names the node. -/
theorem names_entered {w : World} {path : List String} (h : Names runId path w.trace) (node : Node) :
    Names runId (path ++ [node.id]) (Runner.entered node w).trace := by
  have htrace : (Runner.entered node w).trace = w.trace.set "node_id" (.str node.id) := rfl
  rw [htrace]
  refine ⟨?_, fun id hid => ?_⟩
  · rw [Fields.get?_set_of_ne (by decide), h.run]
  · rw [List.getLast?_concat, Option.mem_some_iff] at hid
    rw [hid, Fields.get?_set_self]

/-- **A step keeps the context in place**, and writes records in this context only. -/
theorem names_of_moves (hmove : (runner.tour graph).Moves p target q targets) (h : Names runId p.path p.state.trace) :
    Names runId q.path q.state.trace ∧
      ∃ added, q.state.records = p.state.records ++ added ∧ ∀ r ∈ added, r.context = q.state.trace := by
  have hran (node : Node) {result : Except String Json} {state : World}
      (hrun : (runner.tour graph).handle node target.2 p.state = (result, state)) :
      Names runId (p.path ++ [node.id]) state.trace ∧
        ∃ added, state.records = p.state.records ++ added ∧ ∀ r ∈ added, r.context = state.trace := by
    have hnotes := runner.handle_notes node target.2 p.state
    have hstate : (runner.handle node target.2 p.state).2 = state := congrArg Prod.snd hrun
    rw [hstate] at hnotes
    obtain ⟨added, hadded, hcontext⟩ := hnotes.records
    rw [← hnotes.trace] at hcontext
    exact ⟨hnotes.trace ▸ names_entered h node, added, hadded, hcontext⟩
  cases hmove with
  | stopped | again => exact ⟨h, [], (List.append_nil _).symm, List.forall_mem_nil _⟩
  | missing => exact ⟨h, _, rfl, List.forall_mem_singleton.mpr rfl⟩
  | @failed node message state _ _ _ _ hrun =>
    rw [Progress.path_failed]
    exact hran node hrun
  | @passed node output state _ _ _ _ hrun =>
    rw [Progress.path_passed]
    exact hran node hrun

/-- What a step records has the context of the world after it, and together it is all that the step has added. -/
theorem emitted_names (runner : Runner) (graph : Graph) (owner : String) (h : Names runId p.path p.state.trace)
    (target : Target) :
    ((runner.tour graph).step p target).1.state.records =
        p.state.records ++ ((runner.tour graph).emitted owner p target).map Emission.record ∧
      ∀ e ∈ (runner.tour graph).emitted owner p target, e.path = ((runner.tour graph).step p target).1.path ∧
        Names runId e.path e.record.context := by
  obtain ⟨hnames, added, hadded, hcontext⟩ := names_of_moves ((runner.tour graph).step_moves p target) h
  unfold Tour.emitted
  rw [hadded, List.drop_left, List.map_map]
  refine ⟨by rw [Function.comp_def, List.map_id'], fun e he => ?_⟩
  obtain ⟨record, hrecord, rfl⟩ := List.mem_map.mp he
  refine ⟨rfl, ?_⟩
  dsimp only
  rw [hcontext record hrecord]
  exact hnames

end Steps

/-! ## Walks -/

/-- **What the context of a record names**: the run, and the node that was run last. This is the node on whose behalf
the record was written, or the record is the notice of a missing successor of that node. -/
structure Emission.Placed (graph : Graph) (runId : String) (e : Emission) : Prop where
  run : e.record.context.get? "run_id" = some (.str runId)
  last : ∃ id, e.path.getLast? = some id ∧ e.record.context.get? "node_id" = some (.str id)
  owner : e.owner ∈ e.path
  own : e.path.getLast? = some e.owner ∨ ∃ node id, graph.node? e.owner = some node ∧ id ∈ node.successors ∧
    graph.node? id = none ∧
    e.record = ⟨.debug, .walker, "Skipping missing successor '" ++ id ++ "'", e.record.context, []⟩

/-- The record names the node on whose behalf it was written exactly if no other node was run in between. -/
theorem Emission.Placed.named_iff {graph : Graph} {runId : String} {e : Emission} (h : e.Placed graph runId) :
    e.record.context.get? "node_id" = some (.str e.owner) ↔ e.path.getLast? = some e.owner := by
  obtain ⟨id, hid, hnode⟩ := h.last
  rw [hid, hnode]
  simp

/-- The walk goes through successors of `owner`, which it has run; but a target that is no successor has a node. -/
def Calls (graph : Graph) (owner : String) (path : List String) (targets : List Target) : Prop :=
  ∀ target ∈ targets, graph.node? target.1 = none →
    owner ∈ path ∧ ∃ node, graph.node? owner = some node ∧ target.1 ∈ node.successors

section Walks

variable {graph : Graph} {runId owner : String} {p : Progress World} {target : Target}
  {targets : List Target}

/-- The targets that follow a node are its successors. -/
theorem calls_step (runner : Runner) (graph : Graph) (p : Progress World) (target : Target) :
    Calls graph target.1 ((runner.tour graph).step p target).1.path ((runner.tour graph).step p target).2 := by
  have hmove := (runner.tour graph).step_moves p target
  intro next hnext _
  refine ⟨(Tour.Moves.fresh_of_mem _ hmove hnext).2, ?_⟩
  generalize ((runner.tour graph).step p target).1 = q at hmove
  generalize ((runner.tour graph).step p target).2 = targets at hmove hnext
  cases hmove with
  | stopped | again | missing | failed => cases hnext
  | @passed node _ _ _ _ hnode => exact ⟨node, hnode, Tour.mem_successors_of_mem_next _ hnext⟩

/-- **The records of a step are placed.** -/
theorem emitted_placed (runner : Runner) (h : Names runId p.path p.state.trace)
    (hcalls : Calls graph owner p.path [target]) :
    ∀ e ∈ (runner.tour graph).emitted owner p target, e.Placed graph runId := by
  intro e he
  obtain ⟨hpath, hnames⟩ := (emitted_names runner graph owner h target).2 e he
  have hmove := (runner.tour graph).step_moves p target
  unfold Tour.emitted at he
  generalize ((runner.tour graph).step p target).1 = q at hmove hpath he
  generalize ((runner.tour graph).step p target).2 = targets at hmove
  obtain ⟨record, hrecord, rfl⟩ := List.mem_map.mp he
  have hran {node : Node} (hnode : (runner.tour graph).graph.node? target.1 = some node) (hid : node.id = target.1)
      (hq : q.path = p.path ++ [node.id]) : Emission.Placed graph runId
        { owner := if ((runner.tour graph).graph.node? target.1).isSome then target.1 else owner
          path := q.path
          record } := by
    have hlast : q.path.getLast? = some target.1 := by rw [hq, List.getLast?_concat, hid]
    rw [hnode, Option.isSome_some, if_pos rfl]
    exact ⟨hnames.run, ⟨target.1, hlast, hnames.node _ hlast⟩, List.mem_of_getLast? hlast, .inl hlast⟩
  cases hmove with
  | stopped | again => simp at hrecord
  | missing _ _ hnode =>
    obtain ⟨howner, node, hownerNode, hsuccessor⟩ := hcalls target List.mem_cons_self hnode
    have hlast : p.path.getLast? = some _ := List.getLast?_eq_some_getLast (List.ne_nil_of_mem howner)
    have hnotice : record ∈ (p.state.records ++ [_]).drop p.state.records.length := hrecord
    rw [List.drop_left, List.mem_singleton] at hnotice
    rw [hnode, Option.isSome_none, if_neg Bool.false_ne_true]
    refine ⟨hnames.run, ⟨_, hlast, hnames.node _ hlast⟩, howner,
      .inr ⟨node, target.1, hownerNode, hsuccessor, hnode, ?_⟩⟩
    rw [hnotice]
  | failed _ _ hnode hid => exact hran hnode hid (Progress.path_failed ..)
  | passed _ _ hnode hid => exact hran hnode hid (Progress.path_passed ..)

/-- What calls for targets on a path calls for some of them on a longer one. -/
theorem Calls.mono {path path' : List String} {fewer : List Target} (h : Calls graph owner path targets)
    (hpath : path ⊆ path') (hfewer : fewer ⊆ targets) : Calls graph owner path' fewer := fun next hnext hnone =>
  (h next (hfewer hnext) hnone).imp_left (hpath ·)

/-- **The records of a walk are those of its emissions, and these are placed.** -/
theorem emissions_placed (runner : Runner) (h : Names runId p.path p.state.trace)
    (hcalls : Calls graph owner p.path targets) :
    Names runId ((runner.tour graph).explore p targets).path ((runner.tour graph).explore p targets).state.trace ∧
      ((runner.tour graph).explore p targets).state.records =
        p.state.records ++ ((runner.tour graph).emissions owner p targets).map Emission.record ∧
      ∀ e ∈ (runner.tour graph).emissions owner p targets, e.Placed graph runId := by
  induction p, targets using (runner.tour graph).explore_induction generalizing owner with
  | nil p =>
    rw [Tour.explore_nil, Tour.emissions_nil]
    exact ⟨h, (List.append_nil _).symm, List.forall_mem_nil _⟩
  | cons p target rest ihDeep ihWide =>
    obtain ⟨hstep, -⟩ := names_of_moves ((runner.tour graph).step_moves p target) h
    obtain ⟨hrecords, -⟩ := emitted_names runner graph owner h target
    obtain ⟨hdeep, hdeepRecords, hdeepPlaced⟩ := ihDeep hstep (calls_step runner graph p target)
    -- the owner stays on the path while the walk goes on below the target
    have hpath := ((runner.tour graph).path_prefix_step p target).trans
      ((runner.tour graph).path_prefix_explore _ ((runner.tour graph).step p target).2)
    have hrest := hcalls.mono hpath.subset (List.subset_cons_self target rest)
    obtain ⟨hwide, hwideRecords, hwidePlaced⟩ := ihWide hdeep hrest
    have hone : [target] ⊆ target :: rest := List.cons_subset_cons target (List.nil_subset rest)
    have hhere := emitted_placed runner h (hcalls.mono (List.Subset.refl _) hone)
    rw [Tour.explore_cons, Tour.emissions_cons]
    refine ⟨hwide, ?_, List.forall_mem_append.mpr ⟨List.forall_mem_append.mpr ⟨hhere, hdeepPlaced⟩, hwidePlaced⟩⟩
    simp only [hwideRecords, hdeepRecords, hrecords, List.map_append, List.append_assoc]

end Walks

/-! ## Runs -/

namespace Runner

/-- The records of the walk of a run. -/
def emissions (runner : Runner) (graph : Graph) (trigger : Node) (w : World) : List Emission :=
  (runner.tour graph).emissions trigger.id (.start (departure graph trigger w)) [(trigger.id, .null)]

/-- When a run begins to walk, the context names the run. -/
theorem names_departure (graph : Graph) (trigger : Node) (w : World) :
    Names w.runId [] (departure graph trigger w).trace := by
  obtain ⟨records, hwarned⟩ := warnOfTriggers_snd graph { w with
    log := []
    trace := w.trace.merge [("run_id", .str w.runId), ("workflow_size", .nat graph.nodes.length)] }
  have htrace : (departure graph trigger w).trace =
      (w.trace.set "run_id" (.str w.runId)).set "workflow_size" (.nat graph.nodes.length) := by
    rw [departure, prepared, hwarned]
    rfl
  refine ⟨?_, fun id hid => absurd hid (Option.not_mem_none id)⟩
  rw [htrace, Fields.get?_set_of_ne (by decide), Fields.get?_set_self]

/-- The last record of a run is written where the walk has stopped, or, if no node has failed, on behalf of no node. -/
theorem records_noteEnd (p : Progress World) :
    ∃ closing, (noteEnd (.ofWalk p) p.state).2.records = p.state.records ++ [closing] ∧
      (p.fault.isSome → closing.context = p.state.trace) ∧
      (p.fault = none → closing.context.get? "node_id" = some .null) := by
  unfold noteEnd
  cases hfault : p.fault with
  | some message =>
    rw [RunResult.verdict_of_fault hfault]
    exact ⟨_, rfl, fun _ => rfl, nofun⟩
  | none =>
    rw [RunResult.verdict_of_no_fault hfault]
    exact ⟨_, rfl, nofun, fun _ => Fields.get?_set_self _ _ _⟩

section Serving

variable {runner : Runner} {graph : Graph} {trigger : Node}

/-- The records of a walk are placed, and at its end the context names the node that was run last. -/
theorem voyage_emissions (htrigger : runner.locateTrigger graph = .ok trigger) (w : World) :
    Names w.runId (runner.voyage graph trigger w).path (runner.voyage graph trigger w).state.trace ∧
      (runner.voyage graph trigger w).state.records =
        (departure graph trigger w).records ++ (runner.emissions graph trigger w).map Emission.record ∧
      ∀ e ∈ runner.emissions graph trigger w, e.Placed graph w.runId := by
  have hcalls : Calls graph trigger.id [] [(trigger.id, .null)] := by
    intro target htarget hnone
    have hknown := isSome_node?_of_locateTrigger htrigger
    rw [List.mem_singleton.mp htarget] at hnone
    rw [hnone] at hknown
    cases hknown
  exact emissions_placed runner (p := .start (departure graph trigger w)) (names_departure graph trigger w) hcalls

/-- A run for a client ends as its walk is reported. -/
theorem records_serve {payload : Json} (hgraph : Graph.ofPayload payload = .ok graph)
    (htrigger : runner.locateTrigger graph = .ok trigger) (w : World) :
    (runner.serve payload w).2.records =
      (noteEnd (.ofWalk (runner.voyage graph trigger w)) (runner.voyage graph trigger w).state).2.records := by
  have hrun : (runner.serve payload w).2.records = (runner.runPayload payload w).2.records := rfl
  rw [hrun, runPayload, hgraph]
  exact congrArg (fun ended => ended.2.records) (run_eq_walk htrigger w)

end Serving

/-- **Which node each record of a run names.** After a run for a client the trace context is empty. A run that has a
trigger writes, after what it writes before it walks, the records of its walk and one last record. Every record of the
walk names the run and the node that was run last. This is the node on whose behalf it was written, or the record is the
notice of a missing successor: so a record names the node on whose behalf it was written exactly if no other node was run
since. The last record names the node that has failed, if one has, and no node otherwise. -/
theorem serve_emissions (runner : Runner) (payload : Json) (w : World) :
    (runner.serve payload w).2.trace = [] ∧
    ∀ graph trigger, Graph.ofPayload payload = .ok graph → runner.locateTrigger graph = .ok trigger →
      (∀ e ∈ runner.emissions graph trigger w, e.Placed graph w.runId ∧
        (e.record.context.get? "node_id" = some (.str e.owner) ↔ e.path.getLast? = some e.owner)) ∧
      ∃ closing, (runner.serve payload w).2.records = (departure graph trigger w).records ++
          (runner.emissions graph trigger w).map Emission.record ++ [closing] ∧
        ((runner.voyage graph trigger w).fault.isSome →
          Names w.runId (runner.voyage graph trigger w).path closing.context) ∧
        ((runner.voyage graph trigger w).fault = none → closing.context.get? "node_id" = some .null) := by
  refine ⟨rfl, fun graph trigger hgraph htrigger => ?_⟩
  obtain ⟨hnames, hrecords, hplaced⟩ := voyage_emissions htrigger w
  obtain ⟨closing, hclosing, hfailed, hcompleted⟩ := records_noteEnd (runner.voyage graph trigger w)
  refine ⟨fun e he => ⟨hplaced e he, (hplaced e he).named_iff⟩, closing, ?_, fun hfault => ?_, hcompleted⟩
  · rw [records_serve hgraph htrigger, hclosing, hrecords]
  · rw [hfailed hfault]
    exact hnames

/-- A trigger with two successors. -/
def starter : Node where
  id := "t"
  kind := .trigger
  service := "manual"
  config := [("inputData", .str "sun")]
  successors := ["a", "ghost"]
  position := none
  extra := []

/-- A graph in which the first successor of the trigger is an output and the second one is missing. -/
def detached : Graph := ⟨[starter, ⟨"a", .output, "", [], [], none, []⟩]⟩

/-- The graph as an editor sends it. -/
def detachedPayload : Json := .arr [
  .obj [("id", .str "t"), ("type", .str "trigger"), ("service", .str "manual"),
    ("config", .obj [("inputData", .str "sun")]), ("connections", .arr [.str "a", .str "ghost"])],
  .obj [("id", .str "a"), ("type", .str "output")]]

/-- A runner that cannot make calls. -/
def secluded : Runner := standard none ⟨.direct, fun _ => .error (.timedOut "")⟩ .standard

/-- The walk records one notice, of the missing successor of the trigger, when the output has been run. -/
theorem emissions_detached : ∃ record,
    secluded.emissions detached starter dawn = [⟨"t", ["t", "a"], record⟩] ∧
      record.message = "Skipping missing successor 'ghost'" := by
  let tour := secluded.tour detached
  let start : Progress World := .start (departure detached starter dawn)
  let reached := (tour.step start ("t", .null)).1
  let captured := (tour.step reached ("a", .str "sun")).1
  have hfirst : (tour.step start ("t", .null)).2 = [("a", .str "sun"), ("ghost", .str "sun")] := rfl
  have hsecond : (tour.step reached ("a", .str "sun")).2 = [] := rfl
  have hthird : (tour.step captured ("ghost", .str "sun")).2 = [] := rfl
  have hemissions : secluded.emissions detached starter dawn =
      tour.emitted "t" start ("t", .null) ++ (tour.emitted "t" reached ("a", .str "sun") ++
        tour.emitted "t" captured ("ghost", .str "sun")) := by
    show tour.emissions "t" start [("t", .null)] = _
    rw [Tour.emissions_cons, hfirst, Tour.emissions_cons, hsecond, Tour.explore_nil, Tour.emissions_cons, hthird]
    simp only [Tour.emissions_nil, List.append_nil]
    rfl
  rw [hemissions]
  exact ⟨_, rfl, rfl⟩

/-- A run of this graph writes one record while it walks, which names the run and the node that was run last. -/
theorem serve_emissions_detached : ∃ closing record,
    Graph.ofPayload detachedPayload = .ok detached ∧
      secluded.locateTrigger detached = .ok starter ∧
      (secluded.serve detachedPayload dawn).2.trace = [] ∧
      (secluded.serve detachedPayload dawn).2.records =
        (departure detached starter dawn).records ++ [record] ++ [closing] ∧
      Emission.Placed detached "run" ⟨"t", ["t", "a"], record⟩ := by
  have hgraph : Graph.ofPayload detachedPayload = .ok detached := rfl
  have htrigger : secluded.locateTrigger detached = .ok starter := rfl
  obtain ⟨hempty, hrun⟩ := serve_emissions secluded detachedPayload dawn
  obtain ⟨hplaced, closing, hrecords, -⟩ := hrun detached _ hgraph htrigger
  obtain ⟨record, hemissions, -⟩ := emissions_detached
  rw [hemissions] at hplaced hrecords
  exact ⟨closing, record, hgraph, htrigger, hempty, hrecords, (hplaced _ List.mem_cons_self).1⟩

/-- The notice is written on behalf of the trigger, whose successor is missing, but it names the output. -/
theorem detached_names_output : ∃ e ∈ secluded.emissions detached starter dawn,
    e.owner = "t" ∧ e.record.message = "Skipping missing successor 'ghost'" ∧
      e.record ∈ (secluded.serve detachedPayload dawn).2.records ∧
      e.record.context.get? "node_id" = some (.str "a") := by
  have hgraph : Graph.ofPayload detachedPayload = .ok detached := rfl
  have htrigger : secluded.locateTrigger detached = .ok starter := rfl
  obtain ⟨record, hemissions, hmessage⟩ := emissions_detached
  obtain ⟨-, hrecords, hplaced⟩ := voyage_emissions htrigger dawn
  obtain ⟨closing, hclosing, -⟩ := records_noteEnd (secluded.voyage detached starter dawn)
  rw [hemissions] at hrecords hplaced
  obtain ⟨id, hid, hnode⟩ := (hplaced _ List.mem_cons_self).last
  cases hid
  -- what the run has written ends with the notice and the record of its end
  refine ⟨_, hemissions ▸ List.mem_cons_self, rfl, hmessage, ?_, hnode⟩
  rw [records_serve hgraph htrigger, hclosing, hrecords]
  exact List.mem_append_left _ (List.mem_append_right _ List.mem_cons_self)

end Runner

end WorkflowLab.Run
