import WorkflowLab.Proofs.Run.Departure

/-!
# The log of a run, block by block

- `Node.block`, `Graph.block`: the entries about a node that succeeds, by node and event;
- `Graph.Journal`: the log of a path is one block per node, in the order of the path, but the last node of a failed run
  has its error in the place of its success;
- `handle_block`: what running a node writes;
- `run_journal`: the log of every run with the executors of the library is such a journal.
-/

namespace WorkflowLab

open Run

/-- The entries about a node that succeeds. -/
def Node.block (node : Node) : List (String × Event) :=
  (node.opening ++ [Event.success]).map fun event => (node.id, event)

/-- The entries about a node that fails: it fails before its work begins, or after. -/
inductive Node.Failed (node : Node) : List (String × Event) → Prop
  | atOnce : node.Failed [(node.id, .error)]
  | atWork : node.Failed ((node.opening ++ [Event.error]).map fun event => (node.id, event))

namespace Graph

variable (graph : Graph)

/-- The entries about an id whose node succeeds. -/
def block (id : String) : List (String × Event) := ((graph.node? id).map Node.block).getD []

/-- The block of an id is that of its node. -/
theorem block_of_node? {graph : Graph} {id : String} {node : Node} (h : graph.node? id = some node) :
    graph.block id = node.block := by
  rw [block, h]
  rfl

/-- **A log tells of a path block by block**: one block for each node, and if the path ends with a failure, the last block
has an error in the place of its success. -/
inductive Journal : (failed : Bool) → List String → List Entry → Prop
  | completed {path : List String} {log : List Entry} (htags : tags log = path.flatMap graph.block) :
    Journal false path log
  | aborted {front : List String} {node : Node} {last : List (String × Event)} {log : List Entry}
    (hnode : graph.node? node.id = some node) (hfailed : node.Failed last)
    (htags : tags log = front.flatMap graph.block ++ last) :
    Journal true (front ++ [node.id]) log

end Graph

namespace Run

theorem tags_append (old added : List Entry) : tags (old ++ added) = tags old ++ tags added := List.map_append

namespace Runner

variable (provider : Option Provider) (fetcher : Fetcher) (setup : Setup)

/-- Running a node writes its block, or that of its failure. -/
theorem handle_block (node : Node) (input : Json) (w : World) :
    ∃ added, ((standard provider fetcher setup).handle node input w).2.log = w.log ++ added ∧
      match ((standard provider fetcher setup).handle node input w).1 with
      | .ok _ => tags added = node.block
      | .error _ => node.Failed (tags added) := by
  obtain ⟨added, hlog, hblock⟩ :=
    run_block (Registry.standardFor_library provider fetcher setup node) (Task.mk node input) (entered node w)
  rw [handle_standard]
  rw [Registry.phases_standardFor] at hblock
  generalize (Registry.standardFor provider fetcher setup node).run (Task.mk node input) (entered node w) = ended
    at hlog hblock
  refine ⟨added, hlog, ?_⟩
  obtain ⟨(message | f) | output, w'⟩ := ended
  · obtain ⟨-, front, entry, rfl, hfront, hid, hevent, -⟩ := hblock
    have hentry : tags [entry] = [(node.id, .error)] := by
      show [(entry.nodeId, entry.event)] = _
      rw [hid, hevent]
    show node.Failed (tags (front ++ [entry]))
    rw [tags_append, hentry]
    rcases hfront with rfl | hfront
    · exact .atOnce
    · rw [hfront]
      have hwork : node.Failed ((node.opening ++ [Event.error]).map fun event => (node.id, event)) := .atWork
      rwa [List.map_append] at hwork
  · cases hblock
  · exact hblock

variable {provider fetcher setup}

/-- The log of a walk tells of its path. -/
def Journaled (graph : Graph) (p : Progress World) : Prop := graph.Journal p.fault.isSome p.path p.state.log

/-- Nothing done is told by an empty log. -/
theorem journaled_start (graph : Graph) {w : World} (hlog : w.log = []) : Journaled graph (.start w) :=
  .completed (by rw [show (Progress.start w).state.log = [] from hlog]; rfl)

/-- A log that tells of a path without failure. -/
theorem Journaled.tags_of_running {graph : Graph} {p : Progress World} (h : Journaled graph p) (hfault : p.fault = none) :
    tags p.state.log = p.path.flatMap graph.block := by
  unfold Journaled at h
  rw [hfault] at h
  generalize p.path = path, p.state.log = log at h
  cases h with
  | completed htags => exact htags

/-- Every move keeps the journal. -/
theorem journaled_of_moves {graph : Graph} {p q : Progress World} {target : Target} {targets : List Target}
    (hmove : ((standard provider fetcher setup).tour graph).Moves p target q targets) (h : Journaled graph p) :
    Journaled graph q := by
  cases hmove with
  | stopped | again | missing => exact h
  | @failed node message state hfault hnew hnode hid hrun =>
    have hrun : (standard provider fetcher setup).handle node target.2 p.state = (.error message, state) := hrun
    obtain ⟨added, hlog, hblock⟩ := handle_block provider fetcher setup node target.2 p.state
    rw [hrun] at hlog hblock
    unfold Journaled
    rw [Progress.path_failed]
    refine .aborted (hid ▸ hnode) hblock ?_
    rw [← h.tags_of_running hfault, ← tags_append, ← hlog]
    rfl
  | @passed node output state hfault hnew hnode hid hrun =>
    have hrun : (standard provider fetcher setup).handle node target.2 p.state = (.ok output, state) := hrun
    obtain ⟨added, hlog, hblock⟩ := handle_block provider fetcher setup node target.2 p.state
    rw [hrun] at hlog hblock
    have hown : graph.block node.id = node.block := Graph.block_of_node? (hid ▸ hnode)
    have hrunning : (p.passed node target.2 output state).fault = none := hfault
    unfold Journaled
    rw [Progress.path_passed, hrunning]
    refine .completed ?_
    rw [List.flatMap_append, List.flatMap_singleton, hown, ← hblock, ← h.tags_of_running hfault, ← tags_append, ← hlog]
    rfl

/-- The log of a walk that begins with an empty log tells of its path. -/
theorem journaled_explore (graph : Graph) {start : World} (hlog : start.log = []) (targets : List Target) :
    Journaled graph (((standard provider fetcher setup).tour graph).explore (.start start) targets) :=
  Tour.explore_keeps _ journaled_of_moves targets (journaled_start graph hlog)

/-- A question that is asked again and again. -/
def inquiry : Graph where
  nodes := [
    { id := "t", kind := .trigger, service := "manual", config := [], successors := ["ask"], position := none,
      extra := [] },
    { id := "ask", kind := .action, service := "openai", config := [], successors := ["t"], position := none,
      extra := [] }]

/-- A fetcher without a network. -/
def offline : Fetcher := ⟨.direct, fun _ => .error (.other "ConnectError" "")⟩

end Runner

end Run

end WorkflowLab
