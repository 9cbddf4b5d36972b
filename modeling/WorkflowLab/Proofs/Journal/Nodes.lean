import WorkflowLab.Proofs.Run.Reported

/-!
# The log of a run, node by node

- `entriesOf`: the entries about an id, in their order;
- `Runner.Recounted`: the entries about each node that a walk has run are those that its one run has written;
- `recounted_explore`: every walk that begins with an empty log is recounted so, with any executors that write about
  the nodes that they run.
-/

namespace WorkflowLab.Run

/-- The entries about an id. -/
def entriesOf (id : String) (log : List Entry) : List Entry := log.filter (·.nodeId == id)

@[simp] theorem entriesOf_append (id : String) (old added : List Entry) :
    entriesOf id (old ++ added) = entriesOf id old ++ entriesOf id added := List.filter_append _ _

theorem mem_entriesOf {id : String} {log : List Entry} {entry : Entry} :
    entry ∈ entriesOf id log ↔ entry ∈ log ∧ entry.nodeId = id := by
  simp [entriesOf]

/-- A log without entries about an id. -/
theorem entriesOf_eq_nil {id : String} {log : List Entry} (h : ∀ entry ∈ log, entry.nodeId ≠ id) :
    entriesOf id log = [] := by
  simpa [entriesOf] using h

/-- A log about one id. -/
theorem entriesOf_eq_self {id : String} {log : List Entry} (h : ∀ entry ∈ log, entry.nodeId = id) :
    entriesOf id log = log := by
  simpa [entriesOf] using h

namespace Runner

variable {runner : Runner} {graph : Graph}

/-- **The log of a walk, node by node**: the entries about a node that was run are those that it has written for its
input. -/
def Recounted (runner : Runner) (graph : Graph) (p : Progress World) : Prop :=
  ∀ target ∈ p.handled, ∃ node w, graph.node? target.1 = some node ∧
    (runner.handle node target.2 w).2.log = w.log ++ entriesOf target.1 p.state.log

/-- Only nodes on the path have entries. -/
theorem Owned.entriesOf_eq_nil {p : Progress World} (h : Owned p) {id : String} (hid : id ∉ p.path) :
    entriesOf id p.state.log = [] :=
  Run.entriesOf_eq_nil fun entry hentry hsame => hid (hsame ▸ h entry hentry)

/-- A node that is run for the first time has only the entries that it writes, and the others keep theirs. -/
theorem recounted_of_handle (hwrites : runner.registry.WritesOwn) {p q : Progress World} {node : Node} {input : Json}
    (howned : Owned p) (h : Recounted runner graph p) (hnew : node.id ∉ p.path) (hnode : graph.node? node.id = some node)
    (hhandled : q.handled = p.handled ++ [(node.id, input)])
    (hstate : q.state = (runner.handle node input p.state).2) : Recounted runner graph q := by
  obtain ⟨added, hlog, hown⟩ := handle_written hwrites node input p.state
  intro target htarget
  rw [hstate, hlog, entriesOf_append]
  rw [hhandled] at htarget
  rcases List.mem_append.mp htarget with hold | hlast
  · -- this run writes about its own node only, so the entries about an earlier one are still the same
    obtain ⟨other, w, hother, hrun⟩ := h target hold
    have hforeign : entriesOf target.1 added = [] := by
      refine Run.entriesOf_eq_nil fun entry hentry hsame => hnew ?_
      rw [← hown entry hentry, hsame]
      exact List.mem_map_of_mem hold
    exact ⟨other, w, hother, by rw [hforeign, List.append_nil]; exact hrun⟩
  · rw [List.mem_singleton.mp hlast]
    refine ⟨node, p.state, hnode, ?_⟩
    rw [howned.entriesOf_eq_nil hnew, entriesOf_eq_self hown, List.nil_append]
    exact hlog

/-- Every move keeps this. -/
theorem recounted_of_moves (hwrites : runner.registry.WritesOwn) {p q : Progress World} {target : Target}
    {targets : List Target} (hmove : (runner.tour graph).Moves p target q targets) (howned : Owned p)
    (h : Recounted runner graph p) : Recounted runner graph q := by
  cases hmove with
  | stopped | again | missing => exact h
  | failed _ hnew hnode hid hrun | passed _ hnew hnode hid hrun =>
    rw [← hid] at hnew hnode
    exact recounted_of_handle hwrites howned h hnew hnode rfl (congrArg Prod.snd hrun).symm

/-- **Every walk that begins with an empty log is told node by node**, and of nothing else, if executors write about the
nodes that they run. -/
theorem recounted_explore (runner : Runner) (hwrites : runner.registry.WritesOwn) (graph : Graph) {start : World}
    (hlog : start.log = []) (targets : List Target) :
    Owned ((runner.tour graph).explore (.start start) targets) ∧
      Recounted runner graph ((runner.tour graph).explore (.start start) targets) := by
  have hkeeps : ∀ {p target q targets}, (runner.tour graph).Moves p target q targets →
      Owned p ∧ Recounted runner graph p → Owned q ∧ Recounted runner graph q :=
    fun hmove hp => ⟨owned_of_moves hwrites hmove hp.1, recounted_of_moves hwrites hmove hp.1 hp.2⟩
  have hnothing : Owned (.start start) := by
    intro entry hentry
    rw [show (Progress.start start).state.log = [] from hlog] at hentry
    cases hentry
  exact (runner.tour graph).explore_keeps hkeeps targets ⟨hnothing, fun _ h => nomatch h⟩

end Runner

end WorkflowLab.Run
