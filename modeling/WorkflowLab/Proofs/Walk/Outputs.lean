import Mathlib.Data.List.Nodup
import WorkflowLab.Proofs.Walk.Steps

/-!
# Paths and outputs of walks

- `Graph.Captures`: the output of the last output node of a path;
- `Tour.Consistent`: how path, outputs and final output of a walk belong together, also after a failure;
- `consistent_explore`: every walk keeps this;
- `get?_outputs_explore`: an output stays what it is.
-/

namespace WorkflowLab

/-- Whether an id belongs to an output node. -/
def Graph.isOutput (graph : Graph) (id : String) : Bool := (graph.node? id).any (·.kind == .output)

/-- A value is the output of the last output node of a path, or null if the path has none. -/
def Graph.Captures (graph : Graph) (path : List String) (outputs : Fields) (final : Json) : Prop :=
  match (path.filter graph.isOutput).getLast? with
  | some id => outputs.get? id = some final
  | none => final = .null

namespace Run.Tour

variable {σ : Type} (tour : Tour σ)

/-- **How a walk's records belong together.** The outputs are those of the path, in its order; after a failure the last
node of the path has none. -/
structure Consistent (p : Progress σ) : Prop where
  nodup : p.path.Nodup
  known : ∀ id ∈ p.path, (tour.graph.node? id).isSome
  keys_of_running : p.fault = none → p.outputs.keys = p.path
  captures : p.fault = none → tour.graph.Captures p.path p.outputs p.final
  keys_of_failed : ∀ message, p.fault = some message → p.path ≠ [] ∧ p.outputs.keys = p.path.dropLast

/-- Nothing done is consistent. -/
theorem consistent_start (state : σ) : tour.Consistent (.start state) where
  nodup := by simp
  known := by simp
  keys_of_running _ := rfl
  captures _ := rfl
  keys_of_failed _ h := by cases h

/-- A key of the outputs is on the path. -/
theorem Consistent.mem_path {p : Progress σ} (h : tour.Consistent p) {id : String} (hid : id ∈ p.outputs.keys) :
    id ∈ p.path := by
  cases hf : p.fault with
  | none => rwa [h.keys_of_running hf] at hid
  | some message =>
    rw [(h.keys_of_failed message hf).2] at hid
    exact List.dropLast_subset _ hid

/-- A node that was run without failure has an output. -/
theorem Consistent.exists_output {p : Progress σ} (h : tour.Consistent p) (hf : p.fault = none) {id : String}
    (hid : id ∈ p.path) : ∃ output, p.outputs.get? id = some output := by
  rw [← h.keys_of_running hf] at hid
  exact Fields.mem_keys_iff.mp hid

/-- The nodes of a walk have one input each. -/
theorem Consistent.eq_of_handled {p : Progress σ} (h : tour.Consistent p) {s t : Target} (hs : s ∈ p.handled)
    (ht : t ∈ p.handled) (hid : s.1 = t.1) : s = t :=
  List.inj_on_of_nodup_map h.nodup hs ht hid

/-- The last output node after a node that is none is the one before. -/
theorem captures_append_of_not {graph : Graph} {path : List String} {outputs : Fields} {final : Json} {id : String}
    (hid : graph.isOutput id = false) (hnew : id ∉ path) (output : Json) (h : graph.Captures path outputs final) :
    graph.Captures (path ++ [id]) (outputs.set id output) final := by
  unfold Graph.Captures at h ⊢
  rw [List.filter_append, List.filter_cons_of_neg (by simp [hid]), List.filter_nil, List.append_nil]
  cases hlast : (path.filter graph.isOutput).getLast? with
  | none => rw [hlast] at h; exact h
  | some last =>
    rw [hlast] at h
    have hmem : last ∈ path := (List.mem_filter.mp (List.mem_of_getLast? hlast)).1
    have hne : last ≠ id := fun e => hnew (e ▸ hmem)
    show (outputs.set id output).get? last = some final
    rw [Fields.get?_set_of_ne hne]
    exact h

/-- An output node is the last one when it is run. -/
theorem captures_append {graph : Graph} {id : String} (hid : graph.isOutput id = true) (path : List String)
    (outputs : Fields) (output : Json) : graph.Captures (path ++ [id]) (outputs.set id output) output := by
  unfold Graph.Captures
  rw [List.filter_append, List.filter_cons_of_pos hid, List.filter_nil, List.getLast?_concat]
  exact Fields.get?_set_self outputs id output

/-- One more node on the path is new, and in the graph. -/
theorem Consistent.visit {p : Progress σ} (h : tour.Consistent p) {node : Node} (hnew : node.id ∉ p.path)
    (hnode : tour.graph.node? node.id = some node) :
    (p.path ++ [node.id]).Nodup ∧ ∀ id ∈ p.path ++ [node.id], (tour.graph.node? id).isSome := by
  constructor
  · simpa [List.nodup_append, h.nodup] using fun id hid (e : id = node.id) => hnew (e ▸ hid)
  · intro id hid
    rcases List.mem_append.mp hid with hid | hid
    · exact h.known id hid
    · rw [List.mem_singleton.mp hid, hnode]
      rfl

/-- A node that fails leaves the walk consistent. -/
theorem Consistent.failed {p : Progress σ} (h : tour.Consistent p) (hfault : p.fault = none) {node : Node}
    (hnew : node.id ∉ p.path) (hnode : tour.graph.node? node.id = some node) (input : Json) (message : String)
    (state : σ) : tour.Consistent (p.failed node input message state) := by
  obtain ⟨hnodup, hknown⟩ := h.visit tour hnew hnode
  rw [← Progress.path_failed p node input message state] at hnodup hknown
  refine ⟨hnodup, hknown, fun hf => (nomatch hf), fun hf => (nomatch hf), fun _ _ => ?_⟩
  rw [Progress.path_failed, List.dropLast_concat]
  exact ⟨by simp, h.keys_of_running hfault⟩

/-- So does a node with an output. -/
theorem Consistent.passed {p : Progress σ} (h : tour.Consistent p) (hfault : p.fault = none) {node : Node}
    (hnew : node.id ∉ p.path) (hnode : tour.graph.node? node.id = some node) (input output : Json) (state : σ) :
    tour.Consistent (p.passed node input output state) := by
  obtain ⟨hnodup, hknown⟩ := h.visit tour hnew hnode
  rw [← Progress.path_passed p node input output state] at hnodup hknown
  refine ⟨hnodup, hknown, fun _ => ?_, fun _ => ?_, fun message hf => nomatch hfault.symm.trans hf⟩
  · have hkey : node.id ∉ p.outputs.keys := by rwa [h.keys_of_running hfault]
    rw [Progress.path_passed, ← h.keys_of_running hfault]
    exact Fields.keys_set_of_not_mem hkey output
  · rw [Progress.path_passed]
    show tour.graph.Captures (p.path ++ [node.id]) (p.outputs.set node.id output)
      (if node.kind = .output then output else p.final)
    split
    · next hkind => exact captures_append (by simp [Graph.isOutput, hnode, hkind]) _ _ _
    · next hkind => exact captures_append_of_not (by simp [Graph.isOutput, hnode, hkind]) hnew _ (h.captures hfault)

/-- Every move keeps a walk consistent. -/
theorem Moves.consistent {p q : Progress σ} {target : Target} {targets : List Target}
    (hmove : tour.Moves p target q targets) (h : tour.Consistent p) : tour.Consistent q := by
  cases hmove with
  | stopped => exact h
  | again => exact h
  | missing => exact ⟨h.nodup, h.known, h.keys_of_running, h.captures, h.keys_of_failed⟩
  | failed hfault hnew hnode hid hrun =>
    rw [← hid] at hnew hnode
    exact h.failed tour hfault hnew hnode _ _ _
  | passed hfault hnew hnode hid hrun =>
    rw [← hid] at hnew hnode
    exact h.passed tour hfault hnew hnode _ _ _

/-- **Every walk keeps its records consistent.** -/
theorem consistent_explore {p : Progress σ} (h : tour.Consistent p) (targets : List Target) :
    tour.Consistent (tour.explore p targets) :=
  tour.explore_keeps (fun hmove hp => hmove.consistent tour hp) targets h

/-- The targets that a step gives follow the node that it has run, whose output it has recorded. -/
theorem Moves.follows {p q : Progress σ} {target next : Target} {targets : List Target}
    (hmove : tour.Moves p target q targets) (hnext : next ∈ targets) :
    ∃ node output, tour.graph.node? target.1 = some node ∧ q.outputs.get? target.1 = some output ∧
      next ∈ tour.next node output := by
  cases hmove with
  | stopped | again | missing | failed => cases hnext
  | @passed node output state hfault hnew hnode hid hrun =>
    refine ⟨node, output, hnode, ?_, hnext⟩
    show (p.outputs.set node.id output).get? target.1 = some output
    rw [hid, Fields.get?_set_self]

/-- Every move keeps the outputs. -/
theorem Moves.get?_outputs {p q : Progress σ} {target : Target} {targets : List Target}
    (hmove : tour.Moves p target q targets) (h : tour.Consistent p) {id : String} {output : Json}
    (hout : p.outputs.get? id = some output) : q.outputs.get? id = some output := by
  cases hmove with
  | stopped => exact hout
  | again => exact hout
  | missing => exact hout
  | failed => exact hout
  | @passed node output' state hfault hnew hnode hid hrun =>
    have hne : id ≠ node.id := by
      rintro rfl
      exact hnew (hid ▸ h.mem_path tour (Fields.mem_keys_iff.mpr ⟨output, hout⟩))
    show (p.outputs.set node.id output').get? id = some output
    rw [Fields.get?_set_of_ne hne]
    exact hout

/-- An output stays what it is. -/
theorem get?_outputs_explore {p : Progress σ} (h : tour.Consistent p) {id : String} {output : Json}
    (hout : p.outputs.get? id = some output) (targets : List Target) :
    (tour.explore p targets).outputs.get? id = some output := by
  have hkeeps : ∀ {p target q targets}, tour.Moves p target q targets →
      tour.Consistent p ∧ p.outputs.get? id = some output → tour.Consistent q ∧ q.outputs.get? id = some output :=
    fun hmove hp => ⟨hmove.consistent tour hp.1, hmove.get?_outputs tour hp.1 hp.2⟩
  exact (tour.explore_keeps hkeeps targets ⟨h, hout⟩).2

end Run.Tour

end WorkflowLab
