import Mathlib.Order.Bounds.Basic
import WorkflowLab.Proofs.Walk.Outputs

/-!
# What a walk reaches

- `Tour.exploreWithin`: the walk as a recursion with a limit on nested calls; a limit of one more than the nodes is
  enough (`exploreWithin_eq`), so the recursion ends;
- `Tour.Active`: the edges that a walk follows, given the outputs of its nodes;
- `mem_of_closed`: a walk stays inside every set that holds its targets and is closed under active edges;
- `explore_settles`: a walk without failure leaves no target of its new nodes open;
- `isLeast_path_explore`: the path is the least closed set around the start.
-/

namespace WorkflowLab.Run.Tour

variable {σ : Type} (tour : Tour σ)

/-! ## Nested calls -/

/-- The walk along a list of targets if calls nest at most `depth` deep. -/
def exploreWithin : Nat → Progress σ → List Target → Option (Progress σ)
  | 0, p, targets => if targets.isEmpty then some p else none
  | depth + 1, p, targets =>
    targets.foldlM (fun q target => exploreWithin depth (tour.step q target).1 (tour.step q target).2) p

@[simp] theorem exploreWithin_nil (depth : Nat) (p : Progress σ) : tour.exploreWithin depth p [] = some p := by
  cases depth <;> rfl

/-- One call more than there are nodes left is deep enough. -/
theorem exploreWithin_eq {depth : Nat} {p : Progress σ} (h : tour.unvisited p ≤ depth) (targets : List Target) :
    tour.exploreWithin (depth + 1) p targets = some (tour.explore p targets) := by
  induction depth using Nat.strongRecOn generalizing p targets with
  | _ depth ihDepth =>
    induction targets generalizing p with
    | nil => simp
    | cons target rest ih =>
      -- only a step that leaves fewer nodes unvisited has targets to go on with
      have hdeep : tour.exploreWithin depth (tour.step p target).1 (tour.step p target).2 =
          some (tour.explore (tour.step p target).1 (tour.step p target).2) := by
        rcases tour.step_shrinks p target with hnil | hless
        · rw [hnil, exploreWithin_nil, explore_nil]
        · obtain ⟨d, rfl⟩ : ∃ d, depth = d + 1 := ⟨depth - 1, by omega⟩
          exact ihDepth d (Nat.lt_succ_self d) (by omega) _
      have hprefix := (tour.path_prefix_step p target).trans
        (tour.path_prefix_explore (tour.step p target).1 (tour.step p target).2)
      have hrest := ih ((tour.unvisited_mono hprefix).trans h)
      rw [explore_cons, ← hrest]
      simp only [exploreWithin, List.foldlM_cons, hdeep]
      rfl

/-! ## Active edges -/

/-- **The edges that a walk follows**, given the outputs of the nodes that were run: to every successor that is in the
graph, but from a branching node whose output is an object only to the one that its branch selects. -/
inductive Active (outputs : Fields) (u v : String) : Prop
  | every {node : Node} {output : Json} (hnode : tour.graph.node? u = some node) (hout : outputs.get? u = some output)
    (hplain : node.isBranching = false ∨ output.isObject = false) (hv : v ∈ node.successors)
    (hknown : (tour.graph.node? v).isSome)
  | chosen {node : Node} {output : Json} (hnode : tour.graph.node? u = some node) (hout : outputs.get? u = some output)
    (hbranch : node.isBranching = true) (hobject : output.isObject = true)
    (hv : tour.mode.select node.successors (output.get "branch") = some v) (hknown : (tour.graph.node? v).isSome)

/-- A set of ids holds the ends of the active edges that start in it. -/
def Closed (outputs : Fields) (ids : Set String) : Prop := ∀ u ∈ ids, ∀ v, tour.Active outputs u v → v ∈ ids

/-- The active edges of a node go to the targets that follow it. -/
theorem active_iff {outputs : Fields} {u v : String} :
    tour.Active outputs u v ↔ ∃ node output, tour.graph.node? u = some node ∧ outputs.get? u = some output ∧
      v ∈ (tour.next node output).map (·.1) ∧ (tour.graph.node? v).isSome := by
  constructor
  · rintro (⟨hnode, hout, hplain, hv, hknown⟩ | ⟨hnode, hout, hbranch, hobject, hv, hknown⟩)
    · refine ⟨_, _, hnode, hout, ?_, hknown⟩
      rcases hplain with h | h <;> simpa [next, h] using hv
    · exact ⟨_, _, hnode, hout, by simp [next, hbranch, hobject, hv], hknown⟩
  · rintro ⟨node, output, hnode, hout, hv, hknown⟩
    by_cases hbranch : node.isBranching = true
    · by_cases hobject : output.isObject = true
      · exact .chosen hnode hout hbranch hobject (by simpa [next, hbranch, hobject] using hv) hknown
      · exact .every hnode hout (.inr (by simpa using hobject)) (by simpa [next, hobject] using hv) hknown
    · exact .every hnode hout (.inl (by simpa using hbranch)) (by simpa [next, hbranch] using hv) hknown

/-- More outputs keep the active edges. -/
theorem Active.mono {outputs more : Fields} {u v : String} (h : tour.Active outputs u v)
    (hmore : ∀ output, outputs.get? u = some output → more.get? u = some output) : tour.Active more u v := by
  obtain ⟨node, output, hnode, hout, hv, hknown⟩ := tour.active_iff.mp h
  exact tour.active_iff.mpr ⟨node, output, hnode, hmore output hout, hv, hknown⟩

/-! ## Nothing else is reached -/

/-- The outputs on the way are among those at the end. -/
theorem Closed.of_explore {p : Progress σ} {ids : Set String} {targets : List Target} (h : tour.Consistent p)
    (hclosed : tour.Closed (tour.explore p targets).outputs ids) : tour.Closed p.outputs ids :=
  fun u hu v hv => hclosed u hu v (hv.mono tour fun _ hout => tour.get?_outputs_explore h hout targets)

/-- **A walk stays inside every set that holds its path and targets and is closed under active edges.** -/
theorem mem_of_closed {p : Progress σ} {targets : List Target} {ids : Set String} (h : tour.Consistent p)
    (hpath : ∀ id ∈ p.path, id ∈ ids)
    (htargets : ∀ target ∈ targets, (tour.graph.node? target.1).isSome → target.1 ∈ ids)
    (hclosed : tour.Closed (tour.explore p targets).outputs ids) :
    ∀ id ∈ (tour.explore p targets).path, id ∈ ids := by
  induction p, targets using tour.explore_induction with
  | nil p => rwa [explore_nil]
  | cons p target rest ihDeep ihWide =>
    rw [explore_cons] at hclosed ⊢
    have hmove := tour.step_moves p target
    generalize hq : (tour.step p target).1 = q, hnext : (tour.step p target).2 = next at hmove ihDeep ihWide hclosed ⊢
    have hqc : tour.Consistent q := hmove.consistent tour h
    have hdeepc := tour.consistent_explore hqc next
    have hrest : ∀ target' ∈ rest, (tour.graph.node? target'.1).isSome → target'.1 ∈ ids :=
      fun target' ht => htargets target' (List.mem_cons_of_mem _ ht)
    have hdeep : tour.Closed (tour.explore q next).outputs ids := hclosed.of_explore tour hdeepc
    refine ihWide hdeepc (ihDeep hqc ?_ ?_ hdeep) hrest hclosed
    · intro id hid
      cases hmove with
      | stopped => exact hpath id hid
      | again => exact hpath id hid
      | missing => exact hpath id hid
      | failed hfault hnew hnode hnid hrun | passed hfault hnew hnode hnid hrun =>
        simp only [Progress.path_failed, Progress.path_passed, List.mem_append, List.mem_singleton] at hid
        rcases hid with hid | rfl
        · exact hpath id hid
        · rw [hnid]
          exact htargets target List.mem_cons_self (by rw [hnode]; rfl)
    · intro target' ht hknown
      -- the target follows the node that was just run, along an active edge
      obtain ⟨node, output, hnode, hout, hnext⟩ := hmove.follows tour ht
      have hmem : target.1 ∈ ids := htargets target List.mem_cons_self (by rw [hnode]; rfl)
      exact hdeep.of_explore tour hqc _ hmem _
        (tour.active_iff.mpr ⟨node, output, hnode, hout, List.mem_map_of_mem hnext, hknown⟩)

/-! ## Nothing is left out -/

/-- A step without failure that adds an id to the path has run its node, and gives the targets that follow it. -/
theorem Moves.fresh {p q : Progress σ} {target : Target} {targets : List Target}
    (hmove : tour.Moves p target q targets) (hq : q.fault = none) {u : String} (hu : u ∈ q.path) (hnew : u ∉ p.path) :
    ∃ node output, tour.graph.node? u = some node ∧ q.outputs.get? u = some output ∧
      targets = tour.next node output := by
  cases hmove with
  | stopped | again | missing => exact absurd hu hnew
  | failed => cases hq
  | @passed node output state hfault hnew' hnode hid hrun =>
    rw [Progress.path_passed, hid, List.mem_append, List.mem_singleton] at hu
    obtain rfl := hu.resolve_left hnew
    exact ⟨node, output, hnode, by rw [← hid]; exact Fields.get?_set_self p.outputs node.id output, rfl⟩

/-- A node is spent when every target that follows it is settled. -/
def Spent (p : Progress σ) (u : String) : Prop :=
  ∀ node output, tour.graph.node? u = some node → p.outputs.get? u = some output →
    ∀ target ∈ tour.next node output, tour.Settled p target

/-- A spent node stays spent. -/
theorem Spent.explore {p : Progress σ} {u : String} (h : tour.Spent p u) (hp : tour.Consistent p)
    (hfault : p.fault = none) (hu : u ∈ p.path) (targets : List Target) : tour.Spent (tour.explore p targets) u := by
  intro node output hnode hout target ht
  obtain ⟨output', hout'⟩ := hp.exists_output tour hfault hu
  have hsame := tour.get?_outputs_explore hp hout' targets
  rw [hout] at hsame
  cases hsame
  exact (h node output hnode hout' target ht).explore tour targets

/-- **A walk without failure settles its targets and spends the nodes that it runs.** Nodes of the path before it may
still have open targets: their own walks go on after this one. -/
theorem explore_settles {p : Progress σ} {targets : List Target} (h : tour.Consistent p)
    (hend : (tour.explore p targets).fault = none) :
    (∀ target ∈ targets, tour.Settled (tour.explore p targets) target) ∧
      ∀ u ∈ (tour.explore p targets).path, u ∉ p.path → tour.Spent (tour.explore p targets) u := by
  induction p, targets using tour.explore_induction with
  | nil p => exact ⟨by simp, fun u hu hnew => absurd (by rwa [explore_nil] at hu) hnew⟩
  | cons p target rest ihDeep ihWide =>
    have hstart := tour.fault_of_explore hend
    rw [explore_cons] at hend ⊢
    have hmove := tour.step_moves p target
    generalize (tour.step p target).1 = q, (tour.step p target).2 = next at hmove ihDeep ihWide hend ⊢
    have hqc : tour.Consistent q := hmove.consistent tour h
    have hdeepc := tour.consistent_explore hqc next
    have hdeepEnd := tour.fault_of_explore hend
    have hqEnd := tour.fault_of_explore hdeepEnd
    obtain ⟨hdeepTargets, hdeepNew⟩ := ihDeep hqc hdeepEnd
    obtain ⟨hwideTargets, hwideNew⟩ := ihWide hdeepc hend
    refine ⟨?_, fun u hu hnew => ?_⟩
    · intro target' ht
      rcases List.mem_cons.mp ht with rfl | ht
      · exact ((hmove.settled tour hstart).explore tour next).explore tour rest
      · exact hwideTargets target' ht
    · by_cases hdeepu : u ∈ (tour.explore q next).path
      · refine Spent.explore tour ?_ hdeepc hdeepEnd hdeepu rest
        by_cases hqu : u ∈ q.path
        · -- `u` is the node of this step: what follows it are the targets of the nested walk
          obtain ⟨node, output, hnode, hout, rfl⟩ := hmove.fresh tour hqEnd hqu hnew
          intro node' output' hnode' hout' target' ht
          rw [hnode] at hnode'
          rw [tour.get?_outputs_explore hqc hout _] at hout'
          cases hnode'
          cases hout'
          exact hdeepTargets target' ht
        · exact hdeepNew u hdeepu hqu
      · exact hwideNew u hu hdeepu

/-- The path of a walk without failure from the start is closed under active edges. -/
theorem closed_path_explore {state : σ} {targets : List Target}
    (hend : (tour.explore (.start state) targets).fault = none) :
    tour.Closed (tour.explore (.start state) targets).outputs
      {id | id ∈ (tour.explore (.start state) targets).path} := by
  intro u hu v hv
  obtain ⟨node, output, hnode, hout, hmem, hknown⟩ := tour.active_iff.mp hv
  obtain ⟨target, ht, rfl⟩ := List.mem_map.mp hmem
  have hspent := (tour.explore_settles (tour.consistent_start state) hend).2 u hu (by simp)
  rcases hspent node output hnode hout target ht with hin | hout
  · exact hin
  · rw [hout] at hknown
    cases hknown

/-! ## The whole walk -/

/-- **What a walk from a node reaches.** Calls nest no deeper than there are nodes, and one more; no id is run twice;
and the path of a walk without failure is the least set of ids around the start that is closed under active edges. -/
theorem isLeast_path_explore (state : σ) {start : String} (hstart : (tour.graph.node? start).isSome) (input : Json) :
    tour.exploreWithin (tour.graph.nodes.length + 1) (.start state) [(start, input)] =
        some (tour.explore (.start state) [(start, input)]) ∧
      (tour.explore (.start state) [(start, input)]).path.Nodup ∧
      ((tour.explore (.start state) [(start, input)]).fault = none →
        IsLeast
          {ids : Set String | start ∈ ids ∧ tour.Closed (tour.explore (.start state) [(start, input)]).outputs ids}
          {id | id ∈ (tour.explore (.start state) [(start, input)]).path}) := by
  have hconsistent := tour.consistent_start state
  refine ⟨tour.exploreWithin_eq List.countP_le_length _, (tour.consistent_explore hconsistent _).nodup, fun hend => ?_⟩
  refine ⟨⟨?_, tour.closed_path_explore hend⟩, fun ids hids => ?_⟩
  · rcases (tour.explore_settles hconsistent hend).1 (start, input) List.mem_cons_self with hin | hout
    · exact hin
    · rw [hout] at hstart
      cases hstart
  · refine tour.mem_of_closed hconsistent (by simp) (fun target ht _ => ?_) hids.2
    rw [List.mem_singleton.mp ht]
    exact hids.1

/-- A walk with cycles, a repeated and a missing successor, and a branch that leaves `c` out. -/
def maze : Tour Unit where
  graph := ⟨[⟨"s", .trigger, "manual", [], ["a", "a", "s", "ghost"], none, []⟩,
    ⟨"a", .logic, "if-else", [], ["b", "c"], none, []⟩, ⟨"b", .action, "code", [], ["s"], none, []⟩,
    ⟨"c", .output, "", [], [], none, []⟩]⟩
  mode := .strict
  handle node input w := (.ok (if node.id = "a" then .obj [("branch", .str "true"), ("result", input)] else input), w)
  missing _ w := w

/-- The walk through the maze reaches the least closed set, which leaves out the branch that is not taken. -/
theorem isLeast_path_maze :
    (maze.explore (.start ()) [("s", .null)]).path = ["s", "a", "b"] ∧
      IsLeast {ids : Set String | "s" ∈ ids ∧ maze.Closed (maze.explore (.start ()) [("s", .null)]).outputs ids}
        {id | id ∈ (maze.explore (.start ()) [("s", .null)]).path} := by
  have hstart : (maze.graph.node? "s").isSome := rfl
  obtain ⟨hdeep, -, hleast⟩ := maze.isLeast_path_explore () hstart .null
  have hwalk : (maze.exploreWithin 5 (.start ()) [("s", .null)]).map (fun p => (p.path, p.fault)) =
    some (["s", "a", "b"], none) := rfl
  rw [show maze.exploreWithin 5 (.start ()) [("s", .null)] = some _ from hdeep] at hwalk
  obtain ⟨hpath, hfault⟩ := Prod.mk.inj (Option.some.inj hwalk)
  exact ⟨hpath, hleast hfault⟩

end WorkflowLab.Run.Tour
