import WorkflowLab.Proofs.Run.Outcome
import WorkflowLab.Proofs.Walk.Closure
import WorkflowLab.Proofs.Walk.Simulation
import WorkflowLab.Proofs.Walk.Wiring

/-!
# Graphs without their dead parts

- `Graph.Reaches`: the ids that the successor lists of a graph lead to from a start;
- `Graph.reachable`: a walk along all of them, whatever nodes do; `mem_reachable_iff`;
- `Graph.thin`, `Graph.prune`: a node without successors that change nothing, and a graph without the nodes that its
  start does not lead to;
- `Tour.Thinned`: a stack without targets to which there is no need to go; `thinned_next`: the targets that follow a node
  and its thin copy.
-/

namespace WorkflowLab

/-- **The ids that successor lists lead to.** -/
inductive Graph.Reaches (graph : Graph) (start : String) : String → Prop
  | start : Reaches graph start start
  | step {u v : String} {node : Node} (hu : Reaches graph start u) (hnode : graph.node? u = some node)
    (hv : v ∈ node.successors) : Reaches graph start v

namespace Run

/-- A chosen successor is a successor. -/
theorem BranchMode.mem_of_select {mode : BranchMode} {successors : List String} {branch : Json} {v : String}
    (h : mode.select successors branch = some v) : v ∈ successors := by
  unfold select at h
  cases mode with
  | legacy => exact List.mem_of_head? h
  | strict =>
    dsimp only at h
    split at h
    · exact List.mem_of_head? h
    · exact List.mem_of_getElem? h

namespace Tour

variable {σ : Type} (tour : Tour σ)

/-- The targets that follow a node are successors of it. -/
theorem mem_successors_of_mem_next {node : Node} {output : Json} {target : Target}
    (h : target ∈ tour.next node output) : target.1 ∈ node.successors := by
  unfold next at h
  split at h
  · obtain ⟨id, hid, rfl⟩ := List.mem_map.mp h
    exact BranchMode.mem_of_select (Option.mem_toList.mp hid)
  · obtain ⟨id, hid, rfl⟩ := List.mem_map.mp h
    exact hid

/-- Active edges are edges of the graph. -/
theorem Active.reaches {outputs : Fields} {start u v : String} (h : tour.Active outputs u v)
    (hu : tour.graph.Reaches start u) : tour.graph.Reaches start v := by
  obtain ⟨node, output, hnode, -, hv, -⟩ := tour.active_iff.mp h
  obtain ⟨target, htarget, rfl⟩ := List.mem_map.mp hv
  exact .step hu hnode (tour.mem_successors_of_mem_next htarget)

/-! ## The survey of a graph -/

/-- The tour that goes everywhere: no node fails, and no output is an object to choose by. -/
def survey (graph : Graph) : Tour Unit := ⟨graph, .legacy, fun _ _ _ => (.ok .null, ()), fun _ _ => ()⟩

/-- A survey never stops, and hands on nothing but null. -/
theorem survey_plain (graph : Graph) (targets : List Target) :
    ((survey graph).explore (.start ()) targets).fault = none ∧
      ∀ id output, ((survey graph).explore (.start ()) targets).outputs.get? id = some output → output = .null := by
  have hkeeps : ∀ {p target q targets}, (survey graph).Moves p target q targets →
      (p.fault = none ∧ ∀ id output, p.outputs.get? id = some output → output = .null) →
      q.fault = none ∧ ∀ id output, q.outputs.get? id = some output → output = .null := by
    intro p target q targets hmove hp
    cases hmove with
    | stopped | again | missing => exact hp
    | failed _ _ _ _ hrun => cases hrun
    | @passed node output state _ _ _ _ hrun =>
      obtain rfl : Json.null = output := Except.ok.inj (congrArg Prod.fst hrun)
      refine ⟨hp.1, fun id other hother => ?_⟩
      have hother : (p.outputs.set node.id .null).get? id = some other := hother
      by_cases hid : id = node.id
      · rw [hid, Fields.get?_set_self] at hother
        exact (Option.some.inj hother).symm
      · rw [Fields.get?_set_of_ne hid] at hother
        exact hp.2 id other hother
  refine (survey graph).explore_keeps hkeeps targets ⟨rfl, ?_⟩
  intro id output hout
  cases hout

end Tour

end Run

open Run

namespace Graph

variable (graph : Graph)

/-- The ids of the nodes that a start leads to. -/
def reachable (start : String) : List String := ((Tour.survey graph).explore (.start ()) [(start, .null)]).path

variable {graph}

/-- They are just the ids of nodes among those that the successor lists lead to. -/
theorem mem_reachable_iff {start id : String} (hstart : (graph.node? start).isSome) :
    id ∈ graph.reachable start ↔ graph.Reaches start id ∧ (graph.node? id).isSome := by
  obtain ⟨hend, hnull⟩ := Tour.survey_plain graph [(start, .null)]
  have hconsistent := (Tour.survey graph).consistent_start ()
  constructor
  · intro hid
    refine ⟨?_, ((Tour.survey graph).consistent_explore hconsistent _).known id hid⟩
    have hinside : ∀ target ∈ [(start, Json.null)], (graph.node? target.1).isSome → graph.Reaches start target.1 := by
      intro target htarget _
      rw [List.mem_singleton.mp htarget]
      exact .start
    have hclosed : (Tour.survey graph).Closed
        ((Tour.survey graph).explore (.start ()) [(start, .null)]).outputs {v | graph.Reaches start v} :=
      fun u hu v hv => hv.reaches (Tour.survey graph) hu
    exact (Tour.survey graph).mem_of_closed hconsistent (by simp) hinside hclosed id hid
  · rintro ⟨hreaches, hknown⟩
    induction hreaches with
    | start =>
      rcases ((Tour.survey graph).explore_settles hconsistent hend).1 (start, .null) List.mem_cons_self with hin | hout
      · exact hin
      · have hnone : graph.node? start = none := hout
        rw [hnone] at hstart
        cases hstart
    | @step u v node hu hnode hv ih =>
      have hu := ih (by rw [hnode]; rfl)
      obtain ⟨output, hout⟩ := ((Tour.survey graph).consistent_explore hconsistent _).exists_output _ hend hu
      exact (Tour.survey graph).closed_path_explore hend u hu v
        (.every hnode hout (.inr (by rw [hnull u output hout]; rfl)) hv hknown)

/-! ## Pruned graphs -/

variable (graph)

/-- A node without the successors that change nothing: those that are not in the graph, and those that came before. Where
a node branches, the places in the list have a meaning, and it stays as it is. -/
def thin (node : Node) : Node :=
  if node.isBranching then node
  else { node with successors := (node.successors.filter fun id => (graph.node? id).isSome).eraseDups }

/-- The nodes that a start leads to, thinned. -/
def prune (start : String) : Graph :=
  ⟨(graph.nodes.filter fun node => (graph.reachable start).contains node.id).map graph.thin⟩

@[simp] theorem thin_id (node : Node) : (graph.thin node).id = node.id := by
  unfold thin
  split <;> rfl

@[simp] theorem thin_kind (node : Node) : (graph.thin node).kind = node.kind := by
  unfold thin
  split <;> rfl

@[simp] theorem thin_isBranching (node : Node) : (graph.thin node).isBranching = node.isBranching := by
  unfold thin
  split <;> rfl

/-- Only successors are thinned. -/
theorem unwired_thin (node : Node) : (graph.thin node).unwired = node.unwired := by
  unfold thin
  split <;> rfl

variable {graph}

/-- What is kept is found by the tests that see only what thinning leaves alone. -/
theorem find?_prune {start : String} {test : Node → Bool} (htest : ∀ node, test (graph.thin node) = test node) :
    (graph.prune start).nodes.find? test =
      (graph.nodes.find? fun node => (graph.reachable start).contains node.id && test node).map graph.thin := by
  have hcomp : test ∘ graph.thin = test := funext htest
  rw [prune, List.find?_map, hcomp, List.find?_filter]
  simp only [Bool.decide_and, Bool.decide_eq_true]

/-- The nodes that a start leads to are still there. -/
theorem node?_prune {start id : String} (hstart : (graph.node? start).isSome) (hid : graph.Reaches start id) :
    (graph.prune start).node? id = (graph.node? id).map graph.thin := by
  rw [node?, find?_prune (by simp), node?]
  cases hnode : graph.node? id with
  | none =>
    rw [node?, List.find?_eq_none] at hnode
    congr 1
    rw [List.find?_eq_none.mpr hnode, List.find?_eq_none]
    intro node hmem
    simp [hnode node hmem]
  | some node =>
    have hmem : id ∈ graph.reachable start := (mem_reachable_iff hstart).mpr ⟨hid, by rw [hnode]; rfl⟩
    congr 1
    refine congrArg (fun test => graph.nodes.find? test) (funext fun other => ?_)
    by_cases hother : other.id = id
    · simp [hother, hmem]
    · simp [hother]

/-- What is found first is still found first if it is kept. -/
theorem find?_and_of_find? {α : Type} {items : List α} {kept test : α → Bool} {a : α} (h : items.find? test = some a)
    (ha : kept a = true) : (items.find? fun b => kept b && test b) = some a := by
  obtain ⟨htest, before, after, rfl, hbefore⟩ := List.find?_eq_some_iff_append.mp h
  rw [List.find?_eq_some_iff_append]
  refine ⟨by rw [ha, htest]; rfl, before, after, rfl, fun b hb => ?_⟩
  have hnot := hbefore b hb
  simp only [Bool.not_eq_true'] at hnot ⊢
  rw [hnot, Bool.and_false]

/-- The first trigger is still the first one. -/
theorem trigger?_prune {trigger : Node} (htrigger : graph.trigger? = some trigger) :
    (graph.prune trigger.id).trigger? = some (graph.thin trigger) := by
  have hfirst : graph.nodes.find? (·.kind == .trigger) = some trigger := by
    rwa [trigger?, triggers, List.head?_filter] at htrigger
  have hknown : (graph.node? trigger.id).isSome := isSome_node?_of_mem (List.mem_of_find?_eq_some hfirst)
  have hkept : (graph.reachable trigger.id).contains trigger.id = true := by
    rw [List.contains_iff_mem]
    exact (mem_reachable_iff hknown).mpr ⟨.start, hknown⟩
  rw [trigger?, triggers, List.head?_filter, find?_prune (by simp), find?_and_of_find? hfirst hkept, Option.map_some]

end Graph

/-! ## Thinned stacks -/

namespace Run.Tour

variable {σ : Type} (tour : Tour σ)

/-- To go to an id is to do nothing: the walk has stopped, the id was visited, or it belongs to no node. -/
def Idle (p : Progress σ) (id : String) : Prop := p.fault.isSome ∨ id ∈ p.path ∨ tour.graph.node? id = none

/-- A step leaves its target idle. -/
theorem Moves.idle {p q : Progress σ} {target : Target} {targets : List Target} (hmove : tour.Moves p target q targets) :
    tour.Idle q target.1 := by
  cases hp : p.fault with
  | some message =>
    cases hmove with
    | stopped => exact .inl (by rw [hp]; rfl)
    | again hnone | missing hnone | failed hnone | passed hnone => rw [hp] at hnone; cases hnone
  | none => exact .inr (hmove.settled tour hp)

/-- A step to an idle target does nothing, or gives notice of an id of no node. -/
theorem Idle.moves {p q : Progress σ} {target : Target} {targets : List Target} (h : tour.Idle p target.1)
    (hmove : tour.Moves p target q targets) :
    targets = [] ∧ (q = p ∨ q = { p with state := tour.missing target.1 p.state }) := by
  cases hmove with
  | stopped | again => exact ⟨rfl, .inl rfl⟩
  | missing => exact ⟨rfl, .inr rfl⟩
  | failed hfault hnew hnode | passed hfault hnew hnode =>
    rcases h with hstopped | hseen | hnone
    · rw [hfault] at hstopped; cases hstopped
    · exact absurd hseen hnew
    · rw [hnode] at hnone; cases hnone

/-- What is idle stays idle. -/
theorem Idle.step {p q : Progress σ} {target : Target} {targets : List Target} (hmove : tour.Moves p target q targets)
    {id : String} (h : tour.Idle p id) : tour.Idle q id := by
  rcases h with hfault | hpath | hnode
  · cases hmove with
    | stopped | again => exact .inl hfault
    | missing hnone | failed hnone | passed hnone => rw [hnone] at hfault; cases hfault
  · have hq : (tour.step p target).1 = q := congrArg Prod.fst hmove.step_eq
    rw [← hq]
    exact .inr (.inl ((tour.path_prefix_step p target).subset hpath))
  · exact .inr (.inr hnode)

/-- **A stack without some of its targets**: each of those left out is idle, or becomes so by a target before it. -/
inductive Thinned : (idle : String → Prop) → List Target → List Target → Prop
  | nil {idle : String → Prop} : Thinned idle [] []
  | keep {idle : String → Prop} (target : Target) {rest rest' : List Target}
    (h : Thinned (fun id => idle id ∨ id = target.1) rest rest') : Thinned idle (target :: rest) (target :: rest')
  | drop {idle : String → Prop} (target : Target) {rest rest' : List Target} (hidle : idle target.1)
    (h : Thinned idle rest rest') : Thinned idle (target :: rest) rest'

variable {idle more : String → Prop} {stack stack' : List Target}

/-- The more is idle, the more may be left out. -/
theorem Thinned.mono (h : Thinned idle stack stack') (hmore : ∀ id, idle id → more id) : Thinned more stack stack' := by
  induction h generalizing more with
  | nil => exact .nil
  | keep target _ ih =>
    apply Thinned.keep
    apply ih
    intro id hid
    exact hid.imp_left (hmore id)
  | drop target hidle _ ih =>
    apply Thinned.drop
    · exact hmore _ hidle
    · exact ih hmore

/-- The same targets on top of both stacks. -/
theorem Thinned.append (h : Thinned idle stack stack') (targets : List Target) :
    Thinned idle (targets ++ stack) (targets ++ stack') := by
  induction targets generalizing idle with
  | nil => exact h
  | cons target rest ih =>
    apply Thinned.keep
    apply ih
    exact h.mono fun id hid => .inl hid

/-- Successors on top of one stack, and on the other the same without those left out by a test and repeated ones. -/
theorem Thinned.append_dedup (h : Thinned idle stack stack') (successors : List String) (output : Json)
    {test : String → Bool} (htest : ∀ id, test id = false → idle id) :
    Thinned idle (successors.map (fun id => (id, output)) ++ stack)
      ((successors.filter test).eraseDups.map (fun id => (id, output)) ++ stack') := by
  induction successors generalizing idle test with
  | nil => exact h
  | cons first rest ih =>
    cases hfirst : test first with
    | false =>
      rw [List.filter_cons_of_neg (by simp [hfirst])]
      exact .drop (first, output) (htest first hfirst) (ih h htest)
    | true =>
      rw [List.filter_cons_of_pos hfirst, List.eraseDups_cons, List.filter_filter]
      apply Thinned.keep (first, output)
      apply ih
      · exact h.mono fun id hid => .inl hid
      · intro id hid
        rw [Bool.and_eq_false_iff] at hid
        rcases hid with hsame | hout
        · exact .inr (by simpa using hsame)
        · exact .inl (htest id hout)

/-- **The targets that follow a node and its thin copy**, on stacks of which one is thinned. -/
theorem thinned_next {other : Tour σ} (hmode : other.mode = tour.mode) (node : Node) (output : Json)
    (hidle : ∀ id, tour.graph.node? id = none → idle id) (h : Thinned idle stack stack') :
    Thinned idle (tour.next node output ++ stack) (other.next (tour.graph.thin node) output ++ stack') := by
  unfold next
  rw [Graph.thin_isBranching, hmode]
  by_cases hbranch : node.isBranching = true
  · have hthin : tour.graph.thin node = node := by rw [Graph.thin, if_pos hbranch]
    rw [hthin]
    exact h.append _
  · have hsuccessors : (tour.graph.thin node).successors =
        (node.successors.filter fun id => (tour.graph.node? id).isSome).eraseDups := by
      rw [Graph.thin, if_neg hbranch]
    rw [hsuccessors, if_neg (by simp [hbranch]), if_neg (by simp [hbranch])]
    apply h.append_dedup
    intro id hid
    exact hidle id (by simpa using hid)

end Run.Tour

end WorkflowLab
