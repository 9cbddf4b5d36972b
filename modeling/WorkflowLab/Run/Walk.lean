import WorkflowLab.Graph.Basic
import WorkflowLab.Run.Registry

/-!
# Walks

A walk runs the nodes of a graph in depth-first order, each id at most once: the successors of a node in the order of
its list, every one to its end before the next. It stops at the first node that fails.

- `Tour`: what a walk is given, with any behaviour of the nodes;
- `Progress`: what a walk has done;
- `Tour.next`: the targets that follow a node, of which a branching node chooses one;
- `Tour.step`: one target;
- `Tour.explore`: the walk along a list of targets; `explore_nil` and `explore_cons` say what it does.
-/

namespace WorkflowLab.Run

/-- An id to go to, and the input for its node. -/
abbrev Target := String × Json

/-- What a walk is given: a graph, how branching nodes choose, what nodes do, and what happens at ids of no node. -/
structure Tour (σ : Type) where
  graph : Graph
  mode : BranchMode
  handle : Node → Json → σ → Except String Json × σ
  missing : String → σ → σ

/-- What a walk has done: the ids and inputs of the nodes it ran, in order, their outputs, the output of the last
output node, why it stopped early, and the state of its surroundings. -/
structure Progress (σ : Type) where
  handled : List Target
  outputs : Fields
  final : Json
  fault : Option String
  state : σ

namespace Progress

variable {σ : Type}

/-- Nothing done yet. -/
def start (state : σ) : Progress σ := ⟨[], [], .null, none, state⟩

/-- The ids of the nodes that were run, in order. -/
def path (p : Progress σ) : List String := p.handled.map (·.1)

/-- Whether the node of an id was run. -/
def visited (p : Progress σ) (id : String) : Bool := p.path.contains id

/-- What is done after a node that failed. -/
def failed (p : Progress σ) (node : Node) (input : Json) (message : String) (state : σ) : Progress σ :=
  { p with handled := p.handled ++ [(node.id, input)], fault := some message, state }

/-- What is done after a node with an output. -/
def passed (p : Progress σ) (node : Node) (input output : Json) (state : σ) : Progress σ :=
  { p with
    handled := p.handled ++ [(node.id, input)]
    outputs := p.outputs.set node.id output
    final := if node.kind = .output then output else p.final
    state }

@[simp] theorem path_start (state : σ) : (start state).path = [] := rfl

@[simp] theorem path_failed (p : Progress σ) (node : Node) (input : Json) (message : String) (state : σ) :
    (p.failed node input message state).path = p.path ++ [node.id] := by simp [path, failed]

@[simp] theorem path_passed (p : Progress σ) (node : Node) (input output : Json) (state : σ) :
    (p.passed node input output state).path = p.path ++ [node.id] := by simp [path, passed]

theorem visited_iff {p : Progress σ} {id : String} : p.visited id = true ↔ id ∈ p.path := by simp [visited]

end Progress

/-- Whether a node chose the branch `true`. -/
def takesFirst : Json → Bool
  | .str s => s == "true"
  | _ => false

/-- The successor that a branch leads to. -/
def BranchMode.select (mode : BranchMode) (successors : List String) (branch : Json) : Option String :=
  match mode with
  | .legacy => successors.head?
  | .strict => if takesFirst branch then successors.head? else successors[1]?

namespace Tour

variable {σ : Type} (tour : Tour σ)

/-- The targets that follow a node with an output. A branching node hands on only the result in its output. -/
def next (node : Node) (output : Json) : List Target :=
  if node.isBranching && output.isObject then
    (tour.mode.select node.successors (output.get "branch")).toList.map fun id => (id, output.get "result")
  else node.successors.map fun id => (id, output)

/-- Runs a node, and gives the targets that follow it. -/
def attend (p : Progress σ) (node : Node) (input : Json) : Progress σ × List Target :=
  match tour.handle node input p.state with
  | (.error message, state) => (p.failed node input message state, [])
  | (.ok output, state) => (p.passed node input output state, tour.next node output)

/-- Goes to one target, and gives the targets that follow it: none if the walk has stopped or the id was visited before
or belongs to no node. -/
def step (p : Progress σ) (target : Target) : Progress σ × List Target :=
  if p.fault.isSome || p.visited target.1 then (p, [])
  else
    match tour.graph.node? target.1 with
    | none => ({ p with state := tour.missing target.1 p.state }, [])
    | some node => tour.attend p node target.2

/-- How many nodes have ids that were not visited. -/
def unvisited (p : Progress σ) : Nat := tour.graph.nodes.countP fun node => !p.visited node.id

/-- Running a node adds its id to the path. -/
theorem path_attend (p : Progress σ) (node : Node) (input : Json) :
    (tour.attend p node input).1.path = p.path ++ [node.id] := by
  unfold attend
  split <;> simp

/-- A step leaves the path alone and gives no targets, or it adds the new id of a node of the graph. -/
theorem step_cases (p : Progress σ) (target : Target) :
    ((tour.step p target).1.path = p.path ∧ (tour.step p target).2 = []) ∨
      ∃ node, tour.graph.node? target.1 = some node ∧ p.visited target.1 = false ∧
        tour.step p target = tour.attend p node target.2 := by
  unfold step
  split
  · exact Or.inl ⟨rfl, rfl⟩
  · next h =>
    split
    · exact Or.inl ⟨rfl, rfl⟩
    · next node hnode => exact Or.inr ⟨node, hnode, by simp at h; exact h.2, rfl⟩

/-- The path only grows. -/
theorem path_prefix_step (p : Progress σ) (target : Target) : p.path <+: (tour.step p target).1.path := by
  rcases tour.step_cases p target with ⟨h, _⟩ | ⟨node, _, _, h⟩
  · exact ⟨[], by simp [h]⟩
  · rw [h, path_attend]
    exact List.prefix_append _ _

/-- A longer path leaves no more nodes unvisited. -/
theorem unvisited_mono {p q : Progress σ} (h : p.path <+: q.path) : tour.unvisited q ≤ tour.unvisited p := by
  unfold unvisited Progress.visited
  refine List.countP_mono_left fun node _ hq => ?_
  simp only [List.contains_eq_mem, Bool.not_eq_true', decide_eq_false_iff_not] at hq ⊢
  exact fun hp => hq (h.subset hp)

/-- Running a node that was not visited leaves fewer nodes unvisited. -/
theorem unvisited_attend {p : Progress σ} {node : Node} (hnode : node ∈ tour.graph.nodes)
    (hnew : p.visited node.id = false) (input : Json) :
    tour.unvisited (tour.attend p node input).1 < tour.unvisited p := by
  have hnow : (tour.attend p node input).1.visited node.id = true := by simp [Progress.visited, path_attend]
  have hle : ∀ nodes : List Node,
      nodes.countP (fun n => !(tour.attend p node input).1.visited n.id) ≤ nodes.countP fun n => !p.visited n.id := by
    intro nodes
    refine List.countP_mono_left fun n _ hn => ?_
    simp only [Progress.visited, path_attend, List.contains_eq_mem, Bool.not_eq_true', decide_eq_false_iff_not] at hn ⊢
    exact fun hp => hn (List.mem_append_left _ hp)
  obtain ⟨before, after, hsplit⟩ := List.append_of_mem hnode
  have hbefore := hle before
  have hafter := hle after
  unfold unvisited
  rw [hsplit]
  simp only [List.countP_append, List.countP_cons, hnow, hnew]
  simp
  omega

/-- The node of an id is in the graph and has the id. -/
theorem mem_and_id_of_node? {id : String} {node : Node} (h : tour.graph.node? id = some node) :
    node ∈ tour.graph.nodes ∧ node.id = id :=
  ⟨List.mem_of_find?_eq_some h, by simpa using List.find?_some h⟩

/-- A step gives no targets, or it leaves fewer nodes unvisited. -/
theorem step_shrinks (p : Progress σ) (target : Target) :
    (tour.step p target).2 = [] ∨ tour.unvisited (tour.step p target).1 < tour.unvisited p := by
  rcases tour.step_cases p target with ⟨_, h⟩ | ⟨node, hnode, hnew, h⟩
  · exact Or.inl h
  · obtain ⟨hmem, hid⟩ := tour.mem_and_id_of_node? hnode
    rw [h]
    exact Or.inr (tour.unvisited_attend hmem (by rw [hid]; exact hnew) target.2)

/-- The targets that follow a target are a smaller task: fewer nodes are unvisited, or no targets are left. -/
theorem step_decreases (p : Progress σ) (target : Target) (rest : List Target) :
    Prod.Lex (· < ·) (· < ·) (tour.unvisited (tour.step p target).1, (tour.step p target).2.length)
      (tour.unvisited p, (target :: rest).length) := by
  rcases tour.step_shrinks p target with h | h
  · rw [h]
    rcases Nat.lt_or_eq_of_le (tour.unvisited_mono (tour.path_prefix_step p target)) with hlt | heq
    · exact Prod.Lex.left _ _ hlt
    · rw [heq]; exact Prod.Lex.right _ (by simp)
  · exact Prod.Lex.left _ _ h

/-- The other targets are a smaller task, on a path that continues the one before. -/
theorem rest_decreases {p q : Progress σ} (h : p.path <+: q.path) (target : Target) (rest : List Target) :
    Prod.Lex (· < ·) (· < ·) (tour.unvisited q, rest.length) (tour.unvisited p, (target :: rest).length) := by
  rcases Nat.lt_or_eq_of_le (tour.unvisited_mono h) with hlt | heq
  · exact Prod.Lex.left _ _ hlt
  · rw [heq]; exact Prod.Lex.right _ (by simp)

/-- The walk along a list of targets, with the fact that its path continues the one before. -/
def exploreFrom (p : Progress σ) (targets : List Target) : { q : Progress σ // p.path <+: q.path } :=
  match targets with
  | [] => ⟨p, List.prefix_rfl⟩
  | target :: rest =>
    let reached := tour.step p target
    let deep := exploreFrom reached.1 reached.2
    let wide := exploreFrom deep.1 rest
    ⟨wide.1, (tour.path_prefix_step p target).trans (deep.2.trans wide.2)⟩
termination_by (tour.unvisited p, targets.length)
decreasing_by
  · exact tour.step_decreases p target rest
  · exact tour.rest_decreases ((tour.path_prefix_step p target).trans deep.2) target rest

/-- The walk along a list of targets. -/
def explore (p : Progress σ) (targets : List Target) : Progress σ := (tour.exploreFrom p targets).1

/-- Without targets nothing happens. -/
@[simp] theorem explore_nil (p : Progress σ) : tour.explore p [] = p := by
  simp [explore, exploreFrom]

/-- The first target is walked to its end before the others. -/
theorem explore_cons (p : Progress σ) (target : Target) (rest : List Target) :
    tour.explore p (target :: rest) =
      tour.explore (tour.explore (tour.step p target).1 (tour.step p target).2) rest := by
  unfold explore
  rw [exploreFrom]

/-- A walk continues its path. -/
theorem path_prefix_explore (p : Progress σ) (targets : List Target) : p.path <+: (tour.explore p targets).path :=
  (tour.exploreFrom p targets).2

end Tour

end WorkflowLab.Run
