import WorkflowLab.Run.Walk

/-!
# Steps of a walk

- `Tour.Moves`: what one step of a walk can do, a case for each way to treat a target; `step_moves` says that a step
  does one of these;
- `explore_induction`: induction along the calls of a walk;
- `explore_of_fault`: a walk that has stopped does nothing more;
- `explore_keeps`: what every step keeps, every walk keeps;
- `Tour.StoppedAt`: a walk has stopped at a node that failed; `stoppedAt_of_explore`: every walk that fails has;
- `Tour.Settled`: targets that a walk need not go to any more.
-/

namespace WorkflowLab.Run.Tour

variable {σ : Type} (tour : Tour σ)

/-- **What a step does with a target**: nothing after a failure or at an id that was visited, a notice at an id of no
node, and otherwise a run of the first node of the id, which fails or has an output. -/
inductive Moves (p : Progress σ) (target : Target) : Progress σ → List Target → Prop
  | stopped {message : String} (hfault : p.fault = some message) : Moves p target p []
  | again (hfault : p.fault = none) (hseen : target.1 ∈ p.path) : Moves p target p []
  | missing (hfault : p.fault = none) (hnew : target.1 ∉ p.path) (hnode : tour.graph.node? target.1 = none) :
    Moves p target { p with state := tour.missing target.1 p.state } []
  | failed {node : Node} {message : String} {state : σ} (hfault : p.fault = none) (hnew : target.1 ∉ p.path)
    (hnode : tour.graph.node? target.1 = some node) (hid : node.id = target.1)
    (hrun : tour.handle node target.2 p.state = (.error message, state)) :
    Moves p target (p.failed node target.2 message state) []
  | passed {node : Node} {output : Json} {state : σ} (hfault : p.fault = none) (hnew : target.1 ∉ p.path)
    (hnode : tour.graph.node? target.1 = some node) (hid : node.id = target.1)
    (hrun : tour.handle node target.2 p.state = (.ok output, state)) :
    Moves p target (p.passed node target.2 output state) (tour.next node output)

/-- A step is one of the moves. -/
theorem step_moves (p : Progress σ) (target : Target) :
    tour.Moves p target (tour.step p target).1 (tour.step p target).2 := by
  unfold step
  split
  · next h =>
    rw [Bool.or_eq_true, Progress.visited_iff] at h
    cases hf : p.fault with
    | some message => exact .stopped hf
    | none =>
      rw [hf] at h
      exact .again hf (h.resolve_left (by simp))
  · next h =>
    simp only [Bool.or_eq_true, Progress.visited_iff, not_or, Bool.not_eq_true, Option.isSome_eq_false_iff,
      Option.isNone_iff_eq_none] at h
    obtain ⟨hf, hnew⟩ := h
    cases hnode : tour.graph.node? target.1 with
    | none => exact .missing hf hnew hnode
    | some node =>
      have hid := (tour.mem_and_id_of_node? hnode).2
      simp only [attend]
      cases hrun : tour.handle node target.2 p.state with
      | mk result state =>
        cases result with
        | error message => exact .failed hf hnew hnode hid hrun
        | ok output => exact .passed hf hnew hnode hid hrun

/-- Induction along a walk: for the targets that follow the first one, then for the rest. -/
theorem explore_induction {motive : Progress σ → List Target → Prop} (nil : ∀ p, motive p [])
    (cons : ∀ p target rest, motive (tour.step p target).1 (tour.step p target).2 →
      motive (tour.explore (tour.step p target).1 (tour.step p target).2) rest → motive p (target :: rest))
    (p : Progress σ) (targets : List Target) : motive p targets :=
  exploreFrom.induct tour motive nil (fun p target rest hdeep _ hwide _ => cons p target rest hdeep hwide) p targets

/-- A single target is walked to its end before its successors. -/
theorem explore_singleton (p : Progress σ) (target : Target) (targets : List Target)
    (h : (tour.step p target).2 = targets) : tour.explore p [target] = tour.explore (tour.step p target).1 targets := by
  rw [explore_cons, explore_nil, h]

/-! ## After a failure -/

/-- A walk that has stopped does nothing more. -/
theorem explore_of_fault {p : Progress σ} {message : String} (h : p.fault = some message) (targets : List Target) :
    tour.explore p targets = p := by
  induction targets with
  | nil => exact tour.explore_nil p
  | cons target rest ih =>
    have hstep : tour.step p target = (p, []) := by simp [step, h]
    rw [explore_cons, hstep, explore_nil, ih]

/-- A walk that ends without failure had none before. -/
theorem fault_of_explore {p : Progress σ} {targets : List Target} (h : (tour.explore p targets).fault = none) :
    p.fault = none := by
  cases hf : p.fault with
  | none => rfl
  | some message => rw [tour.explore_of_fault hf, hf] at h; exact h

/-! ## What walks keep -/

/-- What every move keeps, every walk keeps. -/
theorem explore_keeps {Inv : Progress σ → Prop}
    (hmove : ∀ {p target q targets}, tour.Moves p target q targets → Inv p → Inv q) {p : Progress σ}
    (targets : List Target) (h : Inv p) : Inv (tour.explore p targets) := by
  induction p, targets using tour.explore_induction with
  | nil p => rwa [explore_nil]
  | cons p target rest ihDeep ihWide =>
    rw [explore_cons]
    exact ihWide (ihDeep (hmove (tour.step_moves p target) h))

/-- A walk has stopped at a new node, which failed with a message; before that node, `Inv` held. -/
inductive StoppedAt (Inv : Progress σ → Prop) (message : String) : Progress σ → Prop
  | intro {p : Progress σ} {node : Node} {input : Json} {state : σ} (hinv : Inv p) (hnew : node.id ∉ p.path)
    (hnode : tour.graph.node? node.id = some node)
    (hrun : tour.handle node input p.state = (.error message, state)) :
    StoppedAt Inv message (p.failed node input message state)

/-- **A walk that fails has stopped at the node that failed**, and up to there it has kept what every move keeps. -/
theorem stoppedAt_of_explore {Inv : Progress σ → Prop}
    (hmove : ∀ {p target q targets}, tour.Moves p target q targets → Inv p → Inv q) {p : Progress σ} (h : Inv p)
    (hp : p.fault = none) {targets : List Target} {message : String}
    (hfault : (tour.explore p targets).fault = some message) :
    tour.StoppedAt Inv message (tour.explore p targets) := by
  have hkeeps : ∀ {p target q targets}, tour.Moves p target q targets →
      (Inv p ∧ ∀ message, p.fault = some message → tour.StoppedAt Inv message p) →
      Inv q ∧ ∀ message, q.fault = some message → tour.StoppedAt Inv message q := by
    rintro p target q targets hstep ⟨hinv, hstopped⟩
    refine ⟨hmove hstep hinv, fun message hq => ?_⟩
    cases hstep with
    | stopped | again => exact hstopped message hq
    | missing hnone => exact absurd hq (by simp [hnone])
    | failed _ hnew hnode hid hrun =>
      cases hq
      rw [← hid] at hnew hnode
      exact .intro hinv hnew hnode hrun
    | passed hnone => exact absurd hq (by simp [Progress.passed, hnone])
  exact (tour.explore_keeps hkeeps targets ⟨h, fun message hsome => absurd hsome (by simp [hp])⟩).2 message hfault

/-- What was visited stays visited. -/
theorem mem_path_explore {p : Progress σ} {id : String} (h : id ∈ p.path) (targets : List Target) :
    id ∈ (tour.explore p targets).path :=
  (tour.path_prefix_explore p targets).subset h

/-- What was handled stays handled. -/
theorem mem_handled_explore {p : Progress σ} {target : Target} (h : target ∈ p.handled) (targets : List Target) :
    target ∈ (tour.explore p targets).handled := by
  have hkeeps : ∀ {p q : Progress σ} {next targets}, tour.Moves p next q targets → target ∈ p.handled →
      target ∈ q.handled := by
    intro p q next targets hmove hp
    cases hmove with
    | stopped | again | missing => exact hp
    | failed | passed => exact List.mem_append_left _ hp
  exact tour.explore_keeps hkeeps targets h

/-- A step adds at most the id of its target to the path. -/
theorem Moves.mem_path {p q : Progress σ} {target : Target} {targets : List Target}
    (hmove : tour.Moves p target q targets) {id : String} (hid : id ∈ q.path) : id ∈ p.path ∨ id = target.1 := by
  cases hmove with
  | stopped | again | missing => exact .inl hid
  | failed _ _ _ hnid _ => simpa [hnid] using hid
  | passed _ _ _ hnid _ => simpa [hnid] using hid

/-- A step handles a target whose id is new and in the graph. -/
theorem Moves.handled {p q : Progress σ} {target : Target} {targets : List Target}
    (hmove : tour.Moves p target q targets) (hp : p.fault = none) (hnew : target.1 ∉ p.path)
    (hknown : (tour.graph.node? target.1).isSome) : target ∈ q.handled := by
  cases hmove with
  | stopped hfault => rw [hfault] at hp; cases hp
  | again _ hseen => exact absurd hseen hnew
  | missing _ _ hnode => rw [hnode] at hknown; cases hknown
  | failed _ _ _ hid _ => exact List.mem_append_right _ (by simp [hid])
  | passed _ _ _ hid _ => exact List.mem_append_right _ (by simp [hid])

/-! ## Settled targets -/

/-- A target is settled when its id was visited or belongs to no node. -/
def Settled (p : Progress σ) (target : Target) : Prop := target.1 ∈ p.path ∨ tour.graph.node? target.1 = none

/-- What is settled stays settled. -/
theorem Settled.explore {p : Progress σ} {target : Target} (h : tour.Settled p target) (targets : List Target) :
    tour.Settled (tour.explore p targets) target :=
  h.imp_left fun hmem => tour.mem_path_explore hmem targets

/-- A step settles its target, unless the walk had stopped. -/
theorem Moves.settled {p q : Progress σ} {target : Target} {targets : List Target}
    (hmove : tour.Moves p target q targets) (hp : p.fault = none) : tour.Settled q target := by
  cases hmove with
  | stopped hfault => rw [hfault] at hp; cases hp
  | again _ hseen => exact .inl hseen
  | missing _ _ hnode => exact .inr hnode
  | failed _ _ _ hid _ => exact .inl (by simp [hid])
  | passed _ _ _ hid _ => exact .inl (by simp [hid])

end WorkflowLab.Run.Tour
