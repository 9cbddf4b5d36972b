import WorkflowLab.Proofs.Walk.Steps

/-!
# Two walks side by side

A walk is a machine whose configurations are a progress and one stack of targets: the targets that follow the top one
are put in its place. So two walks can be compared step by step, also when one of them takes steps that the other one
leaves out.

- `explore_append`, `explore_stack`: the walk along a stack;
- `stack_induction`: induction along the configurations;
- `explore_follows`: a relation that every step of one walk keeps, with a step of the other walk or without one;
- `Progress.Alike`: two walks have done the same, in states that are related; `Moves.follow`: a step from there.
-/

namespace WorkflowLab.Run

variable {σ τ : Type}

namespace Tour

variable (tour : Tour σ)

/-! ## Stacks -/

/-- A walk along two lists is a walk along the first and then along the second. -/
theorem explore_append (p : Progress σ) (targets rest : List Target) :
    tour.explore p (targets ++ rest) = tour.explore (tour.explore p targets) rest := by
  induction targets generalizing p with
  | nil => rw [List.nil_append, explore_nil]
  | cons target targets ih => rw [List.cons_append, explore_cons, explore_cons, ih]

/-- The targets that follow the top of the stack take its place. -/
theorem explore_stack (p : Progress σ) (target : Target) (rest : List Target) :
    tour.explore p (target :: rest) = tour.explore (tour.step p target).1 ((tour.step p target).2 ++ rest) := by
  rw [explore_append, explore_cons]

/-- Induction along a walk, one step at a time: fewer nodes are unvisited after a step, or the stack is shorter. -/
theorem stack_induction {motive : Progress σ → List Target → Prop} (nil : ∀ p, motive p [])
    (cons : ∀ p target rest, motive (tour.step p target).1 ((tour.step p target).2 ++ rest) →
      motive p (target :: rest))
    (p : Progress σ) (stack : List Target) : motive p stack := by
  induction hn : tour.unvisited p using Nat.strongRecOn generalizing p stack with
  | _ n ihUnvisited =>
    induction stack generalizing p with
    | nil => exact nil p
    | cons target rest ihStack =>
      apply cons p target rest
      rcases Nat.lt_or_eq_of_le (tour.unvisited_mono (tour.path_prefix_step p target)) with hless | hsame
      · exact ihUnvisited _ (hn ▸ hless) _ _ rfl
      · have hnone := (tour.step_shrinks p target).resolve_right (by omega)
        rw [hnone, List.nil_append]
        exact ihStack _ (hsame.trans hn)

variable {tour}

/-- A step does nothing but its move. -/
theorem Moves.step_eq {p q : Progress σ} {target : Target} {targets : List Target}
    (hmove : tour.Moves p target q targets) : tour.step p target = (q, targets) := by
  cases hmove with
  | stopped hfault => simp [step, hfault]
  | again hfault hseen => simp [step, Progress.visited_iff.mpr hseen]
  | missing hfault hnew hnode => simp [step, hfault, Progress.visited, hnew, hnode]
  | failed hfault hnew hnode hid hrun => simp [step, hfault, Progress.visited, hnew, hnode, attend, hrun]
  | passed hfault hnew hnode hid hrun => simp [step, hfault, Progress.visited, hnew, hnode, attend, hrun]

/-- **A walk and another one that follows it.** When every step of the first keeps a relation between configurations,
with a step of the second or without one, then the second comes to a configuration that is related to the end of the
first. -/
theorem explore_follows {other : Tour τ} {Rel : Progress σ → List Target → Progress τ → List Target → Prop}
    (hstep : ∀ {p target rest q targets p' stack'}, Rel p (target :: rest) p' stack' →
      tour.Moves p target q targets →
        Rel q (targets ++ rest) p' stack' ∨
          ∃ target' rest' q' targets', stack' = target' :: rest' ∧ other.Moves p' target' q' targets' ∧
            Rel q (targets ++ rest) q' (targets' ++ rest'))
    {p : Progress σ} {stack : List Target} {p' : Progress τ} {stack' : List Target} (h : Rel p stack p' stack') :
    ∃ q' left', Rel (tour.explore p stack) [] q' left' ∧ other.explore p' stack' = other.explore q' left' := by
  induction p, stack using tour.stack_induction generalizing p' stack' with
  | nil p => exact ⟨p', stack', by rwa [explore_nil], rfl⟩
  | cons p target rest ih =>
    rw [explore_stack]
    rcases hstep h (tour.step_moves p target) with hstay | ⟨target', rest', q', targets', rfl, hmove, hboth⟩
    · exact ih hstay
    · obtain ⟨last, left, hlast, heq⟩ := ih hboth
      refine ⟨last, left, hlast, ?_⟩
      rw [explore_stack, hmove.step_eq, heq]

end Tour

/-! ## The same done -/

/-- Two computations come to the same result, in states that are related. -/
def SameResult {α : Type} (Same : σ → τ → Prop) (r : α × σ) (r' : α × τ) : Prop := r'.1 = r.1 ∧ Same r.2 r'.2

/-- What the first computation comes to when the second one is known. -/
theorem SameResult.exists_eq {α : Type} {Same : σ → τ → Prop} {r : α × σ} {a : α} {s' : τ}
    (h : SameResult Same r (a, s')) : ∃ s, r = (a, s) ∧ Same s s' :=
  ⟨r.2, Prod.ext h.1.symm rfl, h.2⟩

/-- Two walks have done the same, in states that are related. -/
structure Progress.Alike (Same : σ → τ → Prop) (p : Progress σ) (p' : Progress τ) : Prop where
  handled : p'.handled = p.handled
  outputs : p'.outputs = p.outputs
  final : p'.final = p.final
  fault : p'.fault = p.fault
  state : Same p.state p'.state

namespace Progress.Alike

variable {Same : σ → τ → Prop} {p : Progress σ} {p' : Progress τ}

/-- Nothing was done yet. -/
theorem start {s : σ} {s' : τ} (hs : Same s s') : (Progress.start s).Alike Same (Progress.start s') :=
  ⟨rfl, rfl, rfl, rfl, hs⟩

theorem path (h : p.Alike Same p') : p'.path = p.path := by rw [Progress.path, h.handled, Progress.path]

/-- The same node fails in the same way. -/
theorem failed (h : p.Alike Same p') {node node' : Node} (hid : node'.id = node.id) (input : Json) (message : String)
    {s : σ} {s' : τ} (hs : Same s s') :
    (p.failed node input message s).Alike Same (p'.failed node' input message s') where
  handled := by simp [Progress.failed, h.handled, hid]
  outputs := h.outputs
  final := h.final
  fault := rfl
  state := hs

/-- The same node has the same output. -/
theorem passed (h : p.Alike Same p') {node node' : Node} (hid : node'.id = node.id) (hkind : node'.kind = node.kind)
    (input output : Json) {s : σ} {s' : τ} (hs : Same s s') :
    (p.passed node input output s).Alike Same (p'.passed node' input output s') where
  handled := by simp [Progress.passed, h.handled, hid]
  outputs := by simp [Progress.passed, h.outputs, hid]
  final := by simp [Progress.passed, h.final, hkind]
  fault := h.fault
  state := hs

end Progress.Alike

namespace Tour

variable {tour : Tour σ} {other : Tour τ}

/-- **A step that two walks take together.** The nodes of the second tour may be changed in what runs do not see; then
the targets that follow may differ. -/
theorem Moves.follow {Same : σ → τ → Prop} {change : Node → Node} {p q : Progress σ} {p' : Progress τ}
    {target : Target} {targets : List Target} (hmove : tour.Moves p target q targets) (h : p.Alike Same p')
    (hid : ∀ node, (change node).id = node.id) (hkind : ∀ node, (change node).kind = node.kind)
    (hnode : other.graph.node? target.1 = (tour.graph.node? target.1).map change)
    (hmissing : ∀ {s s'}, Same s s' → Same (tour.missing target.1 s) (other.missing target.1 s'))
    (hhandle : ∀ node, tour.graph.node? target.1 = some node → target.1 ∉ p.path →
      SameResult Same (tour.handle node target.2 p.state) (other.handle (change node) target.2 p'.state)) :
    ∃ q' targets', other.Moves p' target q' targets' ∧ q.Alike Same q' ∧
      (targets = [] ∧ targets' = [] ∨ ∃ node output, tour.graph.node? target.1 = some node ∧
        q.outputs.get? node.id = some output ∧ q.path = p.path ++ [target.1] ∧
        targets = tour.next node output ∧ targets' = other.next (change node) output) := by
  cases hmove with
  | stopped hfault => exact ⟨p', [], .stopped (h.fault.trans hfault), h, .inl ⟨rfl, rfl⟩⟩
  | again hfault hseen => exact ⟨p', [], .again (h.fault.trans hfault) (h.path ▸ hseen), h, .inl ⟨rfl, rfl⟩⟩
  | missing hfault hnew hnone =>
    rw [hnone, Option.map_none] at hnode
    exact ⟨_, [], .missing (h.fault.trans hfault) (h.path ▸ hnew) hnode,
      ⟨h.handled, h.outputs, h.final, h.fault, hmissing h.state⟩, .inl ⟨rfl, rfl⟩⟩
  | @failed node message state hfault hnew hsome hnid hrun =>
    rw [hsome, Option.map_some] at hnode
    obtain ⟨hresult, hstate⟩ := hhandle node hsome hnew
    rw [hrun] at hresult hstate
    have hrun' : other.handle (change node) target.2 p'.state = (.error message, _) := Prod.ext hresult rfl
    exact ⟨_, [], .failed (h.fault.trans hfault) (h.path ▸ hnew) hnode ((hid node).trans hnid) hrun',
      h.failed (hid node) target.2 message hstate, .inl ⟨rfl, rfl⟩⟩
  | @passed node output state hfault hnew hsome hnid hrun =>
    rw [hsome, Option.map_some] at hnode
    obtain ⟨hresult, hstate⟩ := hhandle node hsome hnew
    rw [hrun] at hresult hstate
    have hrun' : other.handle (change node) target.2 p'.state = (.ok output, _) := Prod.ext hresult rfl
    refine ⟨_, _, .passed (h.fault.trans hfault) (h.path ▸ hnew) hnode ((hid node).trans hnid) hrun',
      h.passed (hid node) (hkind node) target.2 output hstate, .inr ⟨node, output, hsome, ?_, ?_, rfl, rfl⟩⟩
    · exact Fields.get?_set_self p.outputs node.id output
    · rw [Progress.path_passed, hnid]

/-- **Two walks of the same graph do the same** when each of its nodes comes to the same in related states. -/
theorem explore_alike {Same : σ → τ → Prop} (hgraph : other.graph = tour.graph) (hmode : other.mode = tour.mode)
    (hmissing : ∀ {id s s'}, Same s s' → Same (tour.missing id s) (other.missing id s'))
    (hhandle : ∀ {node input s s'}, Same s s' →
      SameResult Same (tour.handle node input s) (other.handle node input s'))
    {p : Progress σ} {p' : Progress τ} (h : p.Alike Same p') (stack : List Target) :
    (tour.explore p stack).Alike Same (other.explore p' stack) := by
  induction p, stack using tour.stack_induction generalizing p' with
  | nil p => rwa [explore_nil, explore_nil]
  | cons p target rest ih =>
    have hnode : other.graph.node? target.1 = (tour.graph.node? target.1).map id := by rw [hgraph, Option.map_id]; rfl
    obtain ⟨q', targets', hmove', halike, hboth⟩ := (tour.step_moves p target).follow h (fun _ => rfl) (fun _ => rfl)
      hnode hmissing fun node _ _ => hhandle h.state
    have hsame : targets' = (tour.step p target).2 := by
      rcases hboth with ⟨hnone, rfl⟩ | ⟨node, output, -, -, -, hnext, rfl⟩
      · exact hnone.symm
      · rw [hnext]
        simp only [next, hmode]
    rw [explore_stack, explore_stack, hmove'.step_eq, hsame]
    exact ih halike

end Tour

end WorkflowLab.Run
