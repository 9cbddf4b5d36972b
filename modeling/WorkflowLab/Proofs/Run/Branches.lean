import WorkflowLab.Proofs.Journal.Blocks
import WorkflowLab.Proofs.Run.Departure
import WorkflowLab.Proofs.Run.Reported
import WorkflowLab.Proofs.Walk.Simulation

/-!
# Strict and legacy branches

In legacy mode a branching node goes on to its first successor whatever it has found. A strict run does the same as long
as what is found is the branch `true`.

- `Graph.TakesFirst`: every branching node that a run had to choose for has found the branch `true`;
- `explore_choosing_strict`: then the strict walk is the legacy walk;
- `run_strict_eq_legacy`: the same of runs.
-/

namespace WorkflowLab

/-- **Every choice of a run is for the branch `true`**: so says the output of each executed node that branches, if it is
an object and the node has a successor. -/
def Graph.TakesFirst (graph : Graph) (outputs : Fields) : Prop :=
  ∀ id node output, graph.node? id = some node → outputs.get? id = some output → node.isBranching = true →
    output.isObject = true → node.successors ≠ [] → output.get "branch" = .str "true"

namespace Run

namespace Tour

variable {σ : Type}

/-- The tour with another way to choose. -/
def choosing (tour : Tour σ) (mode : BranchMode) : Tour σ := { tour with mode }

/-- On the branch `true`, and where there is nothing to choose from, both ways to choose are the same. -/
theorem select_strict {successors : List String} {branch : Json} (h : successors ≠ [] → branch = .str "true") :
    BranchMode.strict.select successors branch = BranchMode.legacy.select successors branch := by
  cases successors with
  | nil => simp [BranchMode.select]
  | cons first rest =>
    rw [h (List.cons_ne_nil first rest)]
    simp [BranchMode.select, takesFirst]

/-- After such an output the same targets follow. -/
theorem next_choosing_strict (tour : Tour σ) {node : Node} {output : Json}
    (h : node.isBranching = true → output.isObject = true → node.successors ≠ [] →
      output.get "branch" = .str "true") :
    (tour.choosing .strict).next node output = (tour.choosing .legacy).next node output := by
  unfold next
  split
  · next hchoice =>
    rw [Bool.and_eq_true] at hchoice
    have hselect := select_strict (h hchoice.1 hchoice.2)
    simp only [choosing, hselect]
  · rfl

/-- **The strict walk is the legacy walk** when all choices of the legacy walk are for the branch `true`. -/
theorem explore_choosing_strict (tour : Tour σ) {p : Progress σ} {stack : List Target}
    (hp : (tour.choosing .legacy).Consistent p)
    (hfirst : tour.graph.TakesFirst ((tour.choosing .legacy).explore p stack).outputs) :
    (tour.choosing .strict).explore p stack = (tour.choosing .legacy).explore p stack := by
  induction p, stack using (tour.choosing .legacy).stack_induction with
  | nil p => rw [explore_nil, explore_nil]
  | cons p target rest ih =>
    rw [explore_stack] at hfirst
    rw [explore_stack, explore_stack]
    have hmove := (tour.choosing .legacy).step_moves p target
    generalize ((tour.choosing .legacy).step p target).1 = q,
      ((tour.choosing .legacy).step p target).2 = targets at hmove hfirst ih ⊢
    have hq := hmove.consistent _ hp
    -- the choice of this step shows in the outputs at the end
    have hsame : (tour.choosing .strict).step p target = (q, targets) := by
      cases hmove with
      | stopped hfault => exact Moves.step_eq (.stopped hfault)
      | again hfault hseen => exact Moves.step_eq (.again hfault hseen)
      | missing hfault hnew hnode => exact Moves.step_eq (.missing hfault hnew hnode)
      | failed hfault hnew hnode hid hrun => exact Moves.step_eq (.failed hfault hnew hnode hid hrun)
      | @passed node output state hfault hnew hnode hid hrun =>
        have hout : (p.passed node target.2 output state).outputs.get? target.1 = some output := by
          rw [← hid]; exact Fields.get?_set_self p.outputs node.id output
        have hend := get?_outputs_explore _ hq hout ((tour.choosing .legacy).next node output ++ rest)
        rw [← next_choosing_strict tour (hfirst target.1 node output hnode hend)]
        exact Moves.step_eq (.passed hfault hnew hnode hid hrun)
    rw [hsame]
    exact ih hq hfirst

end Tour

namespace Runner

/-- The runner with another way to choose. -/
def choosing (runner : Runner) (mode : BranchMode) : Runner := { runner with mode }

/-- **Strict branching refines legacy branching.** When every choice of a legacy run is for the branch `true`, the strict
run of the same graph is the same: its result, its calls and all else that it leaves behind. -/
theorem run_strict_eq_legacy (runner : Runner) (graph : Graph) (w : World)
    (hfirst : graph.TakesFirst ((runner.choosing .legacy).run graph w).1.outputs) :
    (runner.choosing .strict).run graph w = (runner.choosing .legacy).run graph w := by
  cases hstart : runner.locateTrigger graph with
  | error fault =>
    have hlegacy : (runner.choosing .legacy).locateTrigger graph = .error fault := hstart
    have hstrict : (runner.choosing .strict).locateTrigger graph = .error fault := hstart
    unfold run
    rw [hlegacy, hstrict]
  | ok trigger =>
    have hlegacy : (runner.choosing .legacy).locateTrigger graph = .ok trigger := hstart
    have hstrict : (runner.choosing .strict).locateTrigger graph = .ok trigger := hstart
    have hwalk : (runner.choosing .strict).voyage graph trigger w =
        (runner.choosing .legacy).voyage graph trigger w := by
      apply Tour.explore_choosing_strict (runner.tour graph)
      · exact Tour.consistent_start _ _
      · rwa [run_eq_walk hlegacy] at hfirst
    rw [run_eq_walk hlegacy, run_eq_walk hstrict, hwalk]

/-- A condition on the triggers' payload, with a cycle through the node that branches. -/
def crossroads : Graph where
  nodes := [
    { id := "t", kind := .trigger, service := "manual",
      config := [("inputData", .obj [("data", .str "sun")])], successors := ["x"], position := none, extra := [] },
    { id := "x", kind := .logic, service := "if-else", config := [("condition", .str "hasData")],
      successors := ["o", "t"], position := none, extra := [] },
    { id := "o", kind := .output, service := "", config := [], successors := ["x"], position := none, extra := [] }]

/-- What a run in legacy mode puts out there: the condition holds. -/
theorem outputs_crossroads :
    (((standard none offline .standard).choosing .legacy).run crossroads dawn).1.outputs =
      [("t", .obj [("data", .str "sun")]),
        ("x", .obj [("result", .obj [("data", .str "sun")]), ("branch", .str "true")]), ("o", .str "sun")] := by
  have htrigger : ((standard none offline .standard).choosing .legacy).locateTrigger crossroads = .ok _ := rfl
  rw [run_eq_walk htrigger, voyage, Tour.explore_of_within rfl]
  rfl

/-- So the strict run goes the same way. -/
theorem run_strict_crossroads :
    crossroads.TakesFirst (((standard none offline .standard).choosing .legacy).run crossroads dawn).1.outputs ∧
      ((standard none offline .standard).choosing .strict).run crossroads dawn =
        ((standard none offline .standard).choosing .legacy).run crossroads dawn := by
  have hfirst : crossroads.TakesFirst
      (((standard none offline .standard).choosing .legacy).run crossroads dawn).1.outputs := by
    rw [outputs_crossroads]
    intro id node output hnode hout hbranch _ _
    have hid := Fields.mem_keys_iff.mpr ⟨output, hout⟩
    simp only [Fields.keys, List.map_cons, List.map_nil, List.mem_cons, List.not_mem_nil, or_false] at hid
    rcases hid with rfl | rfl | rfl
    · cases hnode
      cases hbranch
    · cases hout
      rfl
    · cases hnode
      cases hbranch
  exact ⟨hfirst, run_strict_eq_legacy (standard none offline .standard) crossroads dawn hfirst⟩

end Runner

end Run

end WorkflowLab
