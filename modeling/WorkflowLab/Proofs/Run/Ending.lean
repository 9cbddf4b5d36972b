import Mathlib.Logic.ExistsUnique
import WorkflowLab.Proofs.Run.Outcome
import WorkflowLab.Proofs.Walk.Outputs

/-!
# Endings of runs

- `Ending`, `Ending.Fits`: the three ways in which runs end, and what their results look like;
- `fits_refused`, `fits_walk`: a refusal fits an ending, and so does a walk;
- `runPayload_ending`: the result of every run fits exactly one ending, and clients see which.
-/

namespace WorkflowLab.Run

/-- The ways in which runs end. -/
inductive Ending where
  /-- No node was run. -/
  | refused
  /-- A node failed. -/
  | aborted
  /-- No node failed. -/
  | completed
deriving DecidableEq

/-- **What the result of a run looks like in each ending.** After a failure the outputs are those of the path without
its last node; otherwise they are those of the path, and the final output is that of the last output node on it. -/
def Ending.Fits (payload : Json) (r : RunResult) : Ending → Prop
  | .refused => r.success = false ∧ r.path = [] ∧ r.outputs = [] ∧ r.log.length = 1
  | .aborted => r.success = false ∧ r.path ≠ [] ∧ r.outputs.keys = r.path.dropLast
  | .completed => r.outputs.keys = r.path ∧ ∃ graph final, Graph.ofPayload payload = .ok graph ∧
    r.verdict = .ok final ∧ graph.Captures r.path r.outputs final

namespace Ending

variable {payload : Json} {r : RunResult}

/-- A refusal is a result of a run that was refused. -/
theorem fits_refused (message time : String) : Fits payload (.refusal message time) .refused :=
  ⟨rfl, rfl, rfl, rfl⟩

/-- A run succeeds exactly when it is completed. -/
theorem Fits.success_iff {ending : Ending} (h : ending.Fits payload r) : r.success = true ↔ ending = .completed := by
  cases ending with
  | refused => simp [h.1]
  | aborted => simp [h.1]
  | completed =>
    obtain ⟨_, graph, final, _, hfinal, _⟩ := h
    simp [RunResult.success_of_ok hfinal]

/-- A result fits one ending only. -/
theorem Fits.unique {a b : Ending} (ha : a.Fits payload r) (hb : b.Fits payload r) : a = b := by
  by_cases hok : r.success = true
  · rw [ha.success_iff.mp hok, hb.success_iff.mp hok]
  · cases a with
    | refused =>
      cases b with
      | refused => rfl
      | aborted => exact absurd ha.2.1 hb.2.1
      | completed => exact absurd (hb.success_iff.mpr rfl) hok
    | aborted =>
      cases b with
      | refused => exact absurd hb.2.1 ha.2.1
      | aborted => rfl
      | completed => exact absurd (hb.success_iff.mpr rfl) hok
    | completed => exact absurd (ha.success_iff.mpr rfl) hok

/-- Clients get a final output exactly from completed runs, and an error from all others. -/
theorem Fits.wire {ending : Ending} (h : ending.Fits payload r) :
    ∃ members, r.wire = .obj members ∧ (Fields.has members "finalOutput" = true ↔ ending = .completed) ∧
      (Fields.has members "error" = true ↔ ending ≠ .completed) := by
  rw [Ne, ← h.success_iff]
  cases hverdict : r.verdict with
  | ok final => exact ⟨_, rfl, by simp [hverdict, Fields.has, RunResult.success_of_ok hverdict]⟩
  | error message => exact ⟨_, rfl, by simp [hverdict, Fields.has, RunResult.success_of_error hverdict]⟩

end Ending

namespace Runner

variable (runner : Runner)

/-- A walk with a failure aborts a run, and one without failure completes it. -/
theorem fits_walk {payload : Json} {graph : Graph} (hgraph : Graph.ofPayload payload = .ok graph) (start : World)
    (targets : List Target) :
    ∃ ending, Ending.Fits payload (.ofWalk ((runner.tour graph).explore (.start start) targets)) ending := by
  have hconsistent := (runner.tour graph).consistent_explore ((runner.tour graph).consistent_start start) targets
  generalize (runner.tour graph).explore (.start start) targets = p at hconsistent
  cases hfault : p.fault with
  | some message =>
    obtain ⟨hpath, hkeys⟩ := hconsistent.keys_of_failed message hfault
    exact ⟨.aborted, RunResult.success_of_fault hfault, hpath, hkeys⟩
  | none =>
    exact ⟨.completed, hconsistent.keys_of_running hfault, graph, p.final, hgraph,
      RunResult.verdict_of_no_fault hfault, hconsistent.captures hfault⟩

/-- **Every run has a result, and it fits exactly one ending.** Clients get a final output exactly when the run was
completed, and an error exactly when it was not. -/
theorem runPayload_ending (payload : Json) (w : World) :
    (∃! ending, Ending.Fits payload (runner.runPayload payload w).1 ending) ∧
      ∀ ending, Ending.Fits payload (runner.runPayload payload w).1 ending →
        ∃ members, (runner.runPayload payload w).1.wire = .obj members ∧
          (Fields.has members "finalOutput" = true ↔ ending = .completed) ∧
          (Fields.has members "error" = true ↔ ending ≠ .completed) := by
  obtain ⟨ending, hfits⟩ : ∃ ending, Ending.Fits payload (runner.runPayload payload w).1 ending := by
    rcases runner.runPayload_outcome payload w with ⟨fault, time, w', _, hrun⟩ | ⟨graph, hgraph, hrun⟩
    · rw [hrun]
      exact ⟨.refused, Ending.fits_refused fault.message time⟩
    · generalize runner.runPayload payload w = ended at hrun
      cases hrun with
      | refused hfault time w' => exact ⟨.refused, Ending.fits_refused _ time⟩
      | walked htrigger hlog hwalk =>
        rw [hwalk]
        exact runner.fits_walk hgraph _ _
  exact ⟨⟨ending, hfits, fun other hother => hother.unique hfits⟩, fun other hother => hother.wire⟩

end Runner

end WorkflowLab.Run
