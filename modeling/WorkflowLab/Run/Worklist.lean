import WorkflowLab.Run.Walk

/-!
# Worklists

A machine that runs a graph with a single stack of targets: it takes the top target, drops it if its id was visited or
belongs to no node, and otherwise runs the node and puts the targets that follow it on top. It stops at the first node
that fails.

- `Tour.drain`: the machine.
-/

namespace WorkflowLab.Run.Tour

variable {σ : Type} (tour : Tour σ)

/-- Runs the machine until its stack is empty or a node fails. -/
def drain (p : Progress σ) (stack : List Target) : Progress σ :=
  match stack with
  | [] => p
  | (id, input) :: rest =>
    if _hnew : p.visited id then drain p rest
    else
      match _hnode : tour.graph.node? id with
      | none => drain { p with state := tour.missing id p.state } rest
      | some node =>
        let reached := tour.attend p node input
        if reached.1.fault.isSome then reached.1 else drain reached.1 (reached.2 ++ rest)
termination_by (tour.unvisited p, stack.length)
decreasing_by
  · exact Prod.Lex.right _ (by simp)
  · exact Prod.Lex.right _ (by simp)
  · obtain ⟨hmem, hid⟩ := tour.mem_and_id_of_node? _hnode
    exact Prod.Lex.left _ _ (tour.unvisited_attend hmem (by rw [hid]; simpa using _hnew) input)

end WorkflowLab.Run.Tour
