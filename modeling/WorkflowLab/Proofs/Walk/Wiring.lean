import WorkflowLab.Run.Registry

/-!
# What successors matter to

Executors are given whole nodes. Those of the library do not look at the successors; others may, or promise not to.

- `Node.unwired`, `Task.unwired`: a node and a task without successors;
- `run_unwired`: executors of the library do the same without them;
- `Executor.turn?`: what an executor from elsewhere does;
- `Executor.IgnoresWiring`, `Registry.IgnoresWiring`: what such executors may promise.
-/

namespace WorkflowLab

/-- The node without its successors. -/
def Node.unwired (node : Node) : Node := { node with successors := [] }

namespace Node

variable {node node' : Node} (h : node'.unwired = node.unwired)
include h

theorem id_eq_of_unwired : node'.id = node.id := (congrArg Node.id h :)

theorem kind_eq_of_unwired : node'.kind = node.kind := (congrArg Node.kind h :)

theorem service_eq_of_unwired : node'.service = node.service := (congrArg Node.service h :)

end Node

namespace Run

/-- The task without the successors of its node. -/
def Task.unwired (task : Task) : Task := { task with node := task.node.unwired }

/-- Nodes that differ only in successors have executors in common. -/
theorem Registry.resolve?_eq_of_unwired (r : Registry) {node node' : Node} (h : node'.unwired = node.unwired) :
    r.resolve? node' = r.resolve? node := by
  rw [resolve?, resolve?, Node.variant, Node.variant, Node.kind_eq_of_unwired h, Node.service_eq_of_unwired h]

/-- A turn is carried out in the same way without the successors. -/
theorem Turn.carryOut_unwired (turn : Turn) (task : Task) : turn.carryOut task.unwired = turn.carryOut task := by
  have hwrite (notes : List Note) : Work.writeAll task.unwired notes = Work.writeAll task notes := by
    induction notes with
    | nil => rfl
    | cons note rest ih =>
      rw [Work.writeAll, Work.writeAll, ih]
      cases note <;> rfl
  rw [carryOut, carryOut, hwrite]

namespace Executor

/-- **An executor of the library does the same without the successors.** -/
theorem run_unwired {e : Executor} (hlibrary : ∀ name act, e ≠ .guest name act) (task : Task) :
    e.run task.unwired = e.run task := by
  cases e with
  | guest name act => exact absurd rfl (hlibrary name act)
  | manual | webhook | trigger | prompt | request | transform | condition | passthrough | output => rfl

/-- What an executor does, if it is from elsewhere, given the tasks of such executors up to the present one. -/
def turn? (tasks : List Task) : Executor → Option Turn
  | .guest _ act => some (act tasks)
  | _ => none

theorem turn?_of_library {e : Executor} (hlibrary : ∀ name act, e ≠ .guest name act) (tasks : List Task) :
    e.turn? tasks = none := by
  cases e with
  | guest name act => exact absurd rfl (hlibrary name act)
  | manual | webhook | trigger | prompt | request | transform | condition | passthrough | output => rfl

/-- **Successors make no difference to an executor**: neither those of the node that it runs, nor those of the nodes
before. -/
def IgnoresWiring (e : Executor) : Prop :=
  ∀ tasks tasks' : List Task, tasks'.map Task.unwired = tasks.map Task.unwired → e.turn? tasks' = e.turn? tasks

/-- Executors of the library ignore them. -/
theorem ignoresWiring_of_library {e : Executor} (hlibrary : ∀ name act, e ≠ .guest name act) : e.IgnoresWiring :=
  fun tasks tasks' _ => (turn?_of_library hlibrary tasks').trans (turn?_of_library hlibrary tasks).symm

end Executor

/-- Successors make no difference to the executors of a registry. -/
def Registry.IgnoresWiring (r : Registry) : Prop := ∀ node e, r.resolve? node = some e → e.IgnoresWiring

end Run

end WorkflowLab
