import WorkflowLab.Proofs.Journal.Blocks
import WorkflowLab.Proofs.Walk.Closure
import WorkflowLab.Proofs.Walk.Handing

/-!
# What nodes hand on in runs

- `Kind.simulated`: what a node without an executor of its own comes to;
- `Accounted`: the outputs of a walk are those that its nodes gave for their inputs;
- `run_handing`: the nodes of a run hand on their outputs unchanged to all their successors, but for those of the service
  `if-else` with an object for output. The kind of such a node makes no difference.
-/

namespace WorkflowLab

open Run

/-- The output of a node without an executor of its own: triggers ignore their input, output nodes show a part of it,
and others pass it on. -/
def Kind.simulated : Kind → Json → Json
  | .trigger, _ => .obj [("triggered", .bool true)]
  | .action, input => input
  | .logic, input => input
  | .output, input => projectOutput input

namespace Run

/-! ## Where outputs come from -/

namespace Tour

variable {σ : Type} (tour : Tour σ)

/-- Every output is one that its node gave for its input. -/
def Accounted (p : Progress σ) : Prop :=
  ∀ target ∈ p.handled, ∀ output, p.outputs.get? target.1 = some output →
    ∃ node before after, tour.graph.node? target.1 = some node ∧
      tour.handle node target.2 before = (.ok output, after)

/-- Every move keeps the outputs accounted for. -/
theorem Moves.accounted {p q : Progress σ} {target : Target} {targets : List Target}
    (hmove : tour.Moves p target q targets) (hp : tour.Consistent p) (h : tour.Accounted p) : tour.Accounted q := by
  cases hmove with
  | stopped | again | missing => exact h
  | @failed node message state hfault hnew hnode hid hrun =>
    intro other hother output hout
    rcases List.mem_append.mp hother with hother | hother
    · exact h other hother output hout
    · obtain rfl := List.mem_singleton.mp hother
      have hpath := hp.mem_path tour (Fields.mem_keys_iff.mpr ⟨output, hout⟩)
      exact absurd (hid ▸ hpath) hnew
  | @passed node result state hfault hnew hnode hid hrun =>
    intro other hother output hout
    have hout : (p.outputs.set node.id result).get? other.1 = some output := hout
    rcases List.mem_append.mp hother with hother | hother
    · have hne : other.1 ≠ node.id := fun heq => hnew (hid ▸ heq ▸ List.mem_map_of_mem hother)
      rw [Fields.get?_set_of_ne hne] at hout
      exact h other hother output hout
    · obtain rfl := List.mem_singleton.mp hother
      rw [Fields.get?_set_self, Option.some.injEq] at hout
      exact ⟨node, p.state, state, hid ▸ hnode, hout ▸ hrun⟩

/-- The outputs of every walk are accounted for. -/
theorem accounted_explore (state : σ) (targets : List Target) :
    tour.Accounted (tour.explore (.start state) targets) := by
  have hkeeps : ∀ {p target q targets}, tour.Moves p target q targets →
      tour.Consistent p ∧ tour.Accounted p → tour.Consistent q ∧ tour.Accounted q :=
    fun hmove hp => ⟨hmove.consistent tour hp.1, hmove.accounted tour hp.1 hp.2⟩
  have hstart : tour.Accounted (.start state) := fun _ h => nomatch h
  exact (tour.explore_keeps hkeeps targets ⟨tour.consistent_start state, hstart⟩).2

end Tour

/-! ## Runs -/

namespace Runner

variable (provider : Option Provider) (fetcher : Fetcher) (setup : Setup)

/-- **A node without an executor of its own is simulated.** -/
theorem handle_simulated {node : Node} (h : Service.ofVariant? node.variant = none) (input : Json) (w : World) :
    ((Runner.standard provider fetcher setup).handle node input w).1 = .ok (node.kind.simulated input) := by
  rw [handle_standard]
  unfold Registry.standardFor
  rw [h]
  cases hkind : node.kind <;> rfl

/-- **What nodes hand on in a run.** The first call for the id of a node runs it. The calls of a node that was run are
for the targets that follow it, in their order, and these are all its successors with its output, unless the node has
the service `if-else`, successors, and an object for output. A node without an executor of its own is simulated. -/
theorem run_handing {graph : Graph} {trigger : Node}
    (htrigger : (standard provider fetcher setup).locateTrigger graph = .ok trigger) (w : World) :
    ∃ start, let tour := (standard provider fetcher setup).tour graph
      let p := tour.explore (.start start) [(trigger.id, .null)]
      let calls := tour.arrivals (.start start) none [(trigger.id, .null)]
      ((standard provider fetcher setup).run graph w).1 = .ofWalk p ∧
      (∀ target, target ∈ p.handled ↔ (graph.node? target.1).isSome ∧
        ∃ caller, calls.find? (·.2.1 == target.1) = some (caller, target)) ∧
      ∀ u node output, graph.node? u = some node → p.outputs.get? u = some output →
        Tour.Covers p (Tour.handedBy u calls) (tour.next node output) ∧
        (tour.next node output = node.successors.map (fun id => (id, output)) ↔
          ¬(node.service = Service.ifElse.name ∧ output.isObject = true ∧ node.successors ≠ [])) ∧
        (Service.ofVariant? node.variant = none →
          ∀ target ∈ p.handled, target.1 = u → output = node.kind.simulated target.2) := by
  obtain ⟨start, p, -, -, rfl, hrun⟩ := run_of_ok htrigger w
  refine ⟨start, by rw [hrun], fun target => Tour.mem_handled_iff _ start _, fun u node output hnode hout => ?_⟩
  refine ⟨Tour.covers_arrivals _ (Tour.consistent_start _ start) (by simp) (by simp) hnode hout, ?_, ?_⟩
  · rw [Tour.next_eq_iff, Node.isBranching, beq_iff_eq]
  · intro hnone target htarget hid
    obtain ⟨other, before, after, hother, hhandle⟩ :=
      Tour.accounted_explore _ start _ target htarget output (by rw [hid]; exact hout)
    have hother : graph.node? target.1 = some other := hother
    rw [hid, hnode] at hother
    obtain rfl := Option.some.inj hother
    have hresult : ((standard provider fetcher setup).handle node target.2 before).1 = .ok output :=
      congrArg Prod.fst hhandle
    rw [handle_simulated provider fetcher setup hnone, Except.ok.injEq] at hresult
    exact hresult.symm

/-- A trigger with a payload before an action of some service, which has two outputs for successors. -/
def relay (service : String) : Graph where
  nodes := [
    { id := "t", kind := .trigger, service := "manual",
      config := [("inputData", .obj [("topic", .str "sun")])], successors := ["x"], position := none, extra := [] },
    { id := "x", kind := .action, service, config := [], successors := ["o", "p"], position := none, extra := [] },
    { id := "o", kind := .output, service := "", config := [], successors := [], position := none, extra := [] },
    { id := "p", kind := .output, service := "", config := [], successors := [], position := none, extra := [] }]

/-- Calls of this walk nest no deeper than its four nodes. -/
theorem exploreWithin_relay (service : String) (start : World) :
    ((standard none offline .standard).tour (relay service)).exploreWithin 5 (.start start) [("t", .null)] =
      some (((standard none offline .standard).tour (relay service)).explore (.start start) [("t", .null)]) := by
  have hcount : ((standard none offline .standard).tour (relay service)).unvisited (.start start) ≤ 4 :=
    List.countP_le_length
  exact Tour.exploreWithin_eq _ hcount _

/-- A simulated action hands its input on to both outputs. -/
theorem run_handing_relay : ∃ trigger start,
    (standard none offline .standard).locateTrigger (relay "slack") = .ok trigger ∧
      Tour.handedBy "x" (((standard none offline .standard).tour (relay "slack")).arrivals (.start start) none
        [(trigger.id, .null)]) = [("o", .obj [("topic", .str "sun")]), ("p", .obj [("topic", .str "sun")])] := by
  have htrigger : (standard none offline .standard).locateTrigger (relay "slack") = .ok _ := rfl
  obtain ⟨start, -, -, hhanded⟩ := run_handing none offline .standard htrigger dawn
  have hwithin : (((standard none offline .standard).tour (relay "slack")).exploreWithin 5 (.start start)
      [("t", .null)]).map (fun p => (p.fault, p.outputs.get? "x")) =
        some (none, some (.obj [("topic", .str "sun")])) := rfl
  rw [exploreWithin_relay] at hwithin
  obtain ⟨hfault, hout⟩ := Prod.mk.inj (Option.some.inj hwithin)
  obtain ⟨hcovers, hall, -⟩ := hhanded "x" _ _ rfl hout
  refine ⟨_, start, htrigger, (hcovers.complete hfault).trans (hall.mpr fun h => ?_)⟩
  exact absurd h.1 (by decide)

/-- An action of the service `if-else` is simulated too, but it hands null on to its first successor, and the other one
does not run. -/
theorem relay_drops_output :
    ((standard none offline .standard).run (relay "if-else") dawn).1.success = true ∧
      ((standard none offline .standard).run (relay "if-else") dawn).1.path = ["t", "x", "o"] ∧
      ((standard none offline .standard).run (relay "if-else") dawn).1.outputs =
        [("t", .obj [("topic", .str "sun")]), ("x", .obj [("topic", .str "sun")]), ("o", .null)] := by
  have htrigger : (standard none offline .standard).locateTrigger (relay "if-else") = .ok _ := rfl
  obtain ⟨start, p, -, -, hwalk, hrun⟩ := run_of_ok htrigger dawn
  have hwithin : (((standard none offline .standard).tour (relay "if-else")).exploreWithin 5 (.start start)
      [("t", .null)]).map (fun p => (p.fault, p.path, p.outputs)) = some (none, ["t", "x", "o"],
        [("t", .obj [("topic", .str "sun")]), ("x", .obj [("topic", .str "sun")]), ("o", .null)]) := rfl
  have hwalk : p = ((standard none offline .standard).tour (relay "if-else")).explore (.start start) [("t", .null)] :=
    hwalk
  rw [exploreWithin_relay, ← hwalk] at hwithin
  obtain ⟨hfault, hrecords⟩ := Prod.mk.inj (Option.some.inj hwithin)
  obtain ⟨hpath, houtputs⟩ := Prod.mk.inj hrecords
  rw [hrun]
  exact ⟨RunResult.success_of_ok (RunResult.verdict_of_no_fault hfault), hpath, houtputs⟩

end Runner

end Run

end WorkflowLab
