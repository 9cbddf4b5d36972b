import WorkflowLab.Proofs.Json.Parts
import WorkflowLab.Proofs.Walk.Machine

/-!
# What nodes hand on

- `next_eq_iff`: the nodes whose output goes to all their successors unchanged;
- `handedBy`: the targets of the calls that a node makes; `Covers`: these are all that there are, unless the walk fails;
- `covers_arrivals`: the calls of a node that was run are for the targets that follow it, in their order;
- `mem_handled_iff`: the first call for an id runs its node with the input of the call.
-/

namespace WorkflowLab

/-- An object is none of its own members. -/
theorem Json.get_ne_self {v : Json} (h : v.isObject = true) (key : String) : v.get key ≠ v := by
  intro heq
  cases v with
  | obj fields =>
    have hget : (Fields.get? fields key).getD .null = .obj fields := heq
    cases hfield : Fields.get? fields key with
    | none => rw [hfield] at hget; cases hget
    | some value =>
      rw [hfield, Option.getD_some] at hget
      have hdepth := depth_lt_of_mem_fields (Fields.mem_of_get? hfield)
      rw [hget] at hdepth
      exact Nat.lt_irrefl _ hdepth
  | _ => cases h

namespace Run.Tour

variable {σ : Type} (tour : Tour σ)

/-- **The nodes that hand on their output unchanged to every successor**: all but branching nodes with successors whose
output is an object. -/
theorem next_eq_iff (node : Node) (output : Json) :
    tour.next node output = node.successors.map (fun id => (id, output)) ↔
      ¬(node.isBranching = true ∧ output.isObject = true ∧ node.successors ≠ []) := by
  unfold next
  by_cases hbranch : node.isBranching = true ∧ output.isObject = true
  · rw [if_pos (by simpa using hbranch)]
    constructor
    · rintro heq ⟨-, hobject, hsome⟩
      obtain ⟨first, rest, hsuccessors⟩ := List.exists_cons_of_ne_nil hsome
      rw [hsuccessors, List.map_cons] at heq
      -- the targets that follow a branching node have the result in its output for input
      have hmem : (first, output) ∈ (tour.mode.select (first :: rest) (output.get "branch")).toList.map
          fun id => (id, output.get "result") := by
        rw [heq]
        exact List.mem_cons_self
      obtain ⟨id, -, hid⟩ := List.mem_map.mp hmem
      exact Json.get_ne_self hobject "result" (Prod.mk.inj hid).2
    · intro hnone
      have hempty : node.successors = [] := Classical.not_not.mp fun hne => hnone ⟨hbranch.1, hbranch.2, hne⟩
      rw [hempty]
      unfold BranchMode.select
      cases tour.mode with
      | legacy => rfl
      | strict => dsimp only; split <;> rfl
  · rw [if_neg (by simpa using hbranch)]
    exact iff_of_true rfl fun h => hbranch ⟨h.1, h.2.1⟩

/-! ## The calls of one node -/

/-- The targets of the calls of one node. -/
def handedBy (u : String) (calls : List (Option String × Target)) : List Target :=
  (calls.filter (·.1 == some u)).map (·.2)

@[simp] theorem handedBy_nil (u : String) : handedBy u [] = [] := rfl

theorem handedBy_append (u : String) (calls more : List (Option String × Target)) :
    handedBy u (calls ++ more) = handedBy u calls ++ handedBy u more := by
  rw [handedBy, List.filter_append, List.map_append]
  rfl

theorem handedBy_cons_of_ne {u : String} {caller : Option String} (h : caller ≠ some u) (target : Target)
    (calls : List (Option String × Target)) : handedBy u ((caller, target) :: calls) = handedBy u calls := by
  rw [handedBy, List.filter_cons_of_neg (by simpa using h)]
  rfl

theorem handedBy_cons_self (u : String) (target : Target) (calls : List (Option String × Target)) :
    handedBy u ((some u, target) :: calls) = target :: handedBy u calls := by
  rw [handedBy, List.filter_cons_of_pos (by simp), List.map_cons]
  rfl

/-- Calls go to targets in their order, and to all of them unless the walk has failed. -/
structure Covers (p : Progress σ) (calls targets : List Target) : Prop where
  inOrder : calls <+: targets
  complete : p.fault = none → calls = targets

/-- What a walk covers is covered when it goes on. -/
theorem Covers.explore {p : Progress σ} {calls targets : List Target} (h : Covers p calls targets)
    (rest : List Target) : Covers (tour.explore p rest) calls targets :=
  ⟨h.inOrder, fun hend => h.complete (tour.fault_of_explore hend)⟩

/-- A step that gives targets has run the node of its own target, for the first time. -/
theorem Moves.fresh_of_mem {p q : Progress σ} {target next : Target} {targets : List Target}
    (hmove : tour.Moves p target q targets) (hnext : next ∈ targets) : target.1 ∉ p.path ∧ target.1 ∈ q.path := by
  cases hmove with
  | stopped | again | missing | failed => cases hnext
  | passed _ hnew _ hid _ => exact ⟨hnew, by simp [hid]⟩

/-- What was visited is visited after a step. -/
theorem Moves.mem_path_of_mem {p q : Progress σ} {target : Target} {targets : List Target}
    (hmove : tour.Moves p target q targets) {id : String} (h : id ∈ p.path) : id ∈ q.path := by
  cases hmove with
  | stopped | again | missing => exact h
  | failed | passed => simp [h]

/-- The targets that a step gives follow the node that it has run. -/
theorem Moves.eq_next {p q : Progress σ} {target : Target} {targets : List Target}
    (hmove : tour.Moves p target q targets) (h : tour.Consistent p) {u : String} (hnew : u ∉ p.path) {output : Json}
    (hout : q.outputs.get? u = some output) :
    u = target.1 ∧ ∃ node, tour.graph.node? u = some node ∧ targets = tour.next node output := by
  have hbefore : p.outputs.get? u = none := by
    cases hbefore : p.outputs.get? u with
    | none => rfl
    | some other => exact absurd (h.mem_path tour (Fields.mem_keys_iff.mpr ⟨other, hbefore⟩)) hnew
  cases hmove with
  | stopped | again | missing | failed => exact nomatch hbefore.symm.trans hout
  | @passed node result state hfault hfresh hnode hid hrun =>
    have hout : (p.outputs.set node.id result).get? u = some output := hout
    by_cases hu : u = node.id
    · rw [hu, Fields.get?_set_self, Option.some.injEq] at hout
      exact ⟨hu.trans hid, node, by rw [hu, hid, hnode], by rw [hout]⟩
    · rw [Fields.get?_set_of_ne hu, hbefore] at hout
      cases hout

/-- An output at the end of a walk that was not made in it was there before. -/
theorem get?_outputs_of_explore {p : Progress σ} (h : tour.Consistent p) {u : String} (hu : u ∈ p.path)
    {targets : List Target} {output : Json} (hout : (tour.explore p targets).outputs.get? u = some output) :
    p.outputs.get? u = some output := by
  cases hf : p.fault with
  | some message => rwa [tour.explore_of_fault hf] at hout
  | none =>
    obtain ⟨before, hbefore⟩ := h.exists_output tour hf hu
    rw [tour.get?_outputs_explore h hbefore targets] at hout
    rw [hbefore, hout]

/-- A node that a walk does not run makes no calls in it, unless the walk goes through its own successors. -/
theorem handedBy_arrivals_eq_nil {p : Progress σ} {u : String} {source : Option String} (hsource : source ≠ some u)
    {targets : List Target} (hu : u ∈ (tour.explore p targets).path → u ∈ p.path) :
    handedBy u (tour.arrivals p source targets) = [] := by
  induction p, targets using tour.explore_induction generalizing source with
  | nil p => rw [arrivals_nil, handedBy_nil]
  | cons p target rest ihDeep ihWide =>
    cases hf : p.fault with
    | some message => rw [tour.arrivals_of_fault hf, handedBy_nil]
    | none =>
      have hmove := tour.step_moves p target
      rw [explore_cons] at hu
      rw [tour.arrivals_cons hf, handedBy_cons_of_ne hsource, handedBy_append]
      generalize (tour.step p target).1 = q, (tour.step p target).2 = next at hmove hu ihDeep ihWide ⊢
      have hq : u ∈ (tour.explore q next).path → u ∈ q.path :=
        fun hmem => hmove.mem_path_of_mem tour (hu (tour.mem_path_explore hmem rest))
      have hwide : u ∈ (tour.explore (tour.explore q next) rest).path → u ∈ (tour.explore q next).path :=
        fun hmem => tour.mem_path_explore (hmove.mem_path_of_mem tour (hu hmem)) next
      rw [ihWide hsource hwide, List.append_nil]
      cases next with
      | nil => rw [arrivals_nil, handedBy_nil]
      | cons first others =>
        refine ihDeep (fun heq => ?_) hq
        obtain ⟨hfresh, hvisited⟩ := hmove.fresh_of_mem tour List.mem_cons_self
        rw [Option.some.inj heq] at hfresh hvisited
        exact hfresh (hu (tour.mem_path_explore (tour.mem_path_explore hvisited _) rest))

/-- A node makes no calls in the walk that a step goes on with, if it was run before the step or is not run by the end of
that walk. -/
theorem Moves.handedBy_eq_nil {p q : Progress σ} {target : Target} {next : List Target}
    (hmove : tour.Moves p target q next) {u : String} (hu : u ∈ p.path ∨ u ∉ (tour.explore q next).path) :
    handedBy u (tour.arrivals q (some target.1) next) = [] := by
  cases next with
  | nil => rw [arrivals_nil, handedBy_nil]
  | cons first others =>
    obtain ⟨hfresh, hvisited⟩ := hmove.fresh_of_mem tour List.mem_cons_self
    refine tour.handedBy_arrivals_eq_nil (fun heq => ?_) fun hmem => ?_
    · obtain rfl := Option.some.inj heq
      exact hu.elim hfresh fun hnever => hnever (tour.mem_path_explore hvisited _)
    · exact hu.elim (hmove.mem_path_of_mem tour) fun hnever => absurd hmem hnever

/-- A walk through the successors of a node that was run calls them one after the other. -/
theorem covers_arrivals_of_source {p : Progress σ} {u : String} (hu : u ∈ p.path) (targets : List Target) :
    Covers (tour.explore p targets) (handedBy u (tour.arrivals p (some u) targets)) targets := by
  induction targets generalizing p with
  | nil => exact ⟨by simp, fun _ => by simp⟩
  | cons target rest ih =>
    cases hf : p.fault with
    | some message =>
      rw [tour.arrivals_of_fault hf, tour.explore_of_fault hf]
      exact ⟨List.nil_prefix, fun hnone => nomatch hf.symm.trans hnone⟩
    | none =>
      have hmove := tour.step_moves p target
      rw [tour.arrivals_cons hf, handedBy_cons_self, handedBy_append, explore_cons]
      generalize (tour.step p target).1 = q, (tour.step p target).2 = next at hmove ⊢
      have hrest := ih (tour.mem_path_explore (hmove.mem_path_of_mem tour hu) next)
      rw [hmove.handedBy_eq_nil tour (.inl hu), List.nil_append]
      exact ⟨(List.prefix_cons_inj target).mpr hrest.inOrder, fun hend => by rw [hrest.complete hend]⟩

/-- **The calls of a node are for the targets that follow it**, in their order, and for all of them unless the walk
fails. -/
theorem covers_arrivals {p : Progress σ} (h : tour.Consistent p) {u : String} {source : Option String}
    (hu : u ∉ p.path) (hsource : source ≠ some u) {targets : List Target} {node : Node} {output : Json}
    (hnode : tour.graph.node? u = some node) (hout : (tour.explore p targets).outputs.get? u = some output) :
    Covers (tour.explore p targets) (handedBy u (tour.arrivals p source targets)) (tour.next node output) := by
  have hmade : ∀ {q : Progress σ}, tour.Consistent q → q.outputs.get? u = some output → u ∈ q.path :=
    fun hq hout => hq.mem_path tour (Fields.mem_keys_iff.mpr ⟨output, hout⟩)
  induction p, targets using tour.explore_induction generalizing source with
  | nil p =>
    rw [explore_nil] at hout
    exact absurd (hmade h hout) hu
  | cons p target rest ihDeep ihWide =>
    cases hf : p.fault with
    | some message =>
      rw [tour.explore_of_fault hf] at hout
      exact absurd (hmade h hout) hu
    | none =>
      have hmove := tour.step_moves p target
      rw [explore_cons] at hout ⊢
      rw [tour.arrivals_cons hf, handedBy_cons_of_ne hsource, handedBy_append]
      generalize (tour.step p target).1 = q, (tour.step p target).2 = next at hmove hout ihDeep ihWide ⊢
      have hqc : tour.Consistent q := hmove.consistent tour h
      have hdeepc := tour.consistent_explore hqc next
      by_cases hdeep : u ∈ (tour.explore q next).path
      · have hdeepOut := tour.get?_outputs_of_explore hdeepc hdeep hout
        rw [tour.handedBy_arrivals_eq_nil hsource fun _ => hdeep, List.append_nil]
        refine Covers.explore tour ?_ rest
        by_cases hnow : u ∈ q.path
        · -- the step has run `u`, and the nested walk goes through its successors
          obtain ⟨rfl, other, hother, rfl⟩ :=
            hmove.eq_next tour h hu (tour.get?_outputs_of_explore hqc hnow hdeepOut)
          obtain rfl := Option.some.inj (hnode.symm.trans hother)
          exact tour.covers_arrivals_of_source hnow _
        · cases next with
          | nil => exact absurd (by rwa [explore_nil] at hdeep) hnow
          | cons first others =>
            refine ihDeep hqc hnow (fun heq => ?_) hdeepOut
            exact hnow (Option.some.inj heq ▸ (hmove.fresh_of_mem tour List.mem_cons_self).2)
      · rw [hmove.handedBy_eq_nil tour (.inr hdeep), List.nil_append]
        exact ihWide hdeepc hdeep hsource hout

/-! ## The input of a node -/

/-- **The first call for an id runs its node**, with the input of the call, if the id belongs to a node at all. -/
theorem mem_handled_iff (state : σ) (start : Target) {target : Target} :
    target ∈ (tour.explore (.start state) [start]).handled ↔
      (tour.graph.node? target.1).isSome ∧
        ∃ caller, (tour.arrivals (.start state) none [start]).find? (·.2.1 == target.1) = some (caller, target) := by
  have hstart := tour.consistent_start state
  have hwalk := tour.consistent_explore hstart [start]
  constructor
  · intro hhandled
    exact ⟨hwalk.known target.1 (List.mem_map_of_mem hhandled), tour.find?_arrivals hstart none hhandled (by simp)⟩
  · rintro ⟨hknown, caller, hcall⟩
    rcases tour.settled_of_mem_arrivals (List.mem_of_find?_eq_some hcall) with hvisited | hnone
    · obtain ⟨other, hother, hid⟩ := List.mem_map.mp hvisited
      obtain ⟨caller', hcall'⟩ := tour.find?_arrivals hstart none hother (by simp)
      rw [hid, hcall, Option.some.injEq, Prod.mk.injEq] at hcall'
      exact hcall'.2 ▸ hother
    · rw [hnone] at hknown
      cases hknown

end Run.Tour

end WorkflowLab
