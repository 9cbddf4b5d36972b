import WorkflowLab.Proofs.Walk.Outputs
import WorkflowLab.Run.Worklist

/-!
# The walk and the machine with a stack

- `drain_cons`: the machine takes one step of the walk and puts the targets that follow on top of its stack;
- `drain_append`: the top of the stack is drained like a walk along it, and then comes the rest of the stack;
- `Tour.arrivals`: the calls of a walk in their order, each with the node that makes it;
- `drain_start_eq_explore`: walk and machine are the same, and every node gets the input of the call that arrives first.
-/

namespace WorkflowLab.Run.Tour

variable {σ : Type} (tour : Tour σ)

/-! ## The machine -/

/-- The machine takes the step of the walk at the top of its stack. -/
theorem drain_cons {p : Progress σ} (h : p.fault = none) (target : Target) (rest : List Target) :
    tour.drain p (target :: rest) =
      if (tour.step p target).1.fault.isSome then (tour.step p target).1
      else tour.drain (tour.step p target).1 ((tour.step p target).2 ++ rest) := by
  obtain ⟨id, input⟩ := target
  rw [drain]
  by_cases hnew : p.visited id = true
  · simp [step, h, hnew]
  · cases hnode : tour.graph.node? id with
    | none => simp [step, h, hnew, hnode]
    | some node => simp [step, h, hnew, hnode]

/-- **The simulation.** The machine drains the top of its stack like a walk along it; only then comes the rest, which
stands for the loops that are still going on. -/
theorem drain_append {p : Progress σ} (h : p.fault = none) (targets rest : List Target) :
    tour.drain p (targets ++ rest) =
      if (tour.explore p targets).fault.isSome then tour.explore p targets
      else tour.drain (tour.explore p targets) rest := by
  induction p, targets using tour.explore_induction generalizing rest with
  | nil p => simp [h]
  | cons p target targets ihDeep ihWide =>
    rw [List.cons_append, drain_cons tour h, explore_cons]
    generalize (tour.step p target).1 = q, (tour.step p target).2 = next at ihDeep ihWide ⊢
    cases hq : q.fault with
    | some message => simp [tour.explore_of_fault hq, hq]
    | none =>
      rw [if_neg (by simp), ihDeep hq (targets ++ rest)]
      cases hdeep : (tour.explore q next).fault with
      | some message => simp [tour.explore_of_fault hdeep, hdeep]
      | none => rw [if_neg (by simp), ihWide hdeep rest]

/-- The machine with a whole list of targets is the walk along it. -/
theorem drain_eq_explore {p : Progress σ} (h : p.fault = none) (targets : List Target) :
    tour.drain p targets = tour.explore p targets := by
  have happend := tour.drain_append h targets []
  rw [List.append_nil] at happend
  rw [happend, drain]
  split <;> rfl

/-! ## Arrivals -/

/-- The calls of a walk in their order: the node whose successors are gone through, if any, and the target. -/
def arrivals (p : Progress σ) (source : Option String) (targets : List Target) : List (Option String × Target) :=
  match targets with
  | [] => []
  | target :: rest =>
    if p.fault.isSome then []
    else
      (source, target) :: (arrivals (tour.step p target).1 (some target.1) (tour.step p target).2 ++
        arrivals (tour.explore (tour.step p target).1 (tour.step p target).2) source rest)
termination_by (tour.unvisited p, targets.length)
decreasing_by
  · exact tour.step_decreases p target rest
  · exact tour.rest_decreases ((tour.path_prefix_step p target).trans (tour.path_prefix_explore _ _)) target rest

@[simp] theorem arrivals_nil (p : Progress σ) (source : Option String) : tour.arrivals p source [] = [] := by
  rw [arrivals]

/-- A walk that has stopped makes no calls. -/
theorem arrivals_of_fault {p : Progress σ} {message : String} (h : p.fault = some message) (source : Option String)
    (targets : List Target) : tour.arrivals p source targets = [] := by
  cases targets with
  | nil => exact tour.arrivals_nil p source
  | cons target rest => rw [arrivals, if_pos (by simp [h])]

/-- The calls for the first target come before those for the others. -/
theorem arrivals_cons {p : Progress σ} (h : p.fault = none) (source : Option String) (target : Target)
    (rest : List Target) :
    tour.arrivals p source (target :: rest) =
      (source, target) :: (tour.arrivals (tour.step p target).1 (some target.1) (tour.step p target).2 ++
        tour.arrivals (tour.explore (tour.step p target).1 (tour.step p target).2) source rest) := by
  rw [arrivals, if_neg (by simp [h])]

/-- A call is for one of the targets, or a node that was run hands it on. -/
theorem mem_arrivals {p : Progress σ} (h : tour.Consistent p) {source caller : Option String}
    {targets : List Target} {target : Target} (harrival : (caller, target) ∈ tour.arrivals p source targets) :
    caller = source ∧ target ∈ targets ∨ ∃ u node output, caller = some u ∧ tour.graph.node? u = some node ∧
      (tour.explore p targets).outputs.get? u = some output ∧ target ∈ tour.next node output := by
  induction p, targets using tour.explore_induction generalizing source with
  | nil p => simp at harrival
  | cons p first rest ihDeep ihWide =>
    cases hf : p.fault with
    | some message => simp [tour.arrivals_of_fault hf] at harrival
    | none =>
      rw [tour.arrivals_cons hf] at harrival
      rw [explore_cons]
      have hmove := tour.step_moves p first
      generalize (tour.step p first).1 = q, (tour.step p first).2 = next at hmove harrival ihDeep ihWide ⊢
      have hqc : tour.Consistent q := hmove.consistent tour h
      have hdeepc := tour.consistent_explore hqc next
      rcases List.mem_cons.mp harrival with heq | harrival
      · cases heq
        exact .inl ⟨rfl, List.mem_cons_self⟩
      rcases List.mem_append.mp harrival with hdeep | hwide
      · rcases ihDeep hqc hdeep with ⟨rfl, ht⟩ | ⟨u, node, output, hu, hnode, hout, ht⟩
        · -- only a node that has just been run has targets to hand on
          obtain ⟨node, output, hnode, hout, ht⟩ := hmove.follows tour ht
          exact .inr ⟨first.1, node, output, rfl, hnode,
            tour.get?_outputs_explore hdeepc (tour.get?_outputs_explore hqc hout _) rest, ht⟩
        · exact .inr ⟨u, node, output, hu, hnode, tour.get?_outputs_explore hdeepc hout rest, ht⟩
      · rcases ihWide hdeepc hwide with ⟨hs, ht⟩ | hhanded
        · exact .inl ⟨hs, List.mem_cons_of_mem _ ht⟩
        · exact .inr hhanded

/-- A call settles its target. -/
theorem settled_of_mem_arrivals {p : Progress σ} {source caller : Option String} {targets : List Target}
    {target : Target} (h : (caller, target) ∈ tour.arrivals p source targets) :
    tour.Settled (tour.explore p targets) target := by
  induction p, targets using tour.explore_induction generalizing source with
  | nil p => simp at h
  | cons p first rest ihDeep ihWide =>
    cases hf : p.fault with
    | some message => simp [tour.arrivals_of_fault hf] at h
    | none =>
      rw [tour.arrivals_cons hf] at h
      rw [explore_cons]
      rcases List.mem_cons.mp h with heq | h
      · cases heq
        exact (((tour.step_moves p target).settled tour hf).explore tour _).explore tour rest
      · rcases List.mem_append.mp h with hdeep | hwide
        · exact (ihDeep hdeep).explore tour rest
        · exact ihWide hwide

/-- A walk that does not run a node makes no call for it. -/
theorem find?_arrivals_eq_none {p : Progress σ} {source : Option String} {targets : List Target} {id : String}
    (hknown : (tour.graph.node? id).isSome) (hnever : id ∉ (tour.explore p targets).path) :
    (tour.arrivals p source targets).find? (·.2.1 == id) = none := by
  refine List.find?_eq_none.mpr fun ⟨caller, target⟩ hcall heq => ?_
  obtain rfl : target.1 = id := by simpa using heq
  rcases tour.settled_of_mem_arrivals hcall with hin | hout
  · exact hnever hin
  · rw [hout] at hknown
    cases hknown

/-- **A node gets the input of the call that arrives first.** -/
theorem find?_arrivals {p : Progress σ} (h : tour.Consistent p) (source : Option String) {targets : List Target}
    {target : Target} (hhandled : target ∈ (tour.explore p targets).handled) (hnew : target.1 ∉ p.path) :
    ∃ caller, (tour.arrivals p source targets).find? (·.2.1 == target.1) = some (caller, target) := by
  induction p, targets using tour.explore_induction generalizing source with
  | nil p =>
    rw [explore_nil] at hhandled
    exact absurd (List.mem_map_of_mem hhandled) hnew
  | cons p first rest ihDeep ihWide =>
    cases hf : p.fault with
    | some message =>
      rw [tour.explore_of_fault hf] at hhandled
      exact absurd (List.mem_map_of_mem hhandled) hnew
    | none =>
      have hwhole := tour.consistent_explore h (first :: rest)
      have hknown := hwhole.known target.1 (List.mem_map_of_mem hhandled)
      have hmove := tour.step_moves p first
      have hqc : tour.Consistent (tour.step p first).1 := hmove.consistent tour h
      have hdeepc := tour.consistent_explore hqc (tour.step p first).2
      rw [tour.arrivals_cons hf]
      rw [explore_cons] at hhandled hwhole
      by_cases hid : first.1 = target.1
      · have hfirst := hmove.handled tour hf (hid ▸ hnew) (hid ▸ hknown)
        have hsame : first = target :=
          hwhole.eq_of_handled tour (tour.mem_handled_explore (tour.mem_handled_explore hfirst _) rest) hhandled hid
        exact ⟨source, by simp [hsame]⟩
      · have hq : target.1 ∉ (tour.step p first).1.path := fun hmem =>
          (hmove.mem_path tour hmem).elim hnew (fun e => hid e.symm)
        rw [List.find?_cons_of_neg (by simpa using hid), List.find?_append]
        by_cases hdeep : target.1 ∈ (tour.explore (tour.step p first).1 (tour.step p first).2).path
        · -- the nested walk ran the node, with its one input
          obtain ⟨target', ht', hid'⟩ := List.mem_map.mp hdeep
          obtain rfl := hwhole.eq_of_handled tour (tour.mem_handled_explore ht' rest) hhandled hid'
          obtain ⟨caller, hcaller⟩ := ihDeep hqc (some first.1) ht' hq
          exact ⟨caller, by rw [hcaller]; rfl⟩
        · rw [tour.find?_arrivals_eq_none hknown hdeep]
          exact ihWide hdeepc source hhandled hdeep

/-! ## The whole walk -/

/-- **Walk and machine are the same**, up to the first failure: the machine that starts with one target on its stack
handles the same nodes with the same inputs. And every node that is run has the input of the call that arrives first:
the start, or what an executed node hands on. -/
theorem drain_start_eq_explore (state : σ) (start : Target) :
    tour.drain (.start state) [start] = tour.explore (.start state) [start] ∧
      ∀ target ∈ (tour.explore (.start state) [start]).handled,
        ∃ caller, (tour.arrivals (.start state) none [start]).find? (·.2.1 == target.1) = some (caller, target) ∧
          match caller with
          | none => target = start
          | some u => ∃ node output, tour.graph.node? u = some node ∧
            (tour.explore (.start state) [start]).outputs.get? u = some output ∧ target ∈ tour.next node output := by
  have hconsistent := tour.consistent_start state
  refine ⟨tour.drain_eq_explore rfl [start], fun target ht => ?_⟩
  obtain ⟨caller, hcaller⟩ := tour.find?_arrivals hconsistent none ht (by simp)
  refine ⟨caller, hcaller, ?_⟩
  have hcall := List.mem_of_find?_eq_some hcaller
  rcases tour.mem_arrivals hconsistent hcall with ⟨rfl, hstart⟩ | ⟨u, node, output, rfl, h⟩
  · exact List.mem_singleton.mp hstart
  · exact ⟨node, output, h⟩

end WorkflowLab.Run.Tour
