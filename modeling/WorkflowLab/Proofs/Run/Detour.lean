import WorkflowLab.Proofs.Journal.Blocks
import WorkflowLab.Proofs.Run.Departure
import WorkflowLab.Proofs.Run.Twins
import WorkflowLab.Proofs.Walk.Detour
import WorkflowLab.Proofs.Walk.Thinning

/-!
# Runs with a detour

A simulated node on an edge passes its input on, and tells the log of its success. Nothing else in a run shows that it is
there.

- `handle_relay`: all that a simulated action or logic node does;
- `Detour.isTrace`: the entry that it leaves in the log;
- `Detour.Beside`: walks in both graphs that have done the same but for the new node; `Beside.relayed`, `Beside.both`;
- `run_detour`: a run in the graph with the detour is the run without it, but for the new node.
-/

namespace WorkflowLab

open Run

/-- A key that is erased after it was set. -/
theorem Fields.erase_set_self (fields : Fields) (key : String) (value : Json) :
    (fields.set key value).erase key = fields.erase key := by
  induction fields with
  | nil => simp [set, erase]
  | cons m rest ih =>
    obtain ⟨k, v⟩ := m
    unfold erase at ih ⊢
    rw [set_cons]
    split
    · next h => simp [h]
    · next h => simp [h, ih]

/-- Other keys are set just as well before one is erased. -/
theorem Fields.erase_set_of_ne {key other : String} (h : other ≠ key) (fields : Fields) (value : Json) :
    (fields.set other value).erase key = (fields.erase key).set other value := by
  induction fields with
  | nil => simp [set, erase, h]
  | cons m rest ih =>
    obtain ⟨k, v⟩ := m
    unfold erase at ih ⊢
    rw [set_cons]
    split
    · next hk =>
      subst hk
      simp [h, set_cons]
    · next hk =>
      by_cases hkey : k = key
      · simp [hkey, ih]
      · simp [hkey, ih, set_cons, hk]

namespace Run.Runner

/-- **All that a simulated node between others does**: it passes its input on, and tells the log of its success. -/
theorem handle_relay (provider : Option Provider) (fetcher : Fetcher) (setup : Setup) {node : Node}
    (hkind : node.kind = .action ∨ node.kind = .logic) (hservice : Service.ofVariant? node.variant = none)
    (input : Json) (w : World) :
    (standard provider fetcher setup).handle node input w =
      (.ok input, (Lab.enter node.id .success (node.kind.title ++ " " ++ node.service ++ " simulated") .null
        (entered node w)).2) := by
  have hexecutor : Registry.standardFor provider fetcher setup node = .passthrough := by
    unfold Registry.standardFor
    rw [hservice]
    rcases hkind with h | h <;> rw [h] <;> rfl
  rw [handle_standard, hexecutor]
  rfl

end Run.Runner

namespace Detour

variable (d : Detour)

/-- The entry that the new node leaves in the log. -/
def isTrace (entry : Entry) : Bool := entry.nodeId == d.via.id && entry.event == .success

/-- **Two worlds that show the same but for the new node**, which has left some traces in the log of the first. The clock
stands still. -/
structure Shows (traces : Nat) (w' w : World) : Prop where
  clock : w'.clock = w.clock
  still : w.clock.step = 0
  log : (w'.log.filter fun entry => !d.isTrace entry) = w.log
  traces : w'.log.countP d.isTrace = traces
  calls : w'.calls = w.calls
  guests : w'.guests.map Task.unwired = w.guests.map Task.unwired

/-- **Two walks that have done the same but for the new node.** -/
structure Beside (p' p : Progress World) : Prop where
  handled : (p'.handled.filter fun target => target.1 != d.via.id) = p.handled
  outputs : p'.outputs.erase d.via.id = p.outputs
  final : p'.final = p.final
  fault : p'.fault = p.fault
  state : d.Shows (p'.path.count d.via.id) p'.state p.state

variable {d}

/-! ## Worlds -/

namespace Shows

variable {traces : Nat} {w' w : World}

/-- Entries of other nodes are no traces. -/
theorem isTrace_of_ne {entry : Entry} (h : entry.nodeId ≠ d.via.id) : d.isTrace entry = false := by
  simp [isTrace, h]

/-- **A node of both graphs does the same in both worlds.** -/
theorem ran (h : d.Shows traces w' w) {runner : Runner} (hwrites : runner.registry.WritesOwn)
    (hignores : runner.registry.IgnoresWiring) {node' node : Node} (hnode : d.Rerouted node' node) (input : Json) :
    SameResult (fun v v' => d.Shows traces v' v) (runner.handle node input w) (runner.handle node' input w') := by
  obtain ⟨hresult, hstep⟩ := Runner.handle_unwired hignores input hnode.unwired h.clock h.calls h.guests
  obtain ⟨added, hlog, hown⟩ := Runner.handle_written hwrites node input w
  have hforeign : ∀ entry ∈ added, d.isTrace entry = false := by
    intro entry hentry
    exact isTrace_of_ne (hown entry hentry ▸ hnode.new)
  obtain ⟨same, hlog₁, hlog'⟩ := hstep.log
  obtain rfl : added = same := List.append_cancel_left (hlog.symm.trans hlog₁)
  refine ⟨hresult, hstep.clock, ?_, ?_, ?_, hstep.calls_eq h.calls, hstep.guests_eq h.guests⟩
  · rw [hstep.still h.still]
    exact h.still
  · have hkept : (added.filter fun entry => !d.isTrace entry) = added := by
      rw [List.filter_eq_self]
      intro entry hentry
      rw [hforeign entry hentry]
      rfl
    rw [hlog, hlog', List.filter_append, h.log, hkept]
  · have hnone : added.countP d.isTrace = 0 := by
      rw [List.countP_eq_zero]
      intro entry hentry
      rw [hforeign entry hentry]
      exact Bool.false_ne_true
    rw [hlog', List.countP_append, h.traces, hnone, Nat.add_zero]

/-- The new node leaves one more trace. -/
theorem relayed (h : d.Shows traces w' w) (provider : Option Provider) (fetcher : Fetcher) (setup : Setup)
    (input : Json) :
    ((Runner.standard provider fetcher setup).handle d.via input w').1 = .ok input ∧
      d.Shows (traces + 1) ((Runner.standard provider fetcher setup).handle d.via input w').2 w := by
  rw [Runner.handle_relay provider fetcher setup d.relay d.simulated]
  refine ⟨rfl, ?_, h.still, ?_, ?_, h.calls, h.guests⟩
  · show w'.clock.tick.2 = w.clock
    rw [h.clock, tick_of_still h.still]
  · show ((w'.log ++ [_]).filter fun entry => !d.isTrace entry) = w.log
    rw [List.filter_append, h.log, List.filter_cons_of_neg (by simp [isTrace]), List.filter_nil, List.append_nil]
  · show (w'.log ++ [_]).countP d.isTrace = traces + 1
    rw [List.countP_append, h.traces, List.countP_cons_of_pos (by simp [isTrace]), List.countP_nil]

/-- Notes are not compared. -/
theorem missed (h : d.Shows traces w' w) (id id' : String) :
    d.Shows traces ((Runner.noteMissing id').run w').2 ((Runner.noteMissing id).run w).2 :=
  ⟨h.clock, h.still, h.log, h.traces, h.calls, h.guests⟩

end Shows

/-! ## Walks -/

namespace Beside

variable {p' p : Progress World}

theorem path (h : d.Beside p' p) : (p'.path.filter fun id => id != d.via.id) = p.path := by
  rw [Progress.path, List.filter_map, Progress.path, ← h.handled]
  rfl

/-- The same old ids were visited. -/
theorem mem_path (h : d.Beside p' p) {id : String} (hid : id ≠ d.via.id) : id ∈ p'.path ↔ id ∈ p.path := by
  rw [← h.path, List.mem_filter]
  simp [hid]

/-- The new node is told apart from others on paths. -/
theorem count_concat {path : List String} {id : String} (hid : id ≠ d.via.id) :
    (path ++ [id]).count d.via.id = path.count d.via.id := by
  rw [List.count_append, List.count_singleton, if_neg (by simpa using hid), Nat.add_zero]

section Nodes

variable {node' node : Node} {v' v : World}

/-- A node of both graphs fails in both. -/
theorem failed (h : d.Beside p' p) (hnode : d.Rerouted node' node) (input : Json) (message : String)
    (hstate : d.Shows (p'.path.count d.via.id) v' v) :
    d.Beside (p'.failed node' input message v') (p.failed node input message v) where
  handled := by
    show ((p'.handled ++ [(node'.id, input)]).filter _) = p.handled ++ [(node.id, input)]
    rw [List.filter_append, h.handled, hnode.id, List.filter_cons_of_pos (by simpa using hnode.new), List.filter_nil]
  outputs := h.outputs
  final := h.final
  fault := rfl
  state := by
    rw [Progress.path_failed, hnode.id, count_concat hnode.new]
    exact hstate

/-- A node of both graphs has an output in both. -/
theorem passed (h : d.Beside p' p) (hnode : d.Rerouted node' node) (input output : Json)
    (hstate : d.Shows (p'.path.count d.via.id) v' v) :
    d.Beside (p'.passed node' input output v') (p.passed node input output v) where
  handled := by
    show ((p'.handled ++ [(node'.id, input)]).filter _) = p.handled ++ [(node.id, input)]
    rw [List.filter_append, h.handled, hnode.id, List.filter_cons_of_pos (by simpa using hnode.new), List.filter_nil]
  outputs := by
    show (p'.outputs.set node'.id output).erase d.via.id = p.outputs.set node.id output
    rw [hnode.id, Fields.erase_set_of_ne hnode.new, h.outputs]
  final := by
    show (if node'.kind = .output then output else p'.final) = if node.kind = .output then output else p.final
    rw [hnode.kind, h.final]
  fault := h.fault
  state := by
    rw [Progress.path_passed, hnode.id, count_concat hnode.new]
    exact hstate

/-- The new node passes its input on. -/
theorem relayed (h : d.Beside p' p) (input : Json) (hstate : d.Shows (p'.path.count d.via.id + 1) v' p.state) :
    d.Beside (p'.passed d.via input input v') p where
  handled := by
    show ((p'.handled ++ [(d.via.id, input)]).filter _) = p.handled
    rw [List.filter_append, h.handled, List.filter_cons_of_neg (by simp), List.filter_nil, List.append_nil]
  outputs := (Fields.erase_set_self ..).trans h.outputs
  final := by
    have hkind : d.via.kind ≠ .output := by rcases d.relay with h | h <;> rw [h] <;> nofun
    exact (if_neg hkind).trans h.final
  fault := h.fault
  state := by
    rw [Progress.path_passed, List.count_append, List.count_singleton_self]
    exact hstate

end Nodes

/-- A node with an old id is found and run in both graphs, with the same result. -/
theorem handled_old (h : d.Beside p' p) {runner : Runner} (hwrites : runner.registry.WritesOwn)
    (hignores : runner.registry.IgnoresWiring) {id : String} (hold : id ≠ d.via.id) {node' : Node}
    (hnode : d.detoured.node? id = some node') {input : Json} {result : Except String Json} {v' : World}
    (hrun : runner.handle node' input p'.state = (result, v')) :
    ∃ node v, d.graph.node? id = some node ∧ d.Rerouted node' node ∧ runner.handle node input p.state = (result, v) ∧
      d.Shows (p'.path.count d.via.id) v' v := by
  have hfound := d.node?_detoured hold
  rw [hnode] at hfound
  obtain ⟨node, hsome, hrerouted⟩ := exists_of_rel hfound
  have hran := h.state.ran hwrites hignores hrerouted input
  rw [hrun] at hran
  obtain ⟨v, hrun₁, hstate⟩ := hran.exists_eq
  exact ⟨node, v, hsome, hrerouted, hrun₁, hstate⟩

/-- **A step to an old id is a step in both graphs.** -/
theorem both (h : d.Beside p' p) {runner : Runner} (hwrites : runner.registry.WritesOwn)
    (hignores : runner.registry.IgnoresWiring) {target : Target} (hold : target.1 ≠ d.via.id) {q' : Progress World}
    {targets' : List Target} (hmove : (runner.tour d.detoured).Moves p' target q' targets') :
    ∃ q targets, (runner.tour d.graph).Moves p target q targets ∧ d.Beside q' q ∧
      List.Forall₂ d.Stands targets' targets := by
  cases hmove with
  | stopped hfault => exact ⟨p, [], .stopped (h.fault.symm.trans hfault), h, .nil⟩
  | again hfault hseen =>
    exact ⟨p, [], .again (h.fault.symm.trans hfault) ((h.mem_path hold).mp hseen), h, .nil⟩
  | missing hfault hnew hnode =>
    have hfound := d.node?_detoured hold
    have hnode' : d.detoured.node? target.1 = none := hnode
    rw [hnode'] at hfound
    exact ⟨_, [], .missing (h.fault.symm.trans hfault) (mt (h.mem_path hold).mpr hnew) (eq_none_of_rel hfound),
      ⟨h.handled, h.outputs, h.final, h.fault, h.state.missed _ _⟩, .nil⟩
  | @failed node' message v' hfault hnew hnode hid hrun =>
    obtain ⟨node, v, hsome, hrerouted, hrun₁, hstate⟩ := h.handled_old hwrites hignores hold hnode hrun
    exact ⟨_, [], .failed (h.fault.symm.trans hfault) (mt (h.mem_path hold).mpr hnew) hsome
      (hrerouted.id.symm.trans hid) hrun₁, h.failed hrerouted target.2 message hstate, .nil⟩
  | @passed node' output v' hfault hnew hnode hid hrun =>
    obtain ⟨node, v, hsome, hrerouted, hrun₁, hstate⟩ := h.handled_old hwrites hignores hold hnode hrun
    exact ⟨_, _, .passed (h.fault.symm.trans hfault) (mt (h.mem_path hold).mpr hnew) hsome
      (hrerouted.id.symm.trans hid) hrun₁, h.passed hrerouted target.2 output hstate, stands_next rfl hrerouted output⟩

/-- A step to an idle target does nothing that shows. -/
theorem idle (h : d.Beside p' p) (runner : Runner) (target : Target) (hidle : (runner.tour d.graph).Idle p target.1) :
    ∃ q, (runner.tour d.graph).Moves p target q [] ∧ d.Beside p' q := by
  have hmove := (runner.tour d.graph).step_moves p target
  generalize ((runner.tour d.graph).step p target).1 = q, ((runner.tour d.graph).step p target).2 = targets at hmove
  obtain ⟨rfl, rfl | rfl⟩ := hidle.moves _ hmove
  · exact ⟨q, hmove, h⟩
  · refine ⟨_, hmove, h.handled, h.outputs, h.final, h.fault, ?_⟩
    exact ⟨h.state.clock, h.state.still, h.state.log, h.state.traces, h.state.calls, h.state.guests⟩

end Beside

/-! ## Configurations -/

/-- What two configurations have in common: the same was done but for the new node, the targets stand for one another,
and once the new node was run, there is nothing more to do at the end of its edge, or that is the next target. -/
structure Alongside (runner : Runner) (p' : Progress World) (stack' : List Target) (p : Progress World)
    (stack : List Target) : Prop where
  beside : d.Beside p' p
  stands : List.Forall₂ d.Stands stack' stack
  seen : d.via.id ∈ p'.path → (runner.tour d.graph).Idle p d.v ∨ ∃ input rest, stack' = (d.v, input) :: rest

/-- A step to an old id keeps this. -/
theorem Alongside.both {runner : Runner} (hwrites : runner.registry.WritesOwn)
    (hignores : runner.registry.IgnoresWiring) {p' p : Progress World} {target : Target} {rest' rest : List Target}
    (hbeside : d.Beside p' p) (hrest : List.Forall₂ d.Stands rest' rest)
    (hseen : d.via.id ∈ p'.path →
      (runner.tour d.graph).Idle p d.v ∨ ∃ input more, target :: rest' = (d.v, input) :: more)
    (hold : target.1 ≠ d.via.id) {q' : Progress World} {targets' : List Target}
    (hmove : (runner.tour d.detoured).Moves p' target q' targets') :
    ∃ q targets, (runner.tour d.graph).Moves p target q targets ∧
      d.Alongside runner q' (targets' ++ rest') q (targets ++ rest) := by
  obtain ⟨q, targets, hmove₁, hq, htargets⟩ := hbeside.both hwrites hignores hold hmove
  refine ⟨q, targets, hmove₁, hq, List.rel_append htargets hrest, ?_⟩
  intro hvia
  left
  rcases hmove.mem_path _ hvia with hbefore | hnow
  · rcases hseen hbefore with hidle | ⟨input, more, heq⟩
    · exact hidle.step _ hmove₁
    · obtain rfl : target = (d.v, input) := (List.cons.inj heq).1
      exact hmove₁.idle
  · exact absurd hnow.symm hold

/-- There is nothing to do at the end of the edge. -/
theorem Alongside.idle {runner : Runner} {p' p : Progress World} {rest' rest : List Target} (hbeside : d.Beside p' p)
    (hrest : List.Forall₂ d.Stands rest' rest) (hidle : (runner.tour d.graph).Idle p d.v) (input : Json) :
    ∃ q, (runner.tour d.graph).Moves p (d.v, input) q [] ∧ d.Alongside runner p' rest' q rest := by
  obtain ⟨q, hmove, hq⟩ := hbeside.idle runner (d.v, input) hidle
  exact ⟨q, hmove, hq, hrest, fun _ => .inl (hidle.step _ hmove)⟩

/-- The step to the new node leads to the end of the edge; if it does nothing, there is nothing to do there. -/
theorem Alongside.via (provider : Option Provider) (fetcher : Fetcher) (setup : Setup) {p' p : Progress World}
    {input : Json} {rest' rest : List Target} (hbeside : d.Beside p' p) (hrest : List.Forall₂ d.Stands rest' rest)
    (hseen : d.via.id ∈ p'.path → ((Runner.standard provider fetcher setup).tour d.graph).Idle p d.v)
    {q' : Progress World} {targets' : List Target}
    (hmove : ((Runner.standard provider fetcher setup).tour d.detoured).Moves p' (d.via.id, input) q' targets') :
    d.Alongside (.standard provider fetcher setup) q' (targets' ++ rest') p ((d.v, input) :: rest) ∨
      ((Runner.standard provider fetcher setup).tour d.graph).Idle p d.v ∧ q' = p' ∧ targets' = [] := by
  cases hmove with
  | stopped hfault => exact .inr ⟨.inl (by rw [← hbeside.fault, hfault]; rfl), rfl, rfl⟩
  | again hfault hvia => exact .inr ⟨hseen hvia, rfl, rfl⟩
  | missing hfault hnew hnode =>
    have hnode : d.detoured.node? d.via.id = none := hnode
    rw [d.node?_via] at hnode
    cases hnode
  | @failed node message v' hfault hnew hnode hid hrun =>
    obtain rfl : d.via = node := Option.some.inj (d.node?_via.symm.trans hnode)
    have hresult := (hbeside.state.relayed provider fetcher setup input).1
    have hrun : (Runner.standard provider fetcher setup).handle d.via input p'.state = (.error message, v') := hrun
    rw [hrun] at hresult
    cases hresult
  | @passed node output v' hfault hnew hnode hid hrun =>
    obtain rfl : d.via = node := Option.some.inj (d.node?_via.symm.trans hnode)
    obtain ⟨hresult, hstate⟩ := hbeside.state.relayed provider fetcher setup input
    have hrun : (Runner.standard provider fetcher setup).handle d.via input p'.state = (.ok output, v') := hrun
    rw [hrun] at hresult hstate
    obtain rfl : output = input := Except.ok.inj hresult
    left
    rw [next_via]
    refine ⟨hbeside.relayed _ hstate, .cons ⟨.inl ⟨rfl, d.v_ne_via⟩, rfl⟩ hrest, ?_⟩
    exact fun _ => .inr ⟨_, rest', rfl⟩

/-- **A step in the graph with the detour** is a step in the other graph, unless it is that of the new node. -/
theorem alongside_step (provider : Option Provider) (fetcher : Fetcher) (setup : Setup) {p' p : Progress World}
    {target' : Target} {rest' stack : List Target} {q' : Progress World} {targets' : List Target}
    (h : d.Alongside (.standard provider fetcher setup) p' (target' :: rest') p stack)
    (hmove : ((Runner.standard provider fetcher setup).tour d.detoured).Moves p' target' q' targets') :
    d.Alongside (.standard provider fetcher setup) q' (targets' ++ rest') p stack ∨
      ∃ target rest q targets, stack = target :: rest ∧
        ((Runner.standard provider fetcher setup).tour d.graph).Moves p target q targets ∧
        d.Alongside (.standard provider fetcher setup) q' (targets' ++ rest') q (targets ++ rest) := by
  obtain ⟨hbeside, hstands, hseen⟩ := h
  cases hstands with
  | @cons _ target _ rest htarget hrest =>
  obtain ⟨id', input⟩ := target'
  obtain ⟨id, same⟩ := target
  obtain ⟨⟨rfl, hold⟩ | ⟨rfl, rfl⟩, rfl⟩ := htarget
  · right
    obtain ⟨q, targets, hmove₁, hq⟩ := Alongside.both
      (Registry.writesOwn_standard provider fetcher setup) (Registry.ignoresWiring_standard provider fetcher setup)
      hbeside hrest hseen hold hmove
    exact ⟨_, rest, q, targets, rfl, hmove₁, hq⟩
  · have hdone : d.via.id ∈ p'.path → ((Runner.standard provider fetcher setup).tour d.graph).Idle p d.v := by
      intro hvia
      rcases hseen hvia with hidle | ⟨other, more, heq⟩
      · exact hidle
      · exact absurd (congrArg Prod.fst (List.cons.inj heq).1).symm d.v_ne_via
    rcases Alongside.via provider fetcher setup hbeside hrest hdone hmove with hq | ⟨hidle, rfl, rfl⟩
    · exact .inl hq
    · obtain ⟨q, hmove₁, hq⟩ := Alongside.idle hbeside hrest hidle input
      exact .inr ⟨_, rest, q, [], rfl, hmove₁, hq⟩

/-- **The walk with the detour** does the same but for the new node. -/
theorem beside_explore (provider : Option Provider) (fetcher : Fetcher) (setup : Setup) {p' p : Progress World}
    {stack' stack : List Target} (h : d.Alongside (.standard provider fetcher setup) p' stack' p stack) :
    d.Beside (((Runner.standard provider fetcher setup).tour d.detoured).explore p' stack')
      (((Runner.standard provider fetcher setup).tour d.graph).explore p stack) := by
  obtain ⟨q, left, hend, heq⟩ := Tour.explore_follows (alongside_step provider fetcher setup) h
  obtain rfl : left = [] := List.forall₂_nil_left_iff.mp hend.stands
  rw [heq, Tour.explore_nil]
  exact hend.beside

/-! ## Runs -/

variable (d)

/-- The result of a run without what it tells of the new node. -/
def hide (r : RunResult) : RunResult where
  outputs := r.outputs.erase d.via.id
  log := r.log.filter fun entry => !d.isTrace entry
  path := r.path.filter fun id => id != d.via.id
  verdict := r.verdict

/-- Refusals tell nothing of the new node. -/
theorem hide_refusal (message time : String) : d.hide (.refusal message time) = .refusal message time := by
  simp [hide, RunResult.refusal, isTrace, Fields.erase]

/-- Both runs start at triggers that stand for one another, or are refused for want of one. -/
theorem locateTrigger_detoured (runner : Runner) (hservices : runner.strictServices = false) :
    (runner.locateTrigger d.detoured = .error .noTrigger ∧ runner.locateTrigger d.graph = .error .noTrigger) ∨
      ∃ trigger' trigger, d.Rerouted trigger' trigger ∧ runner.locateTrigger d.detoured = .ok trigger' ∧
        runner.locateTrigger d.graph = .ok trigger := by
  have hfirst := d.trigger?_detoured
  cases htrigger' : d.detoured.trigger? with
  | none =>
    rw [htrigger'] at hfirst
    left
    exact ⟨runner.locateTrigger_of_no_trigger (by simp [detoured]) htrigger',
      runner.locateTrigger_of_no_trigger (by simp [graph]) (eq_none_of_rel hfirst)⟩
  | some trigger' =>
    rw [htrigger'] at hfirst
    obtain ⟨trigger, htrigger, hrerouted⟩ := exists_of_rel hfirst
    right
    exact ⟨trigger', trigger, hrerouted, Runner.locateTrigger_of_trigger? hservices htrigger',
      Runner.locateTrigger_of_trigger? hservices htrigger⟩

/-- Both walks begin with nothing done. -/
theorem alongside_departure (runner : Runner) {trigger' trigger : Node} (hrerouted : d.Rerouted trigger' trigger)
    {w : World} (hstill : w.clock.step = 0) :
    d.Alongside runner (.start (Runner.departure d.detoured trigger' w)) [(trigger'.id, .null)]
      (.start (Runner.departure d.graph trigger w)) [(trigger.id, .null)] := by
  obtain ⟨trace', records', hdeparture'⟩ := Runner.departure_eq d.detoured trigger' w
  obtain ⟨trace, records, hdeparture⟩ := Runner.departure_eq d.graph trigger w
  rw [hdeparture', hdeparture, hrerouted.id]
  exact {
    beside := ⟨rfl, rfl, rfl, rfl, ⟨rfl, hstill, rfl, rfl, rfl, rfl⟩⟩
    stands := .cons ⟨.inl ⟨rfl, hrerouted.new⟩, rfl⟩ .nil
    seen := nofun }

end Detour

namespace Run.Runner

/-- **A simulated node on an edge does not show.** A run in the graph with the detour ends as the run without it ends,
and makes the same calls; its path, outputs and log are the same but for the new node, of which the log tells once if it
was run. -/
theorem run_detour (d : Detour) (provider : Option Provider) (fetcher : Fetcher) {setup : Setup}
    (hservices : setup.strictServices = false) {w : World} (hstill : w.clock.step = 0) :
    d.hide ((standard provider fetcher setup).run d.detoured w).1 = ((standard provider fetcher setup).run d.graph w).1 ∧
      ((standard provider fetcher setup).run d.detoured w).1.log.countP d.isTrace =
        (if d.via.id ∈ ((standard provider fetcher setup).run d.detoured w).1.path then 1 else 0) ∧
      ((standard provider fetcher setup).run d.detoured w).2.calls =
        ((standard provider fetcher setup).run d.graph w).2.calls := by
  rcases d.locateTrigger_detoured (standard provider fetcher setup) hservices with
    ⟨hrefused', hrefused⟩ | ⟨trigger', trigger, hrerouted, hstart', hstart⟩
  · obtain ⟨trace', records', hrun'⟩ := run_eq_refusal hrefused' w
    obtain ⟨trace, records, hrun⟩ := run_eq_refusal hrefused w
    rw [hrun', hrun]
    refine ⟨d.hide_refusal _ _, ?_, rfl⟩
    simp [RunResult.refusal, Detour.isTrace]
  · have hbeside : d.Beside ((standard provider fetcher setup).voyage d.detoured trigger' w)
        ((standard provider fetcher setup).voyage d.graph trigger w) :=
      Detour.beside_explore provider fetcher setup (d.alongside_departure _ hrerouted hstill)
    have hnodup : ((standard provider fetcher setup).voyage d.detoured trigger' w).path.Nodup :=
      (Tour.consistent_explore _ (Tour.consistent_start _ _) _).nodup
    rw [run_eq_walk hstart', run_eq_walk hstart]
    generalize (standard provider fetcher setup).voyage d.detoured trigger' w = p',
      (standard provider fetcher setup).voyage d.graph trigger w = p at hbeside hnodup
    obtain ⟨trace', records', hend'⟩ := noteEnd_eq (.ofWalk p') p'.state
    obtain ⟨trace, records, hend⟩ := noteEnd_eq (.ofWalk p) p.state
    refine ⟨?_, ?_, ?_⟩
    · rw [Detour.hide, RunResult.ofWalk, RunResult.ofWalk, hbeside.outputs, hbeside.state.log, hbeside.path,
        hbeside.fault, hbeside.final]
    · have htraces := hbeside.state.traces
      rw [List.Nodup.count hnodup] at htraces
      exact htraces
    · rw [hend', hend]
      exact hbeside.state.calls

/-- A message that is sent on the first branch of a condition, before the output and the way back to the trigger. -/
def sidestep : Detour where
  before := [
    { id := "t", kind := .trigger, service := "manual",
      config := [("inputData", .obj [("data", .str "sun")])], successors := ["x"], position := none, extra := [] }]
  u := { id := "x", kind := .logic, service := "if-else", config := [("condition", .str "hasData")],
         successors := ["o", "t"], position := none, extra := [] }
  after := [
    { id := "o", kind := .output, service := "", config := [], successors := ["x"], position := none, extra := [] }]
  left := []
  v := "o"
  right := ["t"]
  via := { id := "s", kind := .action, service := "slack", config := [("channel", .int 7)], successors := ["o"],
           position := none, extra := [] }
  front := []
  back := [
    { id := "t", kind := .trigger, service := "manual",
      config := [("inputData", .obj [("data", .str "sun")])], successors := ["x"], position := none, extra := [] },
    { id := "x", kind := .logic, service := "if-else", config := [("condition", .str "hasData")],
      successors := ["s", "t"], position := none, extra := [] },
    { id := "o", kind := .output, service := "", config := [], successors := ["x"], position := none, extra := [] }]
  successors := rfl
  fresh := by decide
  relay := .inl rfl
  simulated := by decide
  plain := by decide
  leads := rfl
  place := rfl

/-- The message is sent and told of once. -/
theorem run_detour_sidestep :
    Setup.standard.strictServices = false ∧ dawn.clock.step = 0 ∧
      sidestep.hide ((standard none offline .standard).run sidestep.detoured dawn).1 =
        ((standard none offline .standard).run sidestep.graph dawn).1 ∧
      ((standard none offline .standard).run sidestep.detoured dawn).1.path = ["t", "x", "s", "o"] ∧
      ((standard none offline .standard).run sidestep.detoured dawn).1.log.countP sidestep.isTrace = 1 := by
  have hpath : ((standard none offline .standard).run sidestep.detoured dawn).1.path = ["t", "x", "s", "o"] := by
    have htrigger : (standard none offline .standard).locateTrigger sidestep.detoured = .ok _ := rfl
    rw [run_eq_walk htrigger, voyage, Tour.explore_of_within rfl]
    rfl
  have hservices : Setup.standard.strictServices = false := rfl
  have hstill : dawn.clock.step = 0 := rfl
  obtain ⟨hhidden, htraces, -⟩ := run_detour sidestep none offline hservices hstill
  refine ⟨hservices, hstill, hhidden, hpath, ?_⟩
  rw [htraces, hpath]
  rfl

end Run.Runner

end WorkflowLab
