import WorkflowLab.Proofs.Json.Parts
import WorkflowLab.Proofs.Run.Answers
import WorkflowLab.Proofs.Run.Departure

/-!
# A failure only truncates a run

Two runs of the same graph with different capabilities are compared up to the first call that has an answer in one of
them and none in the other.

- `Progress.Grown`: a walk only adds to what it has done;
- `Level`: up to the call both walks have done the same;
- `CutShort`: after the call the second walk has stopped, and the first one goes on;
- `run_truncated`: the second run is the beginning of the first.
-/

namespace WorkflowLab

namespace Run

/-! ## Walks only grow -/

/-- More was done: nothing that was there is changed. -/
structure Progress.Grown (p q : Progress World) : Prop where
  handled : p.handled <+: q.handled
  outputs : p.outputs <+: q.outputs
  log : p.state.log <+: q.state.log
  calls : p.state.calls <+: q.state.calls

theorem Progress.Grown.refl (p : Progress World) : p.Grown p :=
  ⟨List.prefix_rfl, List.prefix_rfl, List.prefix_rfl, List.prefix_rfl⟩

theorem Progress.Grown.trans {p q r : Progress World} (h : p.Grown q) (h' : q.Grown r) : p.Grown r :=
  ⟨h.handled.trans h'.handled, h.outputs.trans h'.outputs, h.log.trans h'.log, h.calls.trans h'.calls⟩

namespace Runner

variable {runner : Runner} {graph : Graph}

/-- Running a node adds to the log and to the calls. -/
theorem handle_prefix (runner : Runner) (node : Node) (input : Json) (w : World) :
    w.log <+: (runner.handle node input w).2.log ∧ w.calls <+: (runner.handle node input w).2.calls := by
  obtain ⟨added, hlog, -⟩ := (runner.handle_inStep node input w).log
  obtain ⟨made, hcalls, -⟩ := (runner.handle_inStep node input w).calls
  exact ⟨⟨added, hlog.symm⟩, ⟨made, hcalls.symm⟩⟩

/-- A step only adds. -/
theorem grown_of_moves {p q : Progress World} {target : Target} {targets : List Target}
    (hmove : (runner.tour graph).Moves p target q targets) (h : (runner.tour graph).Consistent p) : p.Grown q := by
  cases hmove with
  | stopped | again | missing => exact ⟨List.prefix_rfl, List.prefix_rfl, List.prefix_rfl, List.prefix_rfl⟩
  | @failed node message state _ _ _ _ hrun =>
    obtain ⟨hlog, hcalls⟩ := runner.handle_prefix node target.2 p.state
    have hstate : (runner.handle node target.2 p.state).2 = state := congrArg Prod.snd hrun
    rw [hstate] at hlog hcalls
    exact ⟨List.prefix_append _ _, List.prefix_rfl, hlog, hcalls⟩
  | @passed node output state hfault hnew hnode hid hrun =>
    obtain ⟨hlog, hcalls⟩ := runner.handle_prefix node target.2 p.state
    have hstate : (runner.handle node target.2 p.state).2 = state := congrArg Prod.snd hrun
    rw [hstate] at hlog hcalls
    have hkey : node.id ∉ p.outputs.keys := by rwa [h.keys_of_running hfault, hid]
    refine ⟨List.prefix_append _ _, ?_, hlog, hcalls⟩
    exact ⟨[(node.id, output)], (Fields.set_of_not_mem hkey output).symm⟩

/-- A walk only adds. -/
theorem grown_explore {p : Progress World} (h : (runner.tour graph).Consistent p) (stack : List Target) :
    p.Grown ((runner.tour graph).explore p stack) := by
  have hkeeps : ∀ {q target r targets}, (runner.tour graph).Moves q target r targets →
      (runner.tour graph).Consistent q ∧ p.Grown q → (runner.tour graph).Consistent r ∧ p.Grown r :=
    fun hmove hq => ⟨hmove.consistent _ hq.1, hq.2.trans (grown_of_moves hmove hq.1)⟩
  exact ((runner.tour graph).explore_keeps hkeeps stack ⟨h, .refl p⟩).2

end Runner

/-! ## Up to the call -/

/-- **Capabilities that part at a call**: two runs begin at the same time; their capabilities agree on the calls
`before`, and then one call is answered by the first ones only. -/
structure Parting where
  provider : Option Provider
  provider' : Option Provider
  fetcher : Fetcher
  fetcher' : Fetcher
  setup : Setup
  graph : Graph
  start : World
  start' : World
  before : List Call
  call : Call
  after : List Call
  clock : start'.clock = start.clock
  log : start'.log = start.log
  agree : ∀ earlier c, earlier ++ [c] <+: before →
    c.Agree provider provider' fetcher fetcher' (start.calls ++ earlier) (start'.calls ++ earlier)
  answered : ¬call.Fails provider fetcher (start.calls ++ before)
  unanswered : call.Fails provider' fetcher' (start'.calls ++ before)

namespace Parting

variable (parting : Parting)

/-- The walk whose call is answered. -/
def tour : Tour World := (Runner.standard parting.provider parting.fetcher parting.setup).tour parting.graph

/-- The walk whose call fails. -/
def tour' : Tour World := (Runner.standard parting.provider' parting.fetcher' parting.setup).tour parting.graph

/-- The calls of nodes. -/
def callsOf (handled : List Target) : List Call :=
  Run.callsOf parting.provider parting.setup parting.graph handled

/-- **Both walks are on the level**: they have done the same, the call is still to come, and the first walk will make
it. -/
structure Level (p : Progress World) (stack : List Target) (p' : Progress World) : Prop where
  alike : p.Alike (InStep parting.start parting.start') p'
  consistent : parting.tour.Consistent p
  called : Called parting.provider parting.fetcher parting.setup parting.graph parting.start.calls p
  made : parting.callsOf p.handled <+: parting.before
  ahead : (parting.tour.explore p stack).state.calls =
    parting.start.calls ++ (parting.before ++ parting.call :: parting.after)

/-- **The second walk was cut short** at the node that makes the call, where the first one had done the same as far as
`q`, and the first one goes on. -/
structure CutShort (q : Progress World) (node : Node) (input : Json) (p p' : Progress World) : Prop where
  known : parting.graph.node? node.id = some node
  front : parting.callsOf q.handled = parting.before
  caller : callOf? parting.provider parting.setup node input = some parting.call
  handled : q.handled ++ [(node.id, input)] <+: p.handled
  path : p'.path = q.path ++ [node.id]
  failed : p'.fault.isSome
  kept : q.outputs <+: p.outputs
  keys : q.outputs.keys = q.path
  outputs : p'.outputs = q.outputs
  log : ∃ begun entry, q.state.log ++ [begun] <+: p.state.log ∧ p'.state.log = q.state.log ++ [begun, entry] ∧
    entry.nodeId = node.id ∧ entry.event = .error
  calls : p'.state.calls = parting.start'.calls ++ (parting.before ++ [parting.call])

variable {parting}

/-- What the first walk does after that changes nothing about it. -/
theorem CutShort.grow {q p r p' : Progress World} {node : Node} {input : Json}
    (h : parting.CutShort q node input p p') (hgrown : p.Grown r) : parting.CutShort q node input r p' :=
  { h with
    handled := h.handled.trans hgrown.handled
    kept := h.kept.trans hgrown.outputs
    log := by
      obtain ⟨begun, entry, hbegun, hentry⟩ := h.log
      exact ⟨begun, entry, hbegun.trans hgrown.log, hentry⟩ }

/-- The calls up to the one at which the capabilities part are more than those before it. -/
theorem not_prefix_before {made : List Call} (hmade : made <+: parting.before) :
    made ≠ parting.before ++ parting.call :: parting.after := by
  intro heq
  have hlength := hmade.length_le
  rw [heq, List.length_append, List.length_cons] at hlength
  omega

/-- One more call than some of those before is one of these, or all of them are made and it is the next one. -/
theorem next_call {made before after : List Call} {c call : Call} (hmade : made <+: before)
    (hnext : made ++ [c] <+: before ++ call :: after) : made ++ [c] <+: before ∨ made = before ∧ c = call := by
  obtain ⟨more, rfl⟩ := hmade
  rw [List.append_assoc, List.prefix_append_right_inj] at hnext
  cases more with
  | nil =>
    rw [List.nil_append, List.singleton_prefix_cons_iff] at hnext
    exact .inr ⟨(List.append_nil made).symm, hnext⟩
  | cons d rest =>
    rw [List.cons_append, List.singleton_prefix_cons_iff] at hnext
    rw [hnext]
    exact .inl ((List.prefix_append_right_inj made).mpr ⟨rest, rfl⟩)

/-- A walk that still has to make the call has not stopped. -/
theorem running_of_ahead {p : Progress World} {stack : List Target}
    (hcalled : Called parting.provider parting.fetcher parting.setup parting.graph parting.start.calls p)
    (hmade : parting.callsOf p.handled <+: parting.before)
    (hahead : (parting.tour.explore p stack).state.calls =
      parting.start.calls ++ (parting.before ++ parting.call :: parting.after)) : p.fault = none := by
  cases hfault : p.fault with
  | none => rfl
  | some message =>
    rw [Tour.explore_of_fault _ hfault, hcalled.calls, List.append_cancel_left_eq] at hahead
    exact absurd hahead (not_prefix_before hmade)

/-- The call is still to come, so the first walk has not stopped. -/
theorem Level.running {p p' : Progress World} {stack : List Target} (h : parting.Level p stack p') : p.fault = none :=
  running_of_ahead h.called h.made h.ahead

/-- Nothing of what the first walk still does is lost by a step. -/
theorem Level.ahead_step {p q p' : Progress World} {target : Target} {targets rest : List Target}
    (h : parting.Level p (target :: rest) p') (hmove : parting.tour.Moves p target q targets) :
    (parting.tour.explore q (targets ++ rest)).state.calls =
      parting.start.calls ++ (parting.before ++ parting.call :: parting.after) := by
  rw [← h.ahead, Tour.explore_stack, hmove.step_eq]

/-- The calls after one more node are still among those that the first walk makes. -/
theorem Level.made_step {p q p' : Progress World} {target : Target} {targets rest : List Target}
    (h : parting.Level p (target :: rest) p') (hmove : parting.tour.Moves p target q targets) :
    parting.callsOf q.handled <+: parting.before ++ parting.call :: parting.after := by
  have hgrown := Runner.grown_explore (hmove.consistent _ h.consistent) (targets ++ rest)
  have hcalls : q.state.calls <+: (parting.tour.explore q (targets ++ rest)).state.calls := hgrown.calls
  rw [h.ahead_step hmove, (called_of_moves hmove h.called).calls, List.prefix_append_right_inj] at hcalls
  exact hcalls

/-- The calls that the second walk has made so far. -/
theorem Level.calls' {p p' : Progress World} {stack : List Target} (h : parting.Level p stack p') :
    p'.state.calls = parting.start'.calls ++ parting.callsOf p.handled := by
  obtain ⟨made, hmade, hmade'⟩ := h.alike.state.calls
  rw [h.called.calls, List.append_cancel_left_eq] at hmade
  rw [hmade', ← hmade]
  rfl

/-- The logs of both walks are the same so far. -/
theorem Level.log' {p p' : Progress World} {stack : List Target} (h : parting.Level p stack p') :
    p'.state.log = p.state.log := h.alike.state.log_eq parting.log

/-- **As long as the capabilities agree on its call, a node comes to the same in both walks.** -/
theorem Level.handle {p p' : Progress World} {stack : List Target} (h : parting.Level p stack p') {node : Node}
    {input : Json} (hmade : parting.callsOf p.handled ++ (callOf? parting.provider parting.setup node input).toList <+:
      parting.before)
    (hpassed : ∃ output, (parting.tour.handle node input p.state).1 = .ok output) :
    SameResult (InStep parting.start parting.start') (parting.tour.handle node input p.state)
      (parting.tour'.handle node input p'.state) := by
  have hcalls : p.state.calls = parting.start.calls ++ parting.callsOf p.handled := h.called.calls
  have hagree : ∀ call ∈ callOf? parting.provider parting.setup node input,
      call.Agree parting.provider parting.provider' parting.fetcher parting.fetcher' p.state.calls p'.state.calls := by
    intro call hcall
    rw [Option.mem_def.mp hcall, Option.toList_some] at hmade
    rw [hcalls, h.calls']
    exact parting.agree _ call hmade
  have hprovider : node.variant = Service.openai.variant → parting.provider'.isSome = parting.provider.isSome := by
    intro hvariant
    obtain ⟨output, houtput⟩ := hpassed
    obtain ⟨call, hcall⟩ := Runner.exists_call_of_passed parting.setup node input hvariant houtput
    obtain ⟨p, s, hp, -, -, rfl⟩ := (callOf?_openai_eq_some_iff parting.setup node input hvariant).mp hcall
    have hanswer := congrArg Option.isSome (hagree _ hcall)
    rwa [Option.isSome_map, Option.isSome_map] at hanswer
  obtain ⟨hsame, hstep⟩ := Runner.handle_standard_twin parting.setup node input h.alike.state.clock hprovider hagree
  exact ⟨hsame, h.alike.state.trans hstep⟩

/-- **At the call the second walk fails**, and the first one goes on. -/
theorem Level.part {p p' : Progress World} {target : Target} {rest : List Target} {node : Node}
    (h : parting.Level p (target :: rest) p') (hnew : target.1 ∉ p.path)
    (hnode : parting.graph.node? target.1 = some node) (hid : node.id = target.1)
    (hfront : parting.callsOf p.handled = parting.before)
    (hcall : callOf? parting.provider parting.setup node target.2 = some parting.call) :
    ∃ output state message state', parting.tour.handle node target.2 p.state = (.ok output, state) ∧
      parting.tour'.handle node target.2 p'.state = (.error message, state') ∧
      parting.CutShort p node target.2 (p.passed node target.2 output state)
        (p'.failed node target.2 message state') := by
  have hcalls : p.state.calls = parting.start.calls ++ parting.before := by
    rw [← hfront]
    exact h.called.calls
  have hcalls' : p'.state.calls = parting.start'.calls ++ parting.before := by rw [h.calls', hfront]
  have hcall' := callOf?_of_fails parting.setup node target.2 hcall parting.unanswered
  obtain ⟨opening, hnodeEnds⟩ := Runner.handle_concluded parting.setup node target.2 parting.call
  have hends := hnodeEnds parting.provider parting.fetcher p.state hcall
  have hends' := hnodeEnds parting.provider' parting.fetcher' p'.state hcall'
  rw [hcalls] at hends
  rw [hcalls', h.alike.state.clock] at hends'
  obtain ⟨output, houtput⟩ := hends.passes parting.answered
  obtain ⟨message, hmessage⟩ := hends'.fails parting.unanswered
  obtain ⟨last, hlast, -⟩ := hends.log
  obtain ⟨entry, hentry, herror⟩ := hends'.log
  obtain ⟨hentryId, hentryEvent⟩ := herror parting.unanswered
  obtain ⟨hmade', -⟩ := handle_calls parting.provider' parting.fetcher' parting.setup node target.2 p'.state
  rw [h.log'] at hentry
  rw [hcall', hcalls', List.append_assoc] at hmade'
  have hkey : node.id ∉ p.outputs.keys := by rwa [h.consistent.keys_of_running h.running, hid]
  refine ⟨output, _, message, _, Prod.ext houtput rfl, Prod.ext hmessage rfl, ?_⟩
  exact {
    known := by rw [hid]; exact hnode
    front := hfront
    caller := hcall
    handled := List.prefix_rfl
    path := by rw [Progress.path_failed, h.alike.path]
    failed := rfl
    kept := ⟨[(node.id, output)], (Fields.set_of_not_mem hkey output).symm⟩
    keys := h.consistent.keys_of_running h.running
    outputs := h.alike.outputs
    log := ⟨startEntry node.id opening p.state.clock, entry, ⟨[last], by rw [List.append_assoc]; exact hlast.symm⟩,
      hentry, hentryId, hentryEvent⟩
    calls := hmade' }

/-- The node of a step that comes before the call comes to the same in both walks. -/
theorem Level.handle_before {p q p' : Progress World} {target : Target} {targets rest : List Target}
    (h : parting.Level p (target :: rest) p') (hmove : parting.tour.Moves p target q targets)
    (hmade : parting.callsOf q.handled <+: parting.before) (hrunning : q.fault = none) {node : Node}
    (hnode : parting.graph.node? target.1 = some node) (hnew : target.1 ∉ p.path) :
    SameResult (InStep parting.start parting.start') (parting.tour.handle node target.2 p.state)
      (parting.tour'.handle node target.2 p'.state) := by
  cases hmove with
  | stopped hfault => rw [h.running] at hfault; cases hfault
  | again _ hseen => exact absurd hseen hnew
  | missing _ _ hnone =>
    have hnone : parting.graph.node? target.1 = none := hnone
    rw [hnone] at hnode
    cases hnode
  | failed => cases hrunning
  | @passed other output state _ _ hother hid hrun =>
    obtain rfl : node = other := Option.some.inj (hnode.symm.trans hother)
    apply h.handle
    · have hconcat : parting.callsOf (p.handled ++ [(node.id, target.2)]) <+: parting.before := hmade
      rw [callsOf, callsOf_concat (by rw [hid]; exact hnode)] at hconcat
      exact hconcat
    · exact ⟨output, congrArg Prod.fst hrun⟩

/-- **A step of the first walk that comes before the call** is a step of the second one, too. -/
theorem Level.step_before {p q p' : Progress World} {target : Target} {targets rest : List Target}
    (h : parting.Level p (target :: rest) p') (hmove : parting.tour.Moves p target q targets)
    (hmade : parting.callsOf q.handled <+: parting.before) :
    ∃ q', parting.tour'.Moves p' target q' targets ∧ parting.Level q (targets ++ rest) q' := by
  have hq := hmove.consistent _ h.consistent
  have hcalled := called_of_moves hmove h.called
  have hahead := h.ahead_step hmove
  have hrunning := running_of_ahead hcalled hmade hahead
  have hmissing : ∀ {s s'}, InStep parting.start parting.start' s s' →
      InStep parting.start parting.start' (parting.tour.missing target.1 s) (parting.tour'.missing target.1 s') :=
    fun hstep => hstep.trans (.retold hstep.clock _ _ _ _)
  have hnodes : parting.tour'.graph.node? target.1 = (parting.tour.graph.node? target.1).map id := by
    rw [Option.map_id]
    rfl
  obtain ⟨q', targets', hmove', halike, hboth⟩ := hmove.follow h.alike (fun _ => rfl) (fun _ => rfl) hnodes hmissing
    fun node hnode hnew => h.handle_before hmove hmade hrunning hnode hnew
  have hsame : targets' = targets := by
    rcases hboth with ⟨rfl, rfl⟩ | ⟨node, output, -, -, -, rfl, rfl⟩
    · rfl
    · rfl
  rw [hsame] at hmove'
  exact ⟨q', hmove', halike, hq, hcalled, hmade, hahead⟩

/-- The node whose step is no longer among those before the call makes the call. -/
theorem Level.caller {p q p' : Progress World} {target : Target} {targets rest : List Target}
    (h : parting.Level p (target :: rest) p') (hmove : parting.tour.Moves p target q targets)
    (hmade : ¬parting.callsOf q.handled <+: parting.before) (node : Node)
    (hnode : parting.graph.node? target.1 = some node) (hid : node.id = target.1)
    (hhandled : q.handled = p.handled ++ [(node.id, target.2)]) :
    parting.callsOf p.handled = parting.before ∧
      callOf? parting.provider parting.setup node target.2 = some parting.call := by
  have hnext := h.made_step hmove
  rw [hhandled, callsOf, callsOf_concat (by rw [hid]; exact hnode)] at hmade hnext
  cases hcall : callOf? parting.provider parting.setup node target.2 with
  | none =>
    rw [hcall, Option.toList_none, List.append_nil] at hmade
    exact absurd h.made hmade
  | some c =>
    rw [hcall, Option.toList_some] at hmade hnext
    obtain ⟨hfront, rfl⟩ := (next_call h.made hnext).resolve_left hmade
    exact ⟨hfront, rfl⟩

/-- **The step of the first walk that makes the call** cuts the second one short. -/
theorem Level.step_call {p q p' : Progress World} {target : Target} {targets rest : List Target}
    (h : parting.Level p (target :: rest) p') (hmove : parting.tour.Moves p target q targets)
    (hmade : ¬parting.callsOf q.handled <+: parting.before) :
    ∃ node q', parting.tour'.Moves p' target q' [] ∧ parting.CutShort p node target.2 q q' := by
  have hcaller := h.caller hmove hmade
  cases hmove with
  | stopped | again | missing => exact absurd h.made hmade
  | @failed node message state _ hnew hnode hid hrun =>
    obtain ⟨hfront, hcall⟩ := hcaller node hnode hid rfl
    obtain ⟨output, state₁, -, -, hpassed, -⟩ := h.part hnew hnode hid hfront hcall
    rw [hpassed] at hrun
    cases hrun
  | @passed node output state _ hnew hnode hid hrun =>
    obtain ⟨hfront, hcall⟩ := hcaller node hnode hid rfl
    obtain ⟨output₁, state₁, message, state', hpassed, hfailed, hcut⟩ := h.part hnew hnode hid hfront hcall
    rw [hpassed] at hrun
    cases hrun
    have hrunning' : p'.fault = none := h.alike.fault.trans h.running
    have hnew' : target.1 ∉ p'.path := by rwa [h.alike.path]
    exact ⟨node, _, .failed hrunning' hnew' hnode hid hfailed, hcut⟩

variable (parting) in
/-- What two configurations have in common: both walks are on the level, or the second one was cut short. -/
def Compared (p : Progress World) (stack : List Target) (p' : Progress World) (stack' : List Target) : Prop :=
  parting.Level p stack p' ∧ stack' = stack ∨
    parting.tour.Consistent p ∧ ∃ q node input, parting.CutShort q node input p p'

/-- A step of the first walk keeps this: the second one takes it too, or has stopped. -/
theorem Compared.step {p q p' : Progress World} {target : Target} {targets rest stack' : List Target}
    (h : parting.Compared p (target :: rest) p' stack') (hmove : parting.tour.Moves p target q targets) :
    parting.Compared q (targets ++ rest) p' stack' ∨
      ∃ target' rest' q' targets', stack' = target' :: rest' ∧ parting.tour'.Moves p' target' q' targets' ∧
        parting.Compared q (targets ++ rest) q' (targets' ++ rest') := by
  rcases h with ⟨hlevel, rfl⟩ | ⟨hconsistent, first, node, input, hcut⟩
  · right
    by_cases hmade : parting.callsOf q.handled <+: parting.before
    · obtain ⟨q', hmove', hnext⟩ := hlevel.step_before hmove hmade
      exact ⟨target, rest, q', targets, rfl, hmove', .inl ⟨hnext, rfl⟩⟩
    · obtain ⟨node, q', hmove', hcut⟩ := hlevel.step_call hmove hmade
      exact ⟨target, rest, q', [], rfl, hmove',
        .inr ⟨hmove.consistent _ hlevel.consistent, p, node, target.2, hcut⟩⟩
  · refine .inl (.inr ⟨hmove.consistent _ hconsistent, first, node, input, ?_⟩)
    exact hcut.grow (Runner.grown_of_moves hmove hconsistent)

/-- **A walk from the level is cut short.** -/
theorem Level.cutShort {p p' : Progress World} {stack : List Target} (h : parting.Level p stack p') :
    ∃ q node input, parting.CutShort q node input (parting.tour.explore p stack) (parting.tour'.explore p' stack) := by
  have hfirst : parting.Compared p stack p' stack := .inl ⟨h, rfl⟩
  obtain ⟨last, left, hlast, hend⟩ := Tour.explore_follows Compared.step hfirst
  rw [hend]
  rcases hlast with ⟨hlevel, rfl⟩ | ⟨-, q, node, input, hcut⟩
  · have hcalls := hlevel.ahead
    rw [Tour.explore_nil, hlevel.called.calls, List.append_cancel_left_eq] at hcalls
    exact absurd hcalls (not_prefix_before hlevel.made)
  · obtain ⟨message, hfault⟩ := Option.isSome_iff_exists.mp hcut.failed
    rw [Tour.explore_of_fault _ hfault]
    exact ⟨q, node, input, hcut⟩

end Parting

/-! ## Runs -/

/-- **A result is another one cut short at a node**: it failed there, and what it has besides its last entry, the error
entry of the node, is the beginning of what the other one has. -/
structure RunResult.CutShortAt (front : List String) (id : String) (r full : RunResult) : Prop where
  failed : r.success = false
  path : r.path = front ++ [id]
  path_prefix : r.path <+: full.path
  outputs : r.outputs = full.outputs.filter fun field => front.contains field.1
  log : ∃ kept entry, r.log = kept ++ [entry] ∧ kept <+: full.log ∧ entry.nodeId = id ∧ entry.event = .error

/-- The members with the keys of a beginning are this beginning. -/
theorem filter_keys_of_prefix {kept all : Fields} (h : kept <+: all) (hnodup : all.keys.Nodup) :
    (all.filter fun field => kept.keys.contains field.1) = kept := by
  obtain ⟨more, rfl⟩ := h
  have hkept : (kept.filter fun field => kept.keys.contains field.1) = kept := by
    rw [List.filter_eq_self]
    intro field hfield
    rw [List.contains_iff_mem]
    exact List.mem_map_of_mem hfield
  have hmore : (more.filter fun field => kept.keys.contains field.1) = [] := by
    rw [List.filter_eq_nil_iff]
    intro field hfield hin
    rw [List.contains_iff_mem] at hin
    rw [Fields.keys, List.map_append, List.nodup_append] at hnodup
    exact hnodup.2.2 field.1 hin field.1 (List.mem_map_of_mem hfield) rfl
  rw [List.filter_append, hkept, hmore, List.append_nil]

/-- The outputs of a walk have different keys. -/
theorem Tour.Consistent.nodup_keys {tour : Tour World} {p : Progress World} (h : tour.Consistent p) :
    p.outputs.keys.Nodup := by
  cases hfault : p.fault with
  | none =>
    rw [h.keys_of_running hfault]
    exact h.nodup
  | some message =>
    rw [(h.keys_of_failed message hfault).2]
    exact h.nodup.sublist (List.dropLast_sublist _)

/-- The result of a walk that was cut short. -/
theorem Parting.CutShort.result {parting : Parting} {q p p' : Progress World} {node : Node} {input : Json}
    (h : parting.CutShort q node input p p') (hp : parting.tour.Consistent p) :
    RunResult.CutShortAt q.path node.id (.ofWalk p') (.ofWalk p) where
  failed := by
    obtain ⟨message, hfault⟩ := Option.isSome_iff_exists.mp h.failed
    exact RunResult.success_of_fault hfault
  path := h.path
  path_prefix := by
    have hpath := h.handled.map (·.1)
    rw [List.map_append, List.map_singleton] at hpath
    rw [RunResult.ofWalk, h.path]
    exact hpath
  outputs := by
    have hfilter := filter_keys_of_prefix h.kept hp.nodup_keys
    rw [h.keys] at hfilter
    rw [RunResult.ofWalk, h.outputs]
    exact hfilter.symm
  log := by
    obtain ⟨begun, entry, hbegun, hlog, hentry⟩ := h.log
    refine ⟨q.state.log ++ [begun], entry, ?_, hbegun, hentry⟩
    rw [RunResult.ofWalk, hlog, List.append_assoc]
    rfl

/-- The result of a walk from the start that still has to make the call. -/
theorem Parting.exists_cutShortAt (parting : Parting) (stack : List Target)
    (hcalls : (parting.tour.explore (.start parting.start) stack).state.calls =
      parting.start.calls ++ (parting.before ++ parting.call :: parting.after)) :
    ∃ (front : List Target) (node : Node) (input : Json), parting.graph.node? node.id = some node ∧
      parting.callsOf front = parting.before ∧
      callOf? parting.provider parting.setup node input = some parting.call ∧
      RunResult.CutShortAt (front.map (·.1)) node.id (.ofWalk (parting.tour'.explore (.start parting.start') stack))
        (.ofWalk (parting.tour.explore (.start parting.start) stack)) ∧
      (parting.tour'.explore (.start parting.start') stack).state.calls =
        parting.start'.calls ++ (parting.before ++ [parting.call]) := by
  have hlevel : parting.Level (.start parting.start) stack (.start parting.start') := {
    alike := .start (.refl parting.clock)
    consistent := Tour.consistent_start _ _
    called := called_start _
    made := List.nil_prefix
    ahead := hcalls }
  obtain ⟨q, node, input, hcut⟩ := hlevel.cutShort
  exact ⟨q.handled, node, input, hcut.known, hcut.front, hcut.caller,
    hcut.result (Tour.consistent_explore _ (Tour.consistent_start _ _) _), hcut.calls⟩

namespace Runner

/-- **A failure only truncates a run.** Take two runs of a graph with the executors of the library that begin at the
same time, and let their capabilities agree on the calls before one that is answered in the first run and fails in the
second. Then the second run fails at the node that makes this call, and its path, outputs and log, but for the last
entry, are those of the first run up to there. -/
theorem run_truncated {provider provider' : Option Provider} {fetcher fetcher' : Fetcher} {setup : Setup} {graph : Graph}
    {w w' : World} (hclock : w'.clock = w.clock) {before after : List Call} {call : Call}
    (hcalls : ((standard provider fetcher setup).run graph w).2.calls = w.calls ++ (before ++ call :: after))
    (hagree : ∀ earlier c, earlier ++ [c] <+: before →
      c.Agree provider provider' fetcher fetcher' (w.calls ++ earlier) (w'.calls ++ earlier))
    (hanswered : ¬call.Fails provider fetcher (w.calls ++ before))
    (hunanswered : call.Fails provider' fetcher' (w'.calls ++ before)) :
    ∃ (front : List Target) (node : Node) (input : Json),
      graph.node? node.id = some node ∧ callsOf provider setup graph front = before ∧
      callOf? provider setup node input = some call ∧
      RunResult.CutShortAt (front.map (·.1)) node.id ((standard provider' fetcher' setup).run graph w').1
        ((standard provider fetcher setup).run graph w).1 ∧
      ((standard provider' fetcher' setup).run graph w').2.calls = w'.calls ++ (before ++ [call]) := by
  cases hlocate : (standard provider fetcher setup).locateTrigger graph with
  | error fault =>
    obtain ⟨trace, records, hrun⟩ := run_eq_refusal hlocate w
    rw [hrun] at hcalls
    exact absurd hcalls (by simp)
  | ok trigger =>
    have hlocate' : (standard provider' fetcher' setup).locateTrigger graph = .ok trigger := by
      rw [locateTrigger_standard provider provider' fetcher fetcher', hlocate]
    rw [run_eq_walk hlocate, calls_noteEnd, ← calls_departure graph trigger w] at hcalls
    rw [run_eq_walk hlocate, run_eq_walk hlocate', calls_noteEnd, ← calls_departure graph trigger w']
    exact Parting.exists_cutShortAt {
      provider, provider', fetcher, fetcher', setup, graph, before, call, after
      start := departure graph trigger w
      start' := departure graph trigger w'
      clock := by rw [clock_departure, clock_departure, hclock]
      log := by rw [log_departure, log_departure]
      agree := by rw [calls_departure, calls_departure]; exact hagree
      answered := by rw [calls_departure]; exact hanswered
      unanswered := by rw [calls_departure]; exact hunanswered } [(trigger.id, .null)] hcalls

/-- Two requests, one after the other, and an output. -/
def errands : Graph where
  nodes := [
    { id := "t", kind := .trigger, service := "manual", config := [], successors := ["a"], position := none,
      extra := [] },
    { id := "a", kind := .action, service := "http", config := [], successors := ["b", "o"], position := none,
      extra := [] },
    { id := "b", kind := .action, service := "http", config := [], successors := ["a"], position := none,
      extra := [] },
    { id := "o", kind := .output, service := "", config := [], successors := [], position := none, extra := [] }]

/-- A fetcher whose network breaks down after some replies. -/
def fading (replies : Nat) : Fetcher :=
  ⟨.direct, fun requests => if requests.length ≤ replies then .ok ⟨200, "1", []⟩ else .error (.other "ConnectError" "")⟩

/-- When the second request has no reply, the run is cut short there. -/
theorem run_truncated_errands :
    ∃ (front : List Target) (node : Node) (input : Json),
      errands.node? node.id = some node ∧
      callsOf none .standard errands front = [.fetch (demoRequest Setup.standard.demoUrl)] ∧
      callOf? none .standard node input = some (.fetch (demoRequest Setup.standard.demoUrl)) ∧
      RunResult.CutShortAt (front.map (·.1)) node.id ((standard none (fading 1) .standard).run errands dawn).1
        ((standard none (fading 2) .standard).run errands dawn).1 ∧
      ((standard none (fading 1) .standard).run errands dawn).2.calls =
        [.fetch (demoRequest Setup.standard.demoUrl), .fetch (demoRequest Setup.standard.demoUrl)] := by
  have htrigger : (standard none (fading 2) .standard).locateTrigger errands = .ok _ := rfl
  have hcalls : ((standard none (fading 2) .standard).run errands dawn).2.calls =
      dawn.calls ++ ([.fetch (demoRequest Setup.standard.demoUrl)] ++
        .fetch (demoRequest Setup.standard.demoUrl) :: []) := by
    rw [run_eq_walk htrigger, calls_noteEnd, voyage, Tour.explore_of_within rfl]
    rfl
  refine run_truncated rfl hcalls ?_ ?_ ?_
  · intro earlier c hprefix
    obtain ⟨rfl, rfl⟩ : earlier = [] ∧ c = .fetch (demoRequest Setup.standard.demoUrl) := by
      rcases earlier with _ | ⟨first, rest⟩
      · exact ⟨rfl, by simpa using hprefix⟩
      · simp at hprefix
    rfl
  · rintro ⟨f, hf⟩
    cases hf
  · exact ⟨_, rfl⟩

end Runner

end Run

end WorkflowLab
