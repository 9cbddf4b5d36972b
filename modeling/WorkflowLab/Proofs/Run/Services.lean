import WorkflowLab.Proofs.Journal.Nodes
import WorkflowLab.Proofs.Run.Handing
import WorkflowLab.Proofs.Run.Validated

/-!
# Strict services

- `Entry.IsSimulation`: the entries of nodes that are only simulated;
- `run_genuine`: the executors of services and of outputs write none; `standardFor_simulates`: of the nodes that the
  library runs, exactly those of unknown variants are simulated;
- `exists_simulation_iff`: so the log of a walk tells which of its nodes were simulated;
- `refused_standard`: strict services refuse the nodes that validation reports;
- `Registry.MadeFor`: what runs a node that is not simulated;
- `Rejected`, `run_strict_services`: which graphs are rejected under strict services, and that no node of any other graph
  is simulated.
-/

namespace WorkflowLab

/-- An entry tells that a node was only simulated: it has nothing to say but its kind and service. The executor of webhook
triggers, which speaks of a simulated trigger, names no service. -/
def Entry.IsSimulation (entry : Entry) : Prop :=
  entry.event = .success ∧
    ∃ (kind : Kind) (service : String), entry.message = kind.title ++ " " ++ service ++ " simulated"

namespace Run

open Node

/-! ## Entries -/

section Entries

variable {entry : Entry}

/-- An entry that tells of no success. -/
theorem not_isSimulation_of_event (h : entry.event ≠ .success) : ¬entry.IsSimulation := fun hsim => h hsim.1

/-- An entry whose message does not begin with a kind of nodes. -/
theorem not_isSimulation_of_title (h : ∀ kind : Kind, ¬(kind.title ++ " ").toList <+: entry.message.toList) :
    ¬entry.IsSimulation := by
  rintro ⟨-, kind, service, hmessage⟩
  refine h kind ⟨(service ++ " simulated").toList, ?_⟩
  rw [hmessage, ← String.toList_append, String.append_assoc, String.append_assoc, String.append_assoc]

/-- The message of outputs begins with their kind, but it is too short. -/
theorem not_isSimulation_of_captured (h : entry.message = "Output captured") : ¬entry.IsSimulation := by
  rintro ⟨-, kind, service, hmessage⟩
  -- a kind's name has at least five characters, and with what follows it these are too many
  have hlength := congrArg String.length (h.symm.trans hmessage)
  have hshort : "Output captured".length = 15 := rfl
  have hlong : " simulated".length = 10 := rfl
  have hblank : " ".length = 1 := rfl
  have htitle : 5 ≤ kind.title.length := by cases kind <;> decide
  simp only [String.length_append, hshort, hlong, hblank] at hlength
  omega

end Entries

/-! ## Executors -/

/-- None of the entries is that of a simulated node. -/
def Genuine (_result : Except NodeFault Json) (added : List Entry) : Prop := ∀ entry ∈ added, ¬entry.IsSimulation

section Executors

variable (task : Task)

theorem genuine_pure (output : Json) : (pure output : Work Json).Writes Genuine :=
  Work.writes_pure fun _ h => nomatch h

theorem genuine_fail (message : String) : (Work.fail task message).Writes Genuine :=
  Work.writes_fail fun _ entry hentry => by
    rw [List.mem_singleton.mp hentry]
    exact not_isSimulation_of_event (by simp)

/-- An entry that is not that of a simulated node, and then what follows it. -/
theorem genuine_enter {event : Event} {message : String} {data : Json} {f : Unit → Work Json}
    (hentry : ∀ time, ¬(Entry.mk task.id event message time data []).IsSimulation) (h : (f ()).Writes Genuine) :
    (Work.enter task event message data >>= f).Writes Genuine :=
  Work.writes_enter_bind fun time => h.mono fun _ _ hadded => List.forall_mem_cons.mpr ⟨hentry time, hadded⟩

/-- The start of some work, and then what follows it. -/
theorem genuine_start {message : String} {f : Unit → Work Json} (h : (f ()).Writes Genuine) :
    (Work.enter task .start message .null >>= f).Writes Genuine :=
  genuine_enter task (fun _ => not_isSimulation_of_event (by simp)) h

/-- A success whose message does not begin with a kind of nodes, and then the output. -/
theorem genuine_success {message : String} (htitle : ∀ kind : Kind, ¬(kind.title ++ " ").toList <+: message.toList)
    (data output : Json) : (Work.enter task .success message data >>= fun _ => pure output).Writes Genuine :=
  genuine_enter task (fun _ => not_isSimulation_of_title htitle) (genuine_pure output)

theorem genuine_settings {α : Type} {read : Json → Intake.Checked α} {f : α → Work Json}
    (h : ∀ s, (f s).Writes Genuine) : (Work.settings task read >>= f).Writes Genuine := by
  unfold Work.settings
  cases read (.obj task.config) with
  | good s => exact h s
  | bad issues => exact genuine_fail task _

theorem genuine_runManual : (runManual task).Writes Genuine := by
  have htitle (kind : Kind) : ¬(kind.title ++ " ").toList <+: "Manual trigger activated".toList := by
    cases kind <;> decide
  refine genuine_settings task fun s => ?_
  by_cases h : s.value.isNull
  · simp only [h, if_true, pure_bind]
    exact Work.writes_lift_bind (fun _ => rfl) fun time => genuine_success task htitle _ _
  · rw [if_neg h, pure_bind]
    exact genuine_success task htitle _ _

theorem genuine_runWebhook : (runWebhook task).Writes Genuine :=
  genuine_settings task fun _ => genuine_success task (fun kind => by cases kind <;> decide) _ _

theorem genuine_runPrompt (service : PromptService) : (service.run task).Writes Genuine := by
  have htitle (kind : Kind) : ¬(kind.title ++ " ").toList <+: "OpenAI response received".toList := by
    cases kind <;> decide
  refine genuine_settings task fun s => genuine_start task ?_
  cases service.provider with
  | none => exact genuine_fail task _
  | some provider =>
    refine Work.writes_lift_bind (log_attempt service provider _) fun result => ?_
    cases result with
    | error f => exact genuine_fail task _
    | ok c =>
      refine genuine_enter task (fun _ => not_isSimulation_of_title htitle) ?_
      exact Work.writes_lift_bind (fun _ => rfl) fun _ => genuine_pure _

theorem genuine_exchange (fetcher : Fetcher) (r : WebRequest) (opening : String) {label : String}
    (hlabel : ∀ (kind : Kind) (text : String), ¬(kind.title ++ " ").toList <+: (label ++ text).toList) :
    (exchange fetcher task r opening label).Writes Genuine := by
  refine genuine_start task (Work.writes_lift_bind (log_send fetcher r) fun result => ?_)
  cases result with
  | error f => exact genuine_fail task _
  | ok reply =>
    refine genuine_success task (fun kind => ?_) _ _
    rw [String.append_assoc]
    exact hlabel kind _

theorem genuine_runRequest (fetcher : Fetcher) (demoUrl : Json) : (runRequest fetcher demoUrl task).Writes Genuine := by
  refine genuine_settings task fun s => ?_
  cases filled? s.url with
  | none => exact genuine_exchange task fetcher _ _ fun kind text => by cases kind <;> simp [Kind.title]
  | some url => exact genuine_exchange task fetcher _ _ fun kind text => by cases kind <;> simp [Kind.title]

theorem genuine_runTransform : (runTransform task).Writes Genuine :=
  genuine_settings task fun _ => genuine_start task (genuine_success task (fun kind => by cases kind <;> decide) _ _)

theorem genuine_runCondition : (runCondition task).Writes Genuine :=
  genuine_settings task fun _ => genuine_success task (fun kind => by cases kind <;> simp [Kind.title]) _ _

theorem genuine_runOutput : (runOutput task).Writes Genuine :=
  genuine_enter task (fun _ => not_isSimulation_of_captured rfl) (genuine_pure _)

/-- The executors of services simulate nothing. -/
theorem run_genuine (service : PromptService) (fetcher : Fetcher) (demoUrl : Json) (s : Service) :
    ((Registry.dedicatedTo service fetcher demoUrl s).run task).Writes Genuine := by
  cases s with
  | manual => exact genuine_runManual task
  | webhook => exact genuine_runWebhook task
  | openai => exact genuine_runPrompt task service
  | http => exact genuine_runRequest task fetcher demoUrl
  | code => exact genuine_runTransform task
  | ifElse => exact genuine_runCondition task

/-- One of the entries is that of a simulated node. -/
def Simulating (_result : Except NodeFault Json) (added : List Entry) : Prop := ∃ entry ∈ added, entry.IsSimulation

/-- The executors of other services say that they simulate. -/
theorem fallback_simulates {kind : Kind} (h : kind ≠ .output) :
    ((Registry.fallbackOf kind).run task).Writes Simulating := by
  cases kind with
  | output => exact absurd rfl h
  | trigger =>
    exact Work.writes_enter_bind fun _ => Work.writes_pure
      ⟨_, List.mem_singleton_self _, rfl, .trigger, task.service, rfl⟩
  | action | logic =>
    exact Work.writes_enter_bind fun _ => Work.writes_pure
      ⟨_, List.mem_singleton_self _, rfl, task.kind, task.service, rfl⟩

end Executors

/-! ## Nodes -/

/-- **An executor is made for a node**: it is the one that is dedicated to its service, or that of outputs for an
output. -/
def Registry.MadeFor (provider : Option Provider) (fetcher : Fetcher) (setup : Setup) (node : Node)
    (executor : Executor) : Prop :=
  (∃ s : Service, node.variant = s.variant ∧
      executor = dedicatedTo (setup.promptService provider) fetcher setup.demoUrl s) ∨
    node.kind = .output ∧ executor = .output

namespace Runner

variable (provider : Option Provider) (fetcher : Fetcher) (setup : Setup)

/-- **The library simulates exactly the nodes of unknown variants.** -/
theorem handle_simulates (node : Node) (input : Json) (w : World) :
    ∃ added, ((standard provider fetcher setup).handle node input w).2.log = w.log ++ added ∧
      ((∃ entry ∈ added, entry.IsSimulation) ↔ node.isKnown = false) := by
  rw [handle_standard, Registry.standardFor]
  cases hservice : Service.ofVariant? node.variant with
  | some s =>
    obtain ⟨added, hlog, hgenuine⟩ := run_genuine (Task.mk node input) (setup.promptService provider) fetcher
      setup.demoUrl s (entered node w)
    refine ⟨added, hlog, iff_of_false ?_ (by simp [Node.isKnown, hservice])⟩
    rintro ⟨entry, hentry, hsim⟩
    exact hgenuine entry hentry hsim
  | none =>
    by_cases hkind : node.kind = .output
    · obtain ⟨added, hlog, hgenuine⟩ := genuine_runOutput (Task.mk node input) (entered node w)
      refine ⟨added, ?_, iff_of_false ?_ (by simp [Node.isKnown, hkind])⟩
      · rw [hkind]
        exact hlog
      · rintro ⟨entry, hentry, hsim⟩
        exact hgenuine entry hentry hsim
    · obtain ⟨added, hlog, hsim⟩ := fallback_simulates (Task.mk node input) hkind (entered node w)
      exact ⟨added, hlog, iff_of_true hsim (by simp [Node.isKnown, hservice, hkind])⟩

variable {provider fetcher setup}

/-- **The log of a walk tells which nodes were simulated**: those that were run although their variant is unknown. -/
theorem exists_simulation_iff {graph : Graph} {p : Progress World} (howned : Owned p)
    (h : Recounted (standard provider fetcher setup) graph p) (id : String) :
    (∃ entry ∈ p.state.log, entry.nodeId = id ∧ entry.IsSimulation) ↔
      id ∈ p.path ∧ ∃ node, graph.node? id = some node ∧ node.isKnown = false := by
  have hhandled (hid : id ∈ p.path) : ∃ node, graph.node? id = some node ∧
      ((∃ entry ∈ entriesOf id p.state.log, entry.IsSimulation) ↔ node.isKnown = false) := by
    obtain ⟨target, htarget, rfl⟩ := List.mem_map.mp hid
    obtain ⟨node, w, hnode, hentries⟩ := h target htarget
    obtain ⟨added, hlog, hiff⟩ := handle_simulates provider fetcher setup node target.2 w
    obtain rfl : added = entriesOf target.1 p.state.log := List.append_cancel_left (hlog.symm.trans hentries)
    exact ⟨node, hnode, hiff⟩
  constructor
  · rintro ⟨entry, hentry, rfl, hsim⟩
    have hid : entry.nodeId ∈ p.path := howned entry hentry
    obtain ⟨node, hnode, hiff⟩ := hhandled hid
    exact ⟨hid, node, hnode, hiff.mp ⟨entry, mem_entriesOf.mpr ⟨hentry, rfl⟩, hsim⟩⟩
  · rintro ⟨hid, node, hnode, hunknown⟩
    obtain ⟨other, hother, hiff⟩ := hhandled hid
    rw [hnode] at hother
    obtain rfl := Option.some.inj hother
    obtain ⟨entry, hentry, hsim⟩ := hiff.mpr hunknown
    exact ⟨entry, (mem_entriesOf.mp hentry).1, (mem_entriesOf.mp hentry).2, hsim⟩

/-! ## Runs -/

/-- **Strict services refuse the nodes that validation reports**: those of unknown variants. -/
theorem refused_standard (graph : Graph) : (standard provider fetcher setup).refused graph = graph.unknown := by
  refine List.filter_congr fun node _ => ?_
  rw [standard, Registry.hasDedicated_standard, Node.isKnown, Bool.not_or, Bool.and_comm]
  rfl

/-- A run was rejected before any node was run: it left one entry, which is of no node, and made no calls. -/
structure Rejected (before : World) (ended : RunResult × World) : Prop where
  failed : ended.1.success = false
  path : ended.1.path = []
  outputs : ended.1.outputs = []
  log : ∃ message time, ended.1.log = [⟨systemId, .error, message, time, .null, []⟩]
  calls : ended.2.calls = before.calls

/-- A run of a graph without a place to start is rejected. -/
theorem rejected_of_error {runner : Runner} {graph : Graph} {fault : StartFault}
    (h : runner.locateTrigger graph = .error fault) (w : World) : Rejected w (runner.run graph w) := by
  obtain ⟨trace, records, hrun⟩ := run_eq_refusal h w
  rw [hrun]
  exact ⟨rfl, rfl, rfl, ⟨_, _, rfl⟩, rfl⟩

/-- A run that starts at a trigger is not rejected. -/
theorem not_rejected_of_ok {runner : Runner} {graph : Graph} {trigger : Node}
    (h : runner.locateTrigger graph = .ok trigger) (w : World) : ¬Rejected w (runner.run graph w) := by
  rw [run_eq_walk h]
  intro hrejected
  have hmem : trigger.id ∈ (runner.voyage graph trigger w).path := mem_path_walk h _
  rw [show (runner.voyage graph trigger w).path = [] from hrejected.path] at hmem
  cases hmem

/-- **Which graphs are rejected.** -/
theorem rejected_iff (runner : Runner) (graph : Graph) (w : World) :
    Rejected w (runner.run graph w) ↔ graph.nodes = [] ∨ graph.trigger? = none ∨ runner.Bars graph := by
  cases htrigger : graph.trigger? with
  | none =>
    refine iff_of_true ?_ (.inr (.inl rfl))
    by_cases hnodes : graph.nodes = []
    · have hlocate : runner.locateTrigger graph = .error .emptyWorkflow := by simp [locateTrigger, hnodes]
      exact rejected_of_error hlocate w
    · exact rejected_of_error (locateTrigger_of_no_trigger runner hnodes htrigger) w
  | some trigger =>
    have hnodes : graph.nodes ≠ [] := List.ne_nil_of_mem (List.mem_filter.mp (List.mem_of_head? htrigger)).1
    by_cases hbars : runner.Bars graph
    · exact iff_of_true (rejected_of_error (locateTrigger_of_bars hbars htrigger) w) (.inr (.inr hbars))
    · refine iff_of_false (not_rejected_of_ok (locateTrigger_of_not_bars hbars htrigger) w) ?_
      simp [hnodes, hbars]

/-- With the executors of the library, strict services bar the graphs in which validation finds unknown variants. -/
theorem bars_standard (hstrict : setup.strictServices = true) (graph : Graph) :
    (standard provider fetcher setup).Bars graph ↔ graph.unknown ≠ [] := by
  rw [Bars, refused_standard]
  exact and_iff_right hstrict

/-- The nodes of a graph that strict services do not bar are all known. -/
theorem isKnown_of_not_bars {graph : Graph} (hfree : ¬graph.unknown ≠ []) {node : Node} (h : node ∈ graph.nodes) :
    node.isKnown = true := by
  have hnone := List.filter_eq_nil_iff.mp (not_not.mp hfree) node h
  simpa using hnone

/-- The registry of the library finds for a known node what is made for it. -/
theorem resolve?_of_isKnown {node : Node} (h : node.isKnown = true) :
    ∃ executor, (Registry.standard provider fetcher setup).resolve? node = some executor ∧
      Registry.MadeFor provider fetcher setup node executor := by
  refine ⟨_, Registry.resolve?_standard provider fetcher setup node, ?_⟩
  unfold Registry.standardFor
  cases hservice : Service.ofVariant? node.variant with
  | some s => exact .inl ⟨s, (Service.variant_of_ofVariant? hservice).symm, rfl⟩
  | none =>
    have hkind : node.kind = .output := by simpa [Node.isKnown, hservice] using h
    exact .inr ⟨hkind, by rw [hkind]; rfl⟩

/-- **Strict services leave no node to be simulated.** With the executors of the library a graph is rejected exactly when
it has no nodes, no trigger, or a node of an unknown variant. In a run of any other graph each node is run by an executor
that is made for it, and no entry of the log is that of a simulated node. -/
theorem run_strict_services (provider : Option Provider) (fetcher : Fetcher) {setup : Setup}
    (hstrict : setup.strictServices = true) (graph : Graph) (w : World) :
    (Rejected w ((standard provider fetcher setup).run graph w) ↔
      graph.nodes = [] ∨ graph.trigger? = none ∨ graph.unknown ≠ []) ∧
    (∀ id ∈ ((standard provider fetcher setup).run graph w).1.path, ∃ node executor,
      graph.node? id = some node ∧ (standard provider fetcher setup).registry.resolve? node = some executor ∧
      Registry.MadeFor provider fetcher setup node executor) ∧
    ∀ entry ∈ ((standard provider fetcher setup).run graph w).1.log, ¬entry.IsSimulation := by
  rw [rejected_iff, bars_standard hstrict]
  refine ⟨Iff.rfl, ?_⟩
  cases hlocate : (standard provider fetcher setup).locateTrigger graph with
  | error fault =>
    obtain ⟨trace, records, hrun⟩ := run_eq_refusal hlocate w
    rw [hrun]
    refine ⟨fun _ hid => absurd hid List.not_mem_nil, fun entry hentry => ?_⟩
    obtain rfl := List.mem_singleton.mp hentry
    exact not_isSimulation_of_event (by simp)
  | ok trigger =>
    have hfree : ¬graph.unknown ≠ [] := by
      rw [← bars_standard hstrict]
      intro hbars
      rw [locateTrigger_of_bars hbars (trigger?_of_locateTrigger hlocate)] at hlocate
      cases hlocate
    rw [run_eq_walk hlocate]
    constructor
    · intro id hid
      obtain ⟨node, hnode⟩ := Option.isSome_iff_exists.mp
        ((Tour.consistent_explore _ (Tour.consistent_start _ (departure graph trigger w)) _).known id hid)
      obtain ⟨executor, hexecutor, hwhich⟩ :=
        resolve?_of_isKnown (isKnown_of_not_bars hfree (List.mem_of_find?_eq_some hnode))
      exact ⟨node, executor, hnode, hexecutor, hwhich⟩
    · intro entry hentry hsim
      obtain ⟨howned, hrecounted⟩ := recounted_explore (standard provider fetcher setup)
        (Registry.writesOwn_standard provider fetcher setup) graph (log_departure graph trigger w) [(trigger.id, .null)]
      obtain ⟨-, node, hnode, hunknown⟩ :=
        (exists_simulation_iff howned hrecounted entry.nodeId).mp ⟨entry, hentry, rfl, hsim⟩
      have hknown := isKnown_of_not_bars hfree (List.mem_of_find?_eq_some hnode)
      rw [hunknown] at hknown
      cases hknown

/-- Strict services reject the run of an action of a service without executor, and they let the one of a code node pass,
in which nothing is simulated. -/
theorem run_strict_services_code :
    Rejected dawn ((standard none offline { Setup.standard with strictServices := true }).run unserved dawn) ∧
      ¬Rejected dawn ((standard none offline { Setup.standard with strictServices := true }).run (relay "code") dawn) ∧
      ∀ entry ∈ ((standard none offline { Setup.standard with strictServices := true }).run (relay "code") dawn).1.log,
        ¬entry.IsSimulation := by
  have hstrict : { Setup.standard with strictServices := true }.strictServices = true := rfl
  obtain ⟨hrejected, -⟩ := run_strict_services none offline hstrict unserved dawn
  obtain ⟨haccepted, -, hgenuine⟩ := run_strict_services none offline hstrict (relay "code") dawn
  refine ⟨hrejected.mpr (.inr (.inr (by decide))), fun h => ?_, hgenuine⟩
  exact absurd (haccepted.mp h) (by decide)

end Runner

end Run

end WorkflowLab
