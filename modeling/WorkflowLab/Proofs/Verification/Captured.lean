import WorkflowLab.Proofs.Graph.Validation
import WorkflowLab.Proofs.Journal.Nodes
import WorkflowLab.Proofs.Run.Departure
import WorkflowLab.Proofs.Run.Handing
import WorkflowLab.Proofs.Verification.Agreement
import WorkflowLab.Proofs.Verification.Canonical

/-!
# What criteria judge

- `Reread`: a log as it comes of the documents that clients get;
- `Workspace.finalOutput_of_output`: what is captured is looked for among the entries about the first output node;
- `handle_output`: an output node writes one entry, with its whole input, and shows a part of it;
- `entriesOf_of_output`, `get?_of_output`: so this is the only entry about it in the log of a walk, and what it shows is
  its output;
- `run_captured`: the rules of criteria judge the very input of the first output node.
-/

namespace WorkflowLab

open Intake Run Time Verification

/-! ## The log that is handed in -/

/-- A log comes of reading documents, whatever the clock shows. -/
def Reread (documents : List Json) (log : List Entry) : Prop :=
  ∃ readings, list Entry.read (.arr documents) = .good readings ∧ readings.mapM id = (pure log : Clocked (List Entry))

/-- A log that clients get is read as it was. -/
theorem reread_wire (log : List Entry) : Reread (log.map Entry.wire) (log.map Entry.bare) :=
  ⟨log.map fun entry : Entry => (pure entry.bare : Clocked Entry), Checked.allFrom_map Entry.read_wire log 0,
    mapM_id_pure Entry.bare log⟩

/-- The entries about an id are read as those about this id. -/
theorem Run.entriesOf_map_bare (id : String) (log : List Entry) :
    entriesOf id (log.map Entry.bare) = (entriesOf id log).map Entry.bare := by
  rw [entriesOf, List.filter_map]
  rfl

/-- What is captured stands in the last success about the first output node. -/
theorem Verification.Workspace.finalOutput_of_output {state : Workspace} {node : Node}
    (h : state.workflow.find? (·.kind == .output) = some node) :
    state.finalOutput =
      ((entriesOf node.id state.log).reverse.find? (·.event == .success)).elim (.obj []) (·.data.orElse (.obj [])) := by
  rw [Workspace.finalOutput_eq, h, entriesOf, ← List.filter_reverse, List.find?_filter]
  simp only [Bool.decide_and, Bool.decide_eq_true, Option.map_some, Option.elim_some]

/-- The last output node of a path is the one after which there is none. -/
theorem Graph.Captures.get? {graph : Graph} {path before after : List String} {outputs : Fields} {final : Json}
    (h : graph.Captures path outputs final) {id : String} (hpath : path = before ++ id :: after)
    (hid : graph.isOutput id = true) (hafter : ∀ later ∈ after, graph.isOutput later = false) :
    outputs.get? id = some final := by
  have hlast : (path.filter graph.isOutput).getLast? = some id := by
    have hnone : after.filter graph.isOutput = [] := by simpa using hafter
    rw [hpath, List.filter_append, List.filter_cons_of_pos hid, hnone, List.getLast?_concat]
  rw [Graph.Captures, hlast] at h
  exact h

namespace Run

namespace Runner

/-! ## Output nodes -/

variable (provider : Option Provider) (fetcher : Fetcher) (setup : Setup)

/-- No service is one of outputs. -/
theorem ofVariant?_of_output {node : Node} (h : node.kind = .output) : Service.ofVariant? node.variant = none := by
  rw [Option.eq_none_iff_forall_ne_some]
  intro s hservice
  have hkind := ((node.ofVariant?_eq_some_iff s).mp hservice).1
  rw [h] at hkind
  cases s <;> cases hkind

/-- **An output node writes one entry**, with its whole input, and shows a part of it. -/
theorem handle_output {node : Node} (h : node.kind = .output) (input : Json) (w : World) :
    ((standard provider fetcher setup).handle node input w).1 = .ok (projectOutput input) ∧
      ∃ time, ((standard provider fetcher setup).handle node input w).2.log =
        w.log ++ [⟨node.id, .success, "Output captured", time, input, []⟩] := by
  rw [handle_standard, Registry.standardFor, ofVariant?_of_output h, h]
  exact ⟨rfl, _, rfl⟩

/-- What is captured of an output node that was run is its input. -/
theorem entriesOf_of_output {graph : Graph} {p : Progress World} (h : Recounted (standard provider fetcher setup) graph p)
    {node : Node} (hnode : graph.node? node.id = some node) (hkind : node.kind = .output) {input : Json}
    (hinput : (node.id, input) ∈ p.handled) :
    ∃ time, entriesOf node.id p.state.log = [⟨node.id, .success, "Output captured", time, input, []⟩] := by
  obtain ⟨found, w, hfound, hentries⟩ := h (node.id, input) hinput
  obtain rfl : node = found := Option.some.inj (hnode.symm.trans hfound)
  obtain ⟨-, time, hlog⟩ := handle_output provider fetcher setup hkind input w
  exact ⟨time, List.append_cancel_left (hentries.symm.trans hlog)⟩

/-- The output of an output node that was run is what it shows of its input. -/
theorem get?_of_output {graph : Graph} {p : Progress World}
    (h : ((standard provider fetcher setup).tour graph).Consistent p) (hrunning : p.fault = none)
    (haccounted : ((standard provider fetcher setup).tour graph).Accounted p) {node : Node}
    (hnode : graph.node? node.id = some node) (hkind : node.kind = .output) {input : Json}
    (hinput : (node.id, input) ∈ p.handled) : p.outputs.get? node.id = some (projectOutput input) := by
  obtain ⟨output, hout⟩ := h.exists_output _ hrunning (List.mem_map_of_mem hinput : node.id ∈ p.path)
  obtain ⟨found, before, after, hfound, hrun⟩ := haccounted (node.id, input) hinput output hout
  obtain rfl : node = found := Option.some.inj (hnode.symm.trans hfound)
  have hresult : Except.ok output = Except.ok (projectOutput input) :=
    (congrArg Prod.fst hrun).symm.trans (handle_output provider fetcher setup hkind input before).1
  rw [hout, Except.ok.inj hresult]

/-! ## Runs -/

section

variable {provider fetcher setup} {graph : Graph} {p : Progress World} {state : Workspace} {o : Node}

/-- Nothing is captured of an output node that was not run. -/
theorem finalOutput_of_not_mem (howned : Owned p) (ho : state.workflow.find? (·.kind == .output) = some o)
    (hlog : state.log = p.state.log.map Entry.bare) (hout : o.id ∉ p.path) : state.finalOutput = .obj [] := by
  rw [Workspace.finalOutput_of_output ho, hlog, entriesOf_map_bare, howned.entriesOf_eq_nil hout]
  rfl

/-- What is captured of an output node that was run is its input, unless that is nothing. -/
theorem finalOutput_of_handled (h : Recounted (standard provider fetcher setup) graph p)
    (ho : state.workflow.find? (·.kind == .output) = some o) (hlog : state.log = p.state.log.map Entry.bare)
    (hnode : graph.node? o.id = some o) {input : Json} (hinput : (o.id, input) ∈ p.handled) :
    state.finalOutput = input.orElse (.obj []) := by
  have hkind : o.kind = .output := by simpa using List.find?_some ho
  obtain ⟨time, hentries⟩ := entriesOf_of_output provider fetcher setup h hnode hkind hinput
  rw [Workspace.finalOutput_of_output ho, hlog, entriesOf_map_bare, hentries]
  rfl

/-- The final output of a walk is the output of the last output node. -/
theorem final?_of_last (h : ((standard provider fetcher setup).tour graph).Consistent p) (hrunning : p.fault = none)
    {id : String} {output : Json} (hout : p.outputs.get? id = some output) (hid : graph.isOutput id = true)
    {before after : List String} (hpath : p.path = before ++ id :: after)
    (hafter : ∀ later ∈ after, graph.isOutput later = false) : (RunResult.ofWalk p).final? = some output := by
  have hcaptures : graph.Captures p.path p.outputs p.final := h.captures hrunning
  rw [hcaptures.get? hpath hid hafter, Option.some.injEq] at hout
  rw [RunResult.final?, RunResult.verdict_of_no_fault hrunning, ← hout]
  rfl

end

/-- **Criteria judge what a run has captured.** In a graph whose ids occur once, let `o` be the first output node. The log
of a run that succeeds is given to clients exactly when the serializer takes its data. A workspace with these nodes and
with the log as it is read then has the input of `o` for its final output, or an empty object if that is nothing or `o`
was not run; what `o` shows of its input is its output, and that of the run if no output node comes after it. -/
theorem run_captured {s : Serializer} (hs : s.Faithful) {graph : Graph}
    (hdistinct : (graph.nodes.map (·.id)).Nodup) {w : World}
    (hsuccess : ((standard provider fetcher setup).run graph w).1.success = true) {o : Node}
    (ho : graph.nodes.find? (·.kind == .output) = some o) :
    ∃ trigger, let p := (standard provider fetcher setup).voyage graph trigger w
      graph.trigger? = some trigger ∧ ((standard provider fetcher setup).run graph w).1 = .ofWalk p ∧
      ((∃ documents, p.state.log.mapM (Entry.send s) = .ok documents) ↔
        ∀ entry ∈ p.state.log, entry.data.isNull = false → s.Takes entry.data) ∧
      ∀ documents, p.state.log.mapM (Entry.send s) = .ok documents → ∃ log, Reread documents log ∧
        ∀ state : Workspace, state.workflow = graph.nodes → state.log = log →
          (o.id ∉ p.path → state.finalOutput = .obj []) ∧
          (o.id ∈ p.path → ∃ input, (o.id, input) ∈ p.handled ∧ state.finalOutput = input.orElse (.obj []) ∧
            p.outputs.get? o.id = some (projectOutput input) ∧
            ∀ before after, p.path = before ++ o.id :: after →
              (∀ later ∈ after, graph.isOutput later = false) →
                ((standard provider fetcher setup).run graph w).1.final? = some (projectOutput input)) := by
  cases hlocate : (standard provider fetcher setup).locateTrigger graph with
  | error fault =>
    obtain ⟨trace, records, hrun⟩ := run_eq_refusal hlocate w
    rw [hrun] at hsuccess
    cases hsuccess
  | ok trigger =>
    have hrun : ((standard provider fetcher setup).run graph w).1 =
        .ofWalk ((standard provider fetcher setup).voyage graph trigger w) := congrArg Prod.fst (run_eq_walk hlocate w)
    rw [hrun] at hsuccess ⊢
    obtain ⟨howned, hrecounted⟩ := recounted_explore (standard provider fetcher setup)
      (Registry.writesOwn_standard provider fetcher setup) graph (log_departure graph trigger w) [(trigger.id, .null)]
    have hconsistent := Tour.consistent_explore _ (Tour.consistent_start
      ((standard provider fetcher setup).tour graph) (departure graph trigger w)) [(trigger.id, .null)]
    have haccounted := Tour.accounted_explore ((standard provider fetcher setup).tour graph)
      (departure graph trigger w) [(trigger.id, .null)]
    have hrunning := RunResult.fault_of_success hsuccess
    have hkind : o.kind = .output := by simpa using List.find?_some ho
    -- were its id that of an earlier node, a walk would run that one instead
    have hnode : graph.node? o.id = some o := Graph.node?_of_mem hdistinct (List.mem_of_find?_eq_some ho)
    refine ⟨trigger, trigger?_of_locateTrigger hlocate, rfl, Entry.exists_mapM_send_iff, fun documents hdocuments => ?_⟩
    obtain rfl := Entry.eq_map_wire_of_mapM_send hs hdocuments
    refine ⟨_, reread_wire _, fun state hworkflow hlog => ?_⟩
    rw [← hworkflow] at ho
    refine ⟨finalOutput_of_not_mem howned ho hlog, fun hin => ?_⟩
    obtain ⟨target, htarget, hid⟩ := List.mem_map.mp hin
    have hinput : (o.id, target.2) ∈ ((standard provider fetcher setup).voyage graph trigger w).handled := hid ▸ htarget
    have hout := get?_of_output provider fetcher setup hconsistent hrunning haccounted hnode hkind hinput
    have hisOutput : graph.isOutput o.id = true := by simp [Graph.isOutput, hnode, hkind]
    exact ⟨target.2, hinput, finalOutput_of_handled hrecounted ho hlog hnode hinput, hout,
      fun before after hpath hafter => final?_of_last hconsistent hrunning hout hisOutput hpath hafter⟩

/-- A trigger whose payload is a list. -/
def sender (items : List Json) : Node where
  id := "t"
  kind := .trigger
  service := "manual"
  config := [("inputData", .arr items)]
  successors := ["o"]
  position := none
  extra := []

/-- An output. -/
def receiver : Node where
  id := "o"
  kind := .output
  service := ""
  config := []
  successors := []
  position := none
  extra := []

/-- A list is handed on to an output. -/
def delivery (items : List Json) : Graph := ⟨[sender items, receiver]⟩

/-- A delivery starts at its sender. -/
theorem locateTrigger_delivery (items : List Json) :
    (standard none offline .standard).locateTrigger (delivery items) = .ok (sender items) := rfl

/-- In a delivery both nodes are run; both of their entries carry the list. -/
theorem voyage_delivery (items : List Json) (w : World) :
    ((standard none offline .standard).voyage (delivery items) (sender items) w).fault = none ∧
      ((standard none offline .standard).voyage (delivery items) (sender items) w).handled =
        [("t", .null), ("o", .arr items)] ∧
      ((standard none offline .standard).voyage (delivery items) (sender items) w).state.log.map (·.data) =
        [.arr items, .arr items] := by
  rw [voyage, Tour.explore_singleton _ _ _ [("o", .arr items)] rfl, Tour.explore_singleton _ _ _ [] rfl,
    Tour.explore_nil]
  exact ⟨rfl, rfl, rfl⟩

/-- A delivery succeeds. -/
theorem success_delivery (items : List Json) (w : World) :
    ((standard none offline .standard).run (delivery items) w).1.success = true := by
  rw [run_eq_walk (locateTrigger_delivery items)]
  exact RunResult.success_of_ok (RunResult.verdict_of_no_fault (voyage_delivery items w).1)

/-- A delivery of a text is captured. -/
theorem run_captured_delivery :
    Serializer.customary.Faithful ∧ ((delivery [.str "sun"]).nodes.map (·.id)).Nodup ∧
      ((standard none offline .standard).run (delivery [.str "sun"]) dawn).1.success = true ∧
      (delivery [.str "sun"]).nodes.find? (·.kind == .output) = some receiver ∧
      ∃ documents log,
        ((standard none offline .standard).run (delivery [.str "sun"]) dawn).1.log.mapM (Entry.send .customary) =
          .ok documents ∧
        Reread documents log ∧
        (Workspace.mk "ada" none (delivery [.str "sun"]).nodes log .complete []).finalOutput = .arr [.str "sun"] ∧
        ((standard none offline .standard).run (delivery [.str "sun"]) dawn).1.final? = some (.arr [.str "sun"]) := by
  have hdistinct : ((delivery [.str "sun"]).nodes.map (·.id)).Nodup := by decide
  have hsuccess := success_delivery [.str "sun"] dawn
  have ho : (delivery [.str "sun"]).nodes.find? (·.kind == .output) = some receiver := rfl
  obtain ⟨trigger, htrigger, hrun, hsent, hjudged⟩ :=
    run_captured none offline .standard Serializer.faithful_customary hdistinct hsuccess ho
  obtain rfl : sender [.str "sun"] = trigger := Option.some.inj htrigger
  obtain ⟨-, hhandled, hdata⟩ := voyage_delivery [.str "sun"] dawn
  obtain ⟨documents, hdocuments⟩ := hsent.mpr fun entry hentry _ => by
    have hmem := List.mem_map_of_mem (f := (·.data)) hentry
    rw [hdata] at hmem
    simp only [List.mem_cons, List.not_mem_nil, or_false, or_self] at hmem
    rw [hmem]
    exact Serializer.takes_bounded_iff.mpr (by decide)
  obtain ⟨log, hread, hcaptured⟩ := hjudged documents hdocuments
  have hpath : ((standard none offline .standard).voyage (delivery [.str "sun"]) (sender [.str "sun"]) dawn).path =
      ["t"] ++ "o" :: [] := congrArg (List.map Prod.fst) hhandled
  obtain ⟨input, hinput, hfinal, -, hlast⟩ :=
    (hcaptured ⟨"ada", none, (delivery [.str "sun"]).nodes, log, .complete, []⟩ rfl rfl).2
      (by rw [hpath]; decide)
  obtain rfl : input = .arr [.str "sun"] := by
    rw [hhandled] at hinput
    simpa [receiver] using hinput
  refine ⟨Serializer.faithful_customary, hdistinct, hsuccess, ho, documents, log, ?_, hread, hfinal, ?_⟩
  · rw [hrun]
    exact hdocuments
  · exact hlast ["t"] [] hpath fun _ h => absurd h List.not_mem_nil

/-- A delivery of what is too deep succeeds and its output is run, but clients do not get its log. -/
theorem delivery_unsent :
    ((delivery [nested 300]).nodes.map (·.id)).Nodup ∧
      ((standard none offline .standard).run (delivery [nested 300]) dawn).1.success = true ∧
      (delivery [nested 300]).nodes.find? (·.kind == .output) = some receiver ∧
      receiver.id ∈ ((standard none offline .standard).run (delivery [nested 300]) dawn).1.path ∧
      ((standard none offline .standard).run (delivery [nested 300]) dawn).1.log.mapM (Entry.send .customary) =
        .error "Maximum serialization depth exceeded" := by
  obtain ⟨-, hhandled, hdata⟩ := voyage_delivery [nested 300] dawn
  refine ⟨by decide, success_delivery [nested 300] dawn, rfl, ?_, ?_⟩
  · rw [run_eq_walk (locateTrigger_delivery _)]
    exact List.mem_map_of_mem (hhandled ▸ List.mem_cons_of_mem _ List.mem_cons_self)
  · obtain ⟨first, rest, hlog, hfirst, -⟩ := List.map_eq_cons_iff.mp hdata
    have hlevels : (Json.arr [nested 300]).depth = 302 := depth_nested 301
    have hnull : (Json.arr [nested 300]).isNull = false := rfl
    have hdeep : Serializer.customary.value (.arr [nested 300]) = .error Serializer.depthMessage :=
      Serializer.value_bounded_of_lt (by omega)
    have hsend : first.send .customary = .error Serializer.depthMessage := by
      rw [Entry.send_eq, hfirst, hnull, if_neg Bool.false_ne_true, hdeep]
      rfl
    rw [run_eq_walk (locateTrigger_delivery _), RunResult.ofWalk, hlog, List.mapM_cons, hsend]
    rfl

end Runner

end Run

end WorkflowLab
