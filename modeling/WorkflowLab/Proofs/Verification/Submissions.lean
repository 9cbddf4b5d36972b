import WorkflowLab.Proofs.Json.Serializers
import WorkflowLab.Verification.Submission

/-!
# What is handed in is read

After a run its nodes, its log as clients get it, and its status are handed in as one document.

- `Entry.read_wire`: an entry that clients get is read as it was, without members of its own;
- `exists_mapM_send_iff`, `eq_map_wire_of_mapM_send`: when a log has documents, and which;
- `Graph.read_of_ofPayload`: the nodes of a payload are read as those of its graph;
- `Workspace.read_submission`: the workspace that is read.
-/

namespace WorkflowLab

open Intake Time

/-! ## The log -/

namespace Entry

/-- The entry without members that the form does not know. -/
def bare (entry : Entry) : Entry := { entry with extra := [] }

/-- **An entry that clients get is read as it was.** -/
theorem read_wire (entry : Entry) : read entry.wire = .good (pure entry.bare) := by
  obtain ⟨nodeId, event, message, timestamp, data, extra⟩ := entry
  cases data <;> cases event <;> rfl

variable {s : Serializer}

/-- An entry without data has a document; that of any other is made with the document of its data. -/
theorem send_eq (s : Serializer) (entry : Entry) : entry.send s =
    if entry.data.isNull then .ok entry.wire else (s.value entry.data).map fun v => entry.wireWith (some v) := by
  unfold send wire data?
  split
  · rfl
  · rw [Option.mapM_some]
    cases s.value entry.data <;> rfl

/-- **An entry has a document exactly when its data has one**, if there is any. -/
theorem exists_send_iff {entry : Entry} :
    (∃ document, entry.send s = .ok document) ↔ (entry.data.isNull = false → s.Takes entry.data) := by
  rw [send_eq, Serializer.Takes]
  cases entry.data.isNull <;> cases s.value entry.data <;> simp [Except.map]

/-- The document of an entry is what clients get. -/
theorem eq_wire_of_send (hs : s.Faithful) {entry : Entry} {document : Json} (h : entry.send s = .ok document) :
    document = entry.wire := by
  rw [send_eq] at h
  split at h
  · exact (Except.ok.inj h).symm
  · next hdata =>
    cases hv : s.value entry.data with
    | error message =>
      rw [hv] at h
      cases h
    | ok v =>
      rw [hv] at h
      cases h
      rw [hs.value hv, wire, data?, if_neg hdata]

/-- **A log has documents exactly when its data has them**, entry by entry. -/
theorem exists_mapM_send_iff {log : List Entry} : (∃ documents, log.mapM (send s) = .ok documents) ↔
    ∀ entry ∈ log, entry.data.isNull = false → s.Takes entry.data :=
  exists_mapM_eq_ok_iff.trans (forall₂_congr fun _ _ => exists_send_iff)

/-- The documents of a log are what clients get. -/
theorem eq_map_wire_of_mapM_send (hs : s.Faithful) {log : List Entry} {documents : List Json}
    (h : log.mapM (send s) = .ok documents) : documents = log.map wire :=
  eq_map_of_mapM h fun _ _ => eq_wire_of_send hs

end Entry

/-! ## Lists -/

namespace Intake.Checked

variable {α β : Type}

/-- The items of a list that are all read are read together. -/
theorem allFrom_map_of_mem {read : Json → Checked α} {write : β → Json} {value : β → α} {items : List β}
    (h : ∀ b ∈ items, read (write b) = .good (value b)) (i : Nat) :
    allFrom read i (items.map write) = .good (items.map value) := by
  induction items generalizing i with
  | nil => rfl
  | cons b rest ih =>
    rw [List.forall_mem_cons] at h
    rw [List.map_cons, allFrom, h.1, ih h.2]
    rfl

theorem allFrom_map {read : Json → Checked α} {write : β → Json} {value : β → α}
    (h : ∀ b, read (write b) = .good (value b)) (items : List β) (i : Nat) :
    allFrom read i (items.map write) = .good (items.map value) := allFrom_map_of_mem (fun b _ => h b) i

end Intake.Checked

/-- Readings that do not look at the clock. -/
theorem Time.mapM_id_pure {α β : Type} (f : α → β) (items : List α) :
    (items.map fun a => (pure (f a) : Clocked β)).mapM id = pure (items.map f) := by
  induction items with
  | nil => rfl
  | cons a rest ih => rw [List.map_cons, List.mapM_cons, ih]; rfl

/-! ## The workspace -/

/-- The nodes of a payload are read as those of its graph. -/
theorem Graph.read_of_ofPayload {payload : Json} {graph : Graph} (h : ofPayload payload = .ok graph) :
    list Node.read (nodesOf payload) = .good graph.nodes := by
  unfold ofPayload at h
  split at h
  · cases h
  · next items hitems =>
    rw [hitems]
    show Checked.all Node.read items = _
    cases hall : Checked.all Node.read items with
    | good nodes =>
      rw [hall] at h
      cases h
      rfl
    | bad issues =>
      rw [hall] at h
      cases h
  · cases h

namespace Verification

open Run

/-- A status is read by its name. -/
theorem Status.choice_name (status : Status) : choice byName (.str status.name) = .good status := by
  cases status <;> rfl

/-- The workspace of a learner after a run of a graph. -/
def Workspace.afterRun (learnerId : String) (graph : Graph) (run : RunResult) : Workspace where
  learnerId
  sessionId := none
  workflow := graph.nodes
  log := run.log.map Entry.bare
  status := Status.ofRun run
  extra := []

/-- **What is handed in after a run is read**, whatever the clock shows. -/
theorem Workspace.read_submission {payload : Json} {graph : Graph} (hgraph : Graph.ofPayload payload = .ok graph)
    (learnerId : String) (run : RunResult) :
    Workspace.read (submission (.str learnerId) (Graph.nodesOf payload) (run.log.map Entry.wire) (.ofRun run)) =
      .good (pure (afterRun learnerId graph run)) := by
  have hlog : list Entry.read (.arr (run.log.map Entry.wire)) =
      .good (run.log.map fun entry => (pure entry.bare : Clocked Entry)) := Checked.allFrom_map Entry.read_wire run.log 0
  have hmembers :
      Workspace.read (submission (.str learnerId) (Graph.nodesOf payload) (run.log.map Entry.wire) (.ofRun run)) =
      (fun learnerId sessionId workflow (log : List (Clocked Entry)) status extra => do
        let log ← log.mapM id
        return Workspace.mk learnerId sessionId workflow log status extra) <$>
      (Checked.good learnerId)
      <*> .good none
      <*> (list Node.read (Graph.nodesOf payload)).under (.key "workflow")
      <*> (list Entry.read (.arr (run.log.map Entry.wire))).under (.key "executionLog")
      <*> (choice Status.byName (.str (Status.ofRun run).name)).under (.key "status")
      <*> .good [] := rfl
  rw [hmembers, Graph.read_of_ofPayload hgraph, hlog, Status.choice_name]
  show Checked.good (do
    let log ← (run.log.map fun entry : Entry => (pure entry.bare : Clocked Entry)).mapM id
    return Workspace.mk learnerId none graph.nodes log (Status.ofRun run) []) = _
  rw [Time.mapM_id_pure]
  rfl

end Verification

end WorkflowLab
