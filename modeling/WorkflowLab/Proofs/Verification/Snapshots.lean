import WorkflowLab.Graph.Basic
import WorkflowLab.Proofs.Json.Ascii
import WorkflowLab.Proofs.Json.Reading
import WorkflowLab.Proofs.Json.Received
import WorkflowLab.Proofs.Node.Alike
import WorkflowLab.Proofs.Text.Base64
import WorkflowLab.Proofs.Verification.Agreement

/-!
# Snapshots that are read back

- `decodeSnapshot?_snapshot`: the text of a snapshot is decoded as it was;
- `Graph.ofPayload_of_alike`: documents that differ only in the order of keys give graphs that do;
- `IsReplayable`: the workflow and the time can be read back from the snapshot of a workflow;
- `isReplayable_iff`: **they can exactly when the serializer takes the nodes and no integer is too long**.
-/

namespace WorkflowLab

open Intake Time
open Json (IsKeyTest Matches hasDistinctKeys)

/-! ## Graphs -/

namespace Graph

variable {p : Json → Bool}

/-- Nodes that are read make a graph. -/
theorem ofPayload_of_read {payload : Json} {nodes : List Node} (h : list Node.read (nodesOf payload) = .good nodes) :
    ofPayload payload = .ok ⟨nodes⟩ := by
  unfold ofPayload
  cases hnodes : nodesOf payload with
  | arr items =>
    have hall : Checked.all Node.read items = .good nodes := by rwa [hnodes] at h
    dsimp only
    rw [hall]
    rfl
  | null | bool | num | str | obj =>
    rw [hnodes] at h
    cases h

/-- Payloads that match have lists of nodes that do. -/
theorem matches_nodesOf (hnull : p .null = true) {v w : Json} (h : Matches p v w) :
    Matches p (nodesOf v) (nodesOf w) := by
  cases h.alike with
  | null | bool | num | str | arr => exact h
  | obj =>
    simp only [nodesOf]
    rcases h.get? "workflow" with ⟨hnone, hnone'⟩ | ⟨v, w, hv, hw, hmatches⟩
    · rw [hnone, hnone']
      rcases h.get? "nodes" with ⟨hnone, hnone'⟩ | ⟨v, w, hv, hw, hmatches⟩
      · rw [hnone, hnone']
        exact .refl hnull
      · rw [hv, hw]
        exact hmatches
    · rw [hv, hw]
      exact hmatches

/-- **Payloads that differ only in the order of keys give graphs that do.** -/
theorem ofPayload_of_alike {v w : Json} (h : Json.Alike v w) (hproper : v.isProper = true) {graph : Graph}
    (hgraph : ofPayload v = .ok graph) :
    ∃ other, ofPayload w = .ok other ∧ List.Forall₂ Node.Alike graph.nodes other.nodes := by
  have hmatches : Matches hasDistinctKeys v w := ⟨h, hproper⟩
  have hagrees := agrees_list (Node.agrees_read Json.isKeyTest_hasDistinctKeys rfl) (matches_nodesOf rfl hmatches)
  rw [read_of_ofPayload hgraph] at hagrees
  obtain ⟨nodes, hnodes, hrelated⟩ := hagrees.exists_good
  exact ⟨⟨nodes⟩, ofPayload_of_read hnodes, hrelated.imp fun _ _ hnode => hnode.1⟩

/-- The nodes of a graph pass what its payload passes. -/
theorem passes_of_ofPayload (hp : IsKeyTest p) (hnull : p .null = true) {payload : Json}
    (h : payload.every p = true) {graph : Graph} (hgraph : ofPayload payload = .ok graph) :
    ∀ n ∈ graph.nodes, n.Passes p :=
  Node.passes_of_list_read hp hnull (matches_nodesOf hnull (.refl h)).passes (read_of_ofPayload hgraph)

end Graph

namespace Verification

/-! ## Decoding -/

/-- ASCII characters come back from their bytes. -/
theorem ofNat_asciiBytes {text : List Char} (h : isAscii text = true) :
    (asciiBytes text).map (fun b => Char.ofNat b.toNat) = text := by
  unfold asciiBytes
  rw [List.map_map]
  refine (List.map_congr_left fun c hc => ?_).trans (List.map_id text)
  have hc := isAscii_iff.mp h c hc
  have hbyte : (UInt8.ofNat c.toNat).toNat = c.toNat := Nat.mod_eq_of_lt (by omega)
  rw [Function.comp_apply, hbyte, Char.ofNat_toNat]
  rfl

/-- **The text of a snapshot is decoded as it was.** -/
theorem decodeSnapshot?_snapshot (workflow : List Node) (time : Timestamp) :
    decodeSnapshot? (snapshot workflow time) = some (snapshotText workflow time) := by
  have hascii : isAscii (snapshotText workflow time) = true := Json.isAscii_renderAt Json.isAscii_compact _ _
  rw [decodeSnapshot?, snapshot, encoded, String.toList_ofList, Text.Base64.decode?_encode, Option.map_some,
    ofNat_asciiBytes hascii]

/-! ## The document of a snapshot -/

/-- Every node is as documents give it. -/
def IsProper (workflow : List Node) : Prop := ∀ node ∈ workflow, node.IsProper

/-- Every double in a workflow is finite. -/
def IsFinite (workflow : List Node) : Prop := ∀ node ∈ workflow, node.listing.every Json.hasFiniteDouble = true

section

variable {workflow : List Node} (time : Timestamp)

/-- The document of a snapshot repeats no key. -/
theorem isProper_snapshotDocument (hproper : IsProper workflow) : (snapshotDocument workflow time).isProper = true := by
  have hkeys : ["workflow", "timestamp"].Nodup := by decide
  refine Json.isProper_obj.mpr ⟨hkeys, ?_⟩
  simp only [List.forall_mem_cons, Json.isProper_arr, List.forall_mem_map]
  exact ⟨fun n hn => Json.isProper_finite (Node.isProper_listing (hproper n hn)), rfl, List.forall_mem_nil _⟩

variable (hplain : ∀ node ∈ workflow, node.listing.isPlain = true)
include hplain

/-- With plain numbers it holds the documents of the nodes as they are. -/
theorem snapshotDocument_eq : snapshotDocument workflow time = stamped (workflow.map Node.listing) time := by
  have hmap : workflow.map (fun n => n.listing.finite) = workflow.map Node.listing :=
    List.map_congr_left fun n hn => Json.finite_of_isPlain (hplain n hn)
  rw [snapshotDocument, hmap]

/-- The numbers in it are then plain. -/
theorem isPlain_snapshotDocument : (snapshotDocument workflow time).isPlain = true := by
  rw [snapshotDocument_eq time hplain]
  refine Json.isPlain_obj.mpr ?_
  simp only [List.forall_mem_cons, Json.isPlain_arr, List.forall_mem_map]
  exact ⟨hplain, rfl, List.forall_mem_nil _⟩

/-- It is then a payload with the nodes. -/
theorem ofPayload_snapshotDocument (hproper : IsProper workflow) :
    Graph.ofPayload (snapshotDocument workflow time) = .ok ⟨workflow⟩ := by
  have hread : Checked.allFrom Node.read 0 (workflow.map Node.listing) = .good (workflow.map fun n => n) :=
    Checked.allFrom_map_of_mem (fun n hn => Node.read_listing (hproper n hn)) 0
  rw [List.map_id'] at hread
  rw [snapshotDocument_eq time hplain]
  exact Graph.ofPayload_of_read hread

end

/-! ## Replay -/

/-- **The snapshot of a workflow gives it back**: it can be taken, and its text is a document with the time and a graph
whose nodes differ from those of the workflow in nothing but the order of keys. -/
def IsReplayable (s : Serializer) (workflow : List Node) (time : Timestamp) : Prop :=
  ∃ taken text doc graph, takeSnapshot s workflow time = .ok taken ∧ decodeSnapshot? taken = some text ∧
    Json.parse text = .ok doc ∧ doc.get "timestamp" = .str time.iso ∧ Graph.ofPayload doc = .ok graph ∧
    List.Forall₂ Node.Alike workflow graph.nodes

variable {s : Serializer} {workflow : List Node} {time : Timestamp}

/-- The time of a document stays as it is when keys are sorted. -/
theorem get_timestamp (h : (snapshotDocument workflow time).isProper = true) :
    (snapshotDocument workflow time).sortKeys.get "timestamp" = .str time.iso := by
  have hkeys := (Json.isProper_obj.mp h).1
  show (Fields.get? (Json.sortFields _) "timestamp").getD .null = _
  rw [Json.get?_sortFields hkeys]
  rfl

/-- **Workflows with plain numbers can be replayed** if they have a snapshot. -/
theorem isReplayable_of_isPlain (hs : s.Faithful) (hproper : IsProper workflow)
    (hplain : ∀ node ∈ workflow, node.listing.isPlain = true) {taken : String}
    (htaken : takeSnapshot s workflow time = .ok taken) : IsReplayable s workflow time := by
  have hdocument := isProper_snapshotDocument time hproper
  have halike := Json.alike_sortKeys hdocument
  have hparse : Json.parse (snapshotText workflow time) = .ok (snapshotDocument workflow time).sortKeys :=
    Json.parse_renderAt Json.isSeparated_compact (halike.isProper hdocument)
      (Json.isPlain_sortKeys (isPlain_snapshotDocument time hplain))
  obtain ⟨graph, hgraph, hnodes⟩ :=
    Graph.ofPayload_of_alike halike hdocument (ofPayload_snapshotDocument time hplain hproper)
  obtain rfl := eq_snapshot_of_takeSnapshot hs htaken
  exact ⟨_, _, _, graph, htaken, decodeSnapshot?_snapshot workflow time, hparse, get_timestamp hdocument, hgraph, hnodes⟩

/-- **A workflow as documents give it, whose doubles are finite, can be replayed exactly when the serializer takes its
nodes and its integers are short.** -/
theorem isReplayable_iff (hs : s.Faithful) (hproper : IsProper workflow) (hfinite : IsFinite workflow)
    (time : Timestamp) :
    IsReplayable s workflow time ↔ (∀ node ∈ workflow, s.TakesRecord node.listing) ∧ IsShort workflow := by
  have hexists : (∃ taken, takeSnapshot s workflow time = .ok taken) ↔
      (∀ node ∈ workflow, s.TakesRecord node.listing) ∧ IsShort workflow := exists_takeSnapshot_iff hs
  rw [← hexists]
  constructor
  · rintro ⟨taken, -, -, -, htaken, -⟩
    exact ⟨taken, htaken⟩
  · rintro ⟨taken, htaken⟩
    obtain ⟨-, hshort⟩ := hexists.mp ⟨taken, htaken⟩
    exact isReplayable_of_isPlain hs hproper
      (fun node hnode => Json.isPlain_iff.mpr ⟨hshort node hnode, hfinite node hnode⟩) htaken

/-- A node with a note among its settings, a place with a fraction, and a further member with another name of its
kind. -/
def noted (note : Json) : Node where
  id := "t"
  kind := .trigger
  service := "manual"
  config := [("note", note)]
  successors := ["t"]
  position := some [("y", .int 2), ("x", .float 0.5)]
  extra := [("type", .str "memo")]

theorem listing_noted (note : Json) : (noted note).listing = .obj [("id", .str "t"), ("kind", .str "trigger"),
    ("service", .str "manual"), ("config", .obj [("note", note)]), ("successors", .arr [.str "t"]),
    ("position", .obj [("y", .int 2), ("x", .float 0.5)]), ("type", .str "memo")] := rfl

theorem isProper_noted {note : Json} (h : note.isProper = true) : IsProper [noted note] := by
  have hfresh : ∀ m ∈ Node.form, m.keptAs ∉ ["type"] := by decide
  refine List.forall_mem_singleton.mpr ⟨?_, rfl, rfl, hfresh⟩
  exact Json.isProper_obj.mpr ⟨List.nodup_singleton _, List.forall_mem_singleton.mpr h⟩

theorem isFinite_noted {note : Json} (h : note.every Json.hasFiniteDouble = true) : IsFinite [noted note] := by
  have hplace : (Json.obj [("y", .int 2), ("x", .float 0.5)]).every Json.hasFiniteDouble = true := by decide
  have hconfig : (Json.obj [("note", note)]).every Json.hasFiniteDouble = true :=
    Json.every_obj.mpr ⟨rfl, List.forall_mem_singleton.mpr h⟩
  refine List.forall_mem_singleton.mpr ?_
  rw [listing_noted, Json.every_obj]
  simp only [List.forall_mem_cons]
  exact ⟨rfl, rfl, rfl, rfl, hconfig, rfl, hplace, rfl, List.forall_mem_nil _⟩

/-- A note with quotes, a line break, and characters outside ASCII and beyond the basic plane. -/
def flourish : Json := .arr [.str "a \"clef\":\n𝄞 é", .obj [("b", .int (-7)), ("a", .float 0.1)]]

/-- A note with such characters comes back. -/
theorem isReplayable_noted :
    Serializer.customary.Faithful ∧ IsProper [noted flourish] ∧ IsFinite [noted flourish] ∧
      IsReplayable .customary [noted flourish] ⟨0, none⟩ := by
  have hproper : IsProper [noted flourish] := isProper_noted (by decide)
  have hfinite : IsFinite [noted flourish] := isFinite_noted (by decide)
  have htaken : ∀ node ∈ [noted flourish], Serializer.customary.TakesRecord node.listing :=
    List.forall_mem_singleton.mpr (Serializer.takesRecord_bounded_iff.mpr (by decide))
  exact ⟨Serializer.faithful_customary, hproper, hfinite,
    (isReplayable_iff Serializer.faithful_customary hproper hfinite _).mpr ⟨htaken, by decide⟩⟩

/-- A test that lists and null pass is passed by a list in a list, and so on. -/
theorem every_nested {p : Json → Bool} (hnull : p .null = true) (harr : ∀ items, p (.arr items) = true) (n : Nat) :
    (Run.Runner.nested n).every p = true := by
  induction n with
  | zero => exact hnull
  | succ n ih => exact Json.every_arr.mpr ⟨harr _, List.forall_mem_singleton.mpr ih⟩

/-- The document of a node has two levels more than its note. -/
theorem depth_noted (note : Json) : note.depth + 2 ≤ (noted note).listing.depth := by
  have hconfig : note.depth < (Json.obj [("note", note)]).depth :=
    Json.depth_lt_of_mem_fields (List.mem_singleton_self ("note", note))
  have hmember : (Json.obj [("note", note)]).depth < (noted note).listing.depth := by
    rw [listing_noted]
    exact Json.depth_lt_of_mem_fields (m := ("config", .obj [("note", note)])) (by simp)
  omega

/-- A note that is a natural number without a text does not come back. -/
theorem not_isShort_noted {n : Nat} (h : 10 ^ Number.maxIntegerDigits ≤ n) : ¬IsShort [noted (.nat n)] := by
  intro hshort
  have hlisting := List.forall_mem_singleton.mp hshort
  rw [listing_noted, Json.isShort_obj] at hlisting
  have hconfig := hlisting ("config", .obj [("note", .nat n)]) (by simp)
  have hnote := Json.isShort_obj.mp hconfig ("note", .nat n) (.head _)
  exact absurd (Run.Runner.isShort_nat_iff.mp hnote) (Nat.not_lt.mpr h)

/-- A note with 301 levels, and one that is an integer with 4301 digits, do not come back. -/
theorem not_isReplayable_noted :
    (IsProper [noted (Run.Runner.nested 300)] ∧ IsFinite [noted (Run.Runner.nested 300)] ∧
      ¬IsReplayable .customary [noted (Run.Runner.nested 300)] ⟨0, none⟩) ∧
    (IsProper [noted (.nat (10 ^ Number.maxIntegerDigits))] ∧ IsFinite [noted (.nat (10 ^ Number.maxIntegerDigits))] ∧
      ¬IsReplayable .customary [noted (.nat (10 ^ Number.maxIntegerDigits))] ⟨0, none⟩) := by
  have hnested : IsProper [noted (Run.Runner.nested 300)] := isProper_noted (every_nested rfl (fun _ => rfl) 300)
  have hnested' : IsFinite [noted (Run.Runner.nested 300)] := isFinite_noted (every_nested rfl (fun _ => rfl) 300)
  have hhuge : IsProper [noted (.nat (10 ^ Number.maxIntegerDigits))] := isProper_noted rfl
  have hhuge' : IsFinite [noted (.nat (10 ^ Number.maxIntegerDigits))] := isFinite_noted rfl
  refine ⟨⟨hnested, hnested', fun ⟨taken, _, _, _, htaken, _⟩ => ?_⟩, hhuge, hhuge',
    fun ⟨taken, _, _, _, htaken, _⟩ => ?_⟩
  · obtain ⟨hnodes, -⟩ := (exists_takeSnapshot_iff Serializer.faithful_customary).mp ⟨taken, htaken⟩
    have hdeep := Serializer.takesRecord_bounded_iff.mp (hnodes _ List.mem_cons_self)
    have hlevels := depth_noted (Run.Runner.nested 300)
    rw [Run.Runner.depth_nested] at hlevels
    omega
  · obtain ⟨-, hshort⟩ := (exists_takeSnapshot_iff Serializer.faithful_customary).mp ⟨taken, htaken⟩
    exact not_isShort_noted (Nat.le_refl _) hshort

end Verification

end WorkflowLab
