import WorkflowLab.Proofs.Verification.Snapshots
import WorkflowLab.Verification.Credential

/-!
# Snapshots do not depend on the order of keys

Two workflows that differ only in the order of keys are told apart neither by their snapshots nor by the verdicts on
them.

- `snapshotText_eq_of_alike`: the snapshots of two such workflows have one text;
- `takeSnapshot_eq_of_alike`: they are taken or refused together;
- `verify_eq_of_alike`: attempts with them are verified alike;
- `workflowHash_of_verify`: a credential holds the snapshot of the workflow that was verified;
- `exists_canonical`: **two lists of nodes that differ only in the order of keys are read together, and have the same
  snapshots, verdicts and credentials**.
-/

namespace WorkflowLab.Verification

open Intake Run Time

/-! ## Snapshots -/

section

variable {workflow others : List Node} (halike : List.Forall₂ Node.Alike workflow others) (hproper : IsProper workflow)
include halike hproper

/-- Such workflows have documents that are alike. -/
theorem alike_snapshotDocument (time : Timestamp) :
    Json.Alike (snapshotDocument workflow time) (snapshotDocument others time) := by
  have hnodes : Json.Alike (.arr (workflow.map fun n => n.listing.finite))
      (.arr (others.map fun n => n.listing.finite)) := by
    refine .arr (by rw [List.length_map, List.length_map, halike.length_eq]) fun i x y hx hy => ?_
    rw [List.getElem?_map, Option.map_eq_some_iff] at hx hy
    obtain ⟨a, ha, rfl⟩ := hx
    obtain ⟨b, hb, rfl⟩ := hy
    obtain ⟨hi, rfl⟩ := List.getElem?_eq_some_iff.mp ha
    obtain ⟨hi', rfl⟩ := List.getElem?_eq_some_iff.mp hb
    exact ((halike.get hi hi').listing (hproper _ (List.getElem_mem hi))).finite
  exact .cons hnodes (.refl _)

/-- **Such workflows have snapshots with the same text.** -/
theorem snapshotText_eq_of_alike (time : Timestamp) : snapshotText workflow time = snapshotText others time := by
  have hsorted := (alike_snapshotDocument halike hproper time).sortKeys_eq (isProper_snapshotDocument time hproper)
  rw [snapshotText, snapshotText, compactText, compactText, hsorted]

theorem snapshot_eq_of_alike (time : Timestamp) : snapshot workflow time = snapshot others time := by
  rw [snapshot, snapshot, snapshotText_eq_of_alike halike hproper]

/-- The integers of such workflows are short together. -/
theorem isShort_iff_of_alike : IsShort workflow ↔ IsShort others := by
  have heq := (alike_snapshotDocument halike hproper ⟨0, none⟩).isShort_eq (isProper_snapshotDocument _ hproper)
  rw [← isShort_snapshotDocument_iff, ← isShort_snapshotDocument_iff, heq]

/-- **Snapshots of such workflows are taken or refused together**, and are the same. -/
theorem takeSnapshot_eq_of_alike {s : Serializer} (hs : s.Faithful) (hunordered : s.Unordered) (time : Timestamp) :
    takeSnapshot s workflow time = takeSnapshot s others time := by
  have hrefused {message : String} : workflow.mapM (fun n => s.record n.listing) = .error message ↔
      others.mapM (fun n => s.record n.listing) = .error message := by
    refine mapM_eq_error_iff ?_
    rw [List.forall₂_iff_get] at halike ⊢
    refine ⟨halike.1, fun i hi hi' message => ?_⟩
    have hnode := (halike.2 i hi hi').listing (hproper _ (List.get_mem ..))
    have hlisting := Node.isProper_listing (hproper _ (List.get_mem workflow ⟨i, hi⟩))
    exact ⟨hunordered.refused hnode hlisting, hunordered.refused hnode.symm (hnode.isProper hlisting)⟩
  rw [takeSnapshot_eq hs, takeSnapshot_eq hs, snapshot_eq_of_alike halike hproper]
  simp only [isShort_iff_of_alike halike hproper]
  cases hfirst : workflow.mapM fun n => s.record n.listing with
  | error message => rw [hrefused.mp hfirst]
  | ok documents =>
    cases hsecond : others.mapM fun n => s.record n.listing with
    | error message => exact absurd (hrefused.mpr hsecond) (by rw [hfirst]; nofun)
    | ok documents' => rfl

/-! ## Verdicts -/

end

/-- The captured output is looked for by the id of the first output node. -/
theorem Workspace.finalOutput_eq (w : Workspace) : w.finalOutput =
    ((w.workflow.find? (·.kind == .output)).map (·.id)).elim (.obj []) fun id =>
      (w.log.reverse.find? fun e => e.nodeId == id && e.event == .success).elim (.obj []) (·.data.orElse (.obj [])) := by
  unfold finalOutput
  cases w.workflow.find? (·.kind == .output) with
  | none => rfl
  | some node =>
    dsimp only [Option.map_some, Option.elim_some]
    cases w.log.reverse.find? fun e => e.nodeId == node.id && e.event == .success <;> rfl

section

variable {workflow others : List Node} (halike : List.Forall₂ Node.Alike workflow others)
include halike

/-- The output nodes of such workflows have the same ids. -/
theorem find?_output_of_alike :
    (workflow.find? (·.kind == .output)).map (·.id) = (others.find? (·.kind == .output)).map (·.id) := by
  induction halike with
  | nil => rfl
  | cons hnode _ ih =>
    rw [List.find?_cons, List.find?_cons, ← hnode.kind]
    split
    · rw [Option.map_some, Option.map_some, hnode.id]
    · exact ih

/-- Both have an output node, or none has. -/
theorem any_output_of_alike : workflow.any (·.kind == .output) = others.any (·.kind == .output) := by
  induction halike with
  | nil => rfl
  | cons hnode _ ih => rw [List.any_cons, List.any_cons, ← hnode.kind, ih]

/-- **Such workflows are judged alike.** -/
theorem judge_eq_of_alike (allowance : Allowance) (w : Workspace) (criteria : Criteria) (hints seconds : Number) :
    allowance.judge { w with workflow := workflow } criteria hints seconds =
      allowance.judge { w with workflow := others } criteria hints seconds := by
  have houtput : { w with workflow := workflow }.finalOutput = { w with workflow := others }.finalOutput := by
    rw [Workspace.finalOutput_eq, Workspace.finalOutput_eq]
    dsimp only
    rw [find?_output_of_alike halike]
  have hbaseline : { w with workflow := workflow }.baselineValidations =
      { w with workflow := others }.baselineValidations := by
    unfold Workspace.baselineValidations
    dsimp only
    rw [halike.length_eq, any_output_of_alike halike]
  rw [Allowance.judge_eq, Allowance.judge_eq, houtput, hbaseline]
  rfl

/-- **Attempts with such workflows are verified alike**, whatever the clock shows. -/
theorem verify_eq_of_alike (hproper : IsProper workflow) {s : Serializer} (hs : s.Faithful) (hunordered : s.Unordered)
    (allowance : Allowance) (akuId : String) (w : Workspace) (hints seconds : Number) (criteria : Option Criteria) :
    allowance.verify s akuId { w with workflow := workflow } hints seconds criteria =
      allowance.verify s akuId { w with workflow := others } hints seconds criteria := by
  have hresult (j : Judgement) (time : Timestamp) :
      Allowance.resultAt s akuId { w with workflow := workflow } hints seconds j time =
        Allowance.resultAt s akuId { w with workflow := others } hints seconds j time := by
    unfold Allowance.resultAt
    dsimp only
    rw [takeSnapshot_eq_of_alike halike hproper hs hunordered]
  unfold Allowance.verify
  rw [judge_eq_of_alike halike]
  simp only [hresult]

end

/-! ## Credentials -/

/-- A result holds its time and the snapshot of the workflow then. -/
theorem takeSnapshot_of_resultAt {s : Serializer} {akuId : String} {w : Workspace} {hints seconds : Number}
    {j : Judgement} {time : Timestamp} {r : VerificationResult}
    (h : Allowance.resultAt s akuId w hints seconds j time = .ok r) :
    takeSnapshot s w.workflow r.timestamp = .ok r.snapshot := by
  unfold Allowance.resultAt at h
  obtain ⟨taken, htaken, h⟩ := ok_of_bind h
  dsimp only at h
  split at h
  · cases h
  · cases h
    cases hsnapshot : takeSnapshot s w.workflow time with
    | error fault =>
      rw [hsnapshot] at htaken
      cases htaken
    | ok taken =>
      rw [hsnapshot] at htaken
      cases htaken
      rfl

/-- **The result of a verification holds the snapshot** of the workflow at its time. -/
theorem takeSnapshot_of_verify {allowance : Allowance} {s : Serializer} {akuId : String} {w : Workspace}
    {hints seconds : Number} {criteria : Option Criteria} {world : World} {r : VerificationResult}
    (h : (allowance.verify s akuId w hints seconds criteria world).1 = .ok r) :
    takeSnapshot s w.workflow r.timestamp = .ok r.snapshot := by
  unfold Allowance.verify at h
  cases hjudge : allowance.judge w (criteria.getD Criteria.none) hints seconds with
  | error f =>
    rw [hjudge] at h
    cases h
  | ok j =>
    have hclock : Lab.clocked Clock.read world = (world.clock.now, { world with clock := world.clock.tick.2 }) := rfl
    rw [hjudge] at h
    simp only [bind, StateT.bind, hclock] at h
    cases hresult : Allowance.resultAt s akuId w hints seconds j world.clock.now with
    | error f =>
      rw [hresult] at h
      cases h
    | ok r' =>
      rw [hresult] at h
      cases h
      exact takeSnapshot_of_resultAt hresult

/-- The credential of a result holds its snapshot. -/
theorem workflowHash_of_credential? {r : VerificationResult} {masteryPath : String} {completed : List String}
    {credential : Json} (h : credential? r masteryPath completed = some credential) :
    (credential.get "phazur").get "workflowHash" = .str r.snapshot := by
  obtain ⟨millis, -, hcredential⟩ := Option.bind_eq_some_iff.mp h
  cases hcredential
  rfl

/-! ## Documents -/

/-- **The snapshot of a workflow is canonical.** Two lists of nodes that differ only in the order of keys, at any depth,
are read together. The workflows that they give have the same snapshots at every time. With any serializer on which the
order of keys has no influence, snapshots of both are taken or refused together, attempts with them have the same results,
and the hash of the workflow in a credential for one is the snapshot of the other. -/
theorem exists_canonical {a b : Json} (h : Json.Alike a b) (hproper : a.isProper = true) {workflow : List Node}
    (hread : list Node.read a = .good workflow) :
    ∃ others, list Node.read b = .good others ∧
      (∀ time, snapshot workflow time = snapshot others time) ∧
      ∀ s : Serializer, s.Faithful → s.Unordered →
        (∀ time, takeSnapshot s workflow time = takeSnapshot s others time) ∧
        ∀ (allowance : Allowance) (akuId : String) (w : Workspace) (hints seconds : Number)
          (criteria : Option Criteria),
          allowance.verify s akuId { w with workflow := workflow } hints seconds criteria =
            allowance.verify s akuId { w with workflow := others } hints seconds criteria ∧
          ∀ world r, (allowance.verify s akuId { w with workflow := workflow } hints seconds criteria world).1 = .ok r →
            ∀ masteryPath completed credential, credential? r masteryPath completed = some credential →
              (credential.get "phazur").get "workflowHash" = .str (snapshot others r.timestamp) := by
  have hagrees := agrees_list (Node.agrees_read Json.isKeyTest_hasDistinctKeys rfl) ⟨h, hproper⟩
  rw [hread] at hagrees
  obtain ⟨others, hothers, hrelated⟩ := hagrees.exists_good
  have halike : List.Forall₂ Node.Alike workflow others := hrelated.imp fun _ _ hnode => hnode.1
  have hworkflow : IsProper workflow := Node.passes_of_list_read Json.isKeyTest_hasDistinctKeys rfl hproper hread
  refine ⟨others, hothers, snapshot_eq_of_alike halike hworkflow, fun s hs hunordered =>
    ⟨takeSnapshot_eq_of_alike halike hworkflow hs hunordered, fun allowance akuId w hints seconds criteria =>
      ⟨verify_eq_of_alike halike hworkflow hs hunordered allowance akuId w hints seconds criteria, ?_⟩⟩⟩
  intro world r hresult masteryPath completed credential hcredential
  have htaken : takeSnapshot s workflow r.timestamp = .ok r.snapshot := takeSnapshot_of_verify hresult
  rw [takeSnapshot_eq_of_alike halike hworkflow hs hunordered] at htaken
  rw [workflowHash_of_credential? hcredential, eq_snapshot_of_takeSnapshot hs htaken]

/-- A list of one node, with the keys of all its objects in the order in which they were thought of. -/
def jumbled : Json := .arr [.obj [
  ("type", .str "trigger"), ("memo", .arr [.obj [("late", .int 2), ("early", .float 0.1)]]),
  ("position", .obj [("y", .int 7), ("x", .int (-3))]), ("id", .str "t"),
  ("config", .obj [("inputData", .obj [("topic", .str "sun"), ("from", .null)])])]]

/-- The same list with the keys in order. -/
def tidy : Json := .arr [.obj [
  ("config", .obj [("inputData", .obj [("from", .null), ("topic", .str "sun")])]), ("id", .str "t"),
  ("memo", .arr [.obj [("early", .float 0.1), ("late", .int 2)]]),
  ("position", .obj [("x", .int (-3)), ("y", .int 7)]), ("type", .str "trigger")]]

/-- Its node. -/
def jumbledNode : Node where
  id := "t"
  kind := .trigger
  service := ""
  config := [("inputData", .obj [("topic", .str "sun"), ("from", .null)])]
  successors := []
  position := some [("y", .int 7), ("x", .int (-3))]
  extra := [("memo", .arr [.obj [("late", .int 2), ("early", .float 0.1)]])]

/-- Both lists are read, and have the same snapshots. -/
theorem jumbled_tidy_canonical :
    Json.Alike jumbled tidy ∧ jumbled.isProper = true ∧ list Node.read jumbled = .good [jumbledNode] ∧
      Serializer.customary.Faithful ∧ Serializer.customary.Unordered ∧
      ∃ others, list Node.read tidy = .good others ∧
        ∀ time, takeSnapshot .customary [jumbledNode] time = takeSnapshot .customary others time ∧
          snapshot [jumbledNode] time = snapshot others time := by
  have hproper : jumbled.isProper = true := by decide
  have halike : Json.Alike jumbled tidy := Json.alike_sortKeys hproper
  have hread : list Node.read jumbled = .good [jumbledNode] := rfl
  have hunordered : Serializer.customary.Unordered := Serializer.unordered_bounded 255 258
  obtain ⟨others, hothers, hsnapshots, hall⟩ := exists_canonical halike hproper hread
  obtain ⟨htaken, -⟩ := hall .customary Serializer.faithful_customary hunordered
  exact ⟨halike, hproper, hread, Serializer.faithful_customary, hunordered, others, hothers,
    fun time => ⟨htaken time, hsnapshots time⟩⟩

end WorkflowLab.Verification
