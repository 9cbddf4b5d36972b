import WorkflowLab.Proofs.Journal.Blocks
import WorkflowLab.Proofs.Run.Reported
import WorkflowLab.Proofs.Verification.Submissions
import WorkflowLab.Proofs.Verification.Verdicts

/-!
# Runs and their verdicts

A run and the verdict on it are made by different parts, which meet in the log and the status that are handed in.

- `passed_baseline_iff`: what passes the checks that every attempt is asked;
- `verify_none`: a verdict without criteria is that of these checks;
- `log_of_success`: the log of a run that succeeds has a success and no error;
- `runPayload_passed_iff`: what is handed in after a run passes exactly when the run succeeded and its graph has an
  output and one more node.
-/

namespace WorkflowLab

open Run Verification

/-! ## The baseline -/

namespace Verification

/-- **What passes the baseline.** -/
theorem passed_baseline_iff (w : Workspace) (score : Int) :
    (Judgement.mk w.baselineValidations w.baselineChecks score).passed = true ↔
      minNodes ≤ w.workflow.length ∧ (∃ node ∈ w.workflow, node.kind = .output) ∧
        (∃ entry ∈ w.log, entry.event = .success) ∧ (∀ entry ∈ w.log, entry.event ≠ .error) ∧ w.status = .complete := by
  have hlog : (∃ entry ∈ w.log, entry.event = .success) → w.log ≠ [] := by
    rintro ⟨entry, hentry, -⟩ hnil
    rw [hnil] at hentry
    cases hentry
  simp only [Judgement.passed, Workspace.baselineValidations, Workspace.baselineChecks, List.all_cons, List.all_nil,
    Bool.and_true, Bool.and_eq_true, decide_eq_true_eq, List.any_eq_true, beq_iff_eq, Bool.not_eq_true',
    List.isEmpty_eq_false_iff, List.any_eq_false]
  constructor
  · rintro ⟨⟨hnodes, hsuccess, houtput⟩, -, herror, hstatus⟩
    exact ⟨hnodes, houtput, hsuccess, herror, hstatus⟩
  · rintro ⟨hnodes, houtput, hsuccess, herror, hstatus⟩
    exact ⟨⟨hnodes, hsuccess, houtput⟩, hlog hsuccess, herror, hstatus⟩

/-- Hints and seconds that have a double leave no fault for the judgement of a workspace by the baseline. -/
theorem judge_none (allowance : Allowance) (w : Workspace) {hints seconds : Int}
    (hhints : hints.natAbs < Binary.tooLarge) (hseconds : seconds.natAbs < Binary.tooLarge) :
    ∃ score, allowance.judge w Criteria.none (.int hints) (.int seconds) =
      .ok ⟨w.baselineValidations, w.baselineChecks, score⟩ := by
  have hchecks : checksFor w Criteria.none = w.baselineChecks := List.append_nil _
  have hfew : w.baselineChecks.length < 2 * wordLimit := by
    show 3 < 2 * wordLimit
    decide
  obtain ⟨score, hscore⟩ := struggleScore_eq_ok (Number.isSome_div?_of_lt hhints allowance.maxHints)
    (Number.isSome_div?_of_lt hseconds allowance.expectedDuration) (failures_lt hfew)
  refine ⟨score, ?_⟩
  rw [Allowance.judge_eq, hchecks, hscore]
  show Except.ok (Judgement.mk (w.baselineValidations ++ []) w.baselineChecks score) = _
  rw [List.append_nil]

/-- **A verdict without criteria has passed** exactly when the workspace passes the baseline. -/
theorem passed_iff_of_verify_none {allowance : Allowance} {s : Serializer} {akuId : String} {w : Workspace}
    {hints seconds : Number} {world : World} {r : VerificationResult}
    (h : (allowance.verify s akuId w hints seconds none world).1 = .ok r) : r.passed = true ↔
      minNodes ≤ w.workflow.length ∧ (∃ node ∈ w.workflow, node.kind = .output) ∧
        (∃ entry ∈ w.log, entry.event = .success) ∧ (∀ entry ∈ w.log, entry.event ≠ .error) ∧ w.status = .complete := by
  obtain ⟨j, hjudge, hr⟩ := Allowance.exists_judge_of_verify h
  obtain ⟨validations, hrules, hvalidations, hchecks, -⟩ := judgeWith_ok hjudge
  obtain rfl : [] = validations := Except.ok.inj hrules
  have hbaseline : j = ⟨w.baselineValidations, w.baselineChecks, j.score⟩ := by
    obtain ⟨_, _, score⟩ := j
    obtain rfl := hvalidations
    obtain rfl := hchecks
    exact congrArg₂ (Judgement.mk · · score) (List.append_nil _) (List.append_nil _)
  rw [hr.passed, hbaseline]
  exact passed_baseline_iff w j.score

/-- **There is a verdict without criteria** exactly when there is a snapshot, if hints and seconds have a double. -/
theorem exists_verify_none_iff (allowance : Allowance) (s : Serializer) (akuId : String) (w : Workspace)
    {hints seconds : Int} (hhints : hints.natAbs < Binary.tooLarge) (hseconds : seconds.natAbs < Binary.tooLarge)
    (world : World) :
    (∃ r, (allowance.verify s akuId w (.int hints) (.int seconds) none world).1 = .ok r) ↔
      ∃ taken, takeSnapshot s w.workflow world.clock.now = .ok taken := by
  obtain ⟨score, hjudge⟩ := judge_none allowance w hhints hseconds
  rw [Allowance.verify_eq, Option.getD_none, hjudge]
  cases takeSnapshot s w.workflow world.clock.now <;> simp

end Verification

/-! ## Runs -/

namespace Run.Runner

variable (provider : Option Provider) (fetcher : Fetcher) (setup : Setup)

/-- No entry about a node that succeeds is an error. -/
theorem ne_error_of_mem_block {graph : Graph} {id : String} {tag : String × Event} (h : tag ∈ graph.block id) :
    tag.2 ≠ .error := by
  cases hnode : graph.node? id with
  | none =>
    rw [Graph.block, hnode] at h
    cases h
  | some node =>
    rw [Graph.block_of_node? hnode, Node.block] at h
    obtain ⟨event, hevent, rfl⟩ := List.mem_map.mp h
    rintro rfl
    simp [Node.opening] at hevent

/-- **The log of a run that succeeds** has a success and no error. -/
theorem log_of_success (graph : Graph) (w : World)
    (h : ((standard provider fetcher setup).run graph w).1.success = true) :
    (∃ entry ∈ ((standard provider fetcher setup).run graph w).1.log, entry.event = .success) ∧
      ∀ entry ∈ ((standard provider fetcher setup).run graph w).1.log, entry.event ≠ .error := by
  have houtcome := (standard provider fetcher setup).run_outcome graph w
  generalize (standard provider fetcher setup).run graph w = ended at houtcome h
  cases houtcome with
  | refused hfault time w' => cases h
  | @walked trigger htrigger start hlog p hwalk =>
    have hrunning : p.fault = none := RunResult.fault_of_success h
    have htags : tags p.state.log = p.path.flatMap graph.block :=
      (show Journaled graph p from hwalk ▸ journaled_explore graph hlog _).tags_of_running hrunning
    show (∃ entry ∈ p.state.log, entry.event = .success) ∧ ∀ entry ∈ p.state.log, entry.event ≠ .error
    constructor
    · obtain ⟨node, hnode⟩ := Option.isSome_iff_exists.mp (isSome_node?_of_locateTrigger htrigger)
      have hmem : (node.id, Event.success) ∈ tags p.state.log := by
        rw [htags, List.mem_flatMap]
        refine ⟨trigger.id, hwalk ▸ mem_path_walk htrigger start, ?_⟩
        rw [Graph.block_of_node? hnode]
        simp [Node.block]
      obtain ⟨entry, hentry, htag⟩ := List.mem_map.mp hmem
      exact ⟨entry, hentry, congrArg Prod.snd htag⟩
    · intro entry hentry
      have hmem : (entry.nodeId, entry.event) ∈ tags p.state.log := List.mem_map_of_mem hentry
      rw [htags] at hmem
      obtain ⟨id, -, hblock⟩ := List.mem_flatMap.mp hmem
      exact ne_error_of_mem_block hblock

/-- The log of the workspace after a run has the events of the run. -/
theorem exists_event_afterRun_iff (learnerId : String) (graph : Graph) (run : RunResult) (event : Event) :
    (∃ entry ∈ (Workspace.afterRun learnerId graph run).log, entry.event = event) ↔
      ∃ entry ∈ run.log, entry.event = event := by
  show (∃ entry ∈ run.log.map Entry.bare, entry.event = event) ↔ _
  constructor
  · rintro ⟨_, hread, hevent⟩
    obtain ⟨entry, hentry, rfl⟩ := List.mem_map.mp hread
    exact ⟨entry, hentry, hevent⟩
  · rintro ⟨entry, hentry, hevent⟩
    exact ⟨entry.bare, List.mem_map_of_mem hentry, hevent⟩

/-- A workspace after a run passes the baseline exactly when the run succeeded and its graph has an output and one more
node. -/
theorem passes_baseline_afterRun_iff (learnerId : String) {graph : Graph} {run : RunResult}
    (hsuccess : run.success = true →
      (∃ entry ∈ run.log, entry.event = .success) ∧ ∀ entry ∈ run.log, entry.event ≠ .error) :
    (minNodes ≤ graph.nodes.length ∧ (∃ node ∈ graph.nodes, node.kind = .output) ∧
        (∃ entry ∈ (Workspace.afterRun learnerId graph run).log, entry.event = .success) ∧
        (∀ entry ∈ (Workspace.afterRun learnerId graph run).log, entry.event ≠ .error) ∧
        Status.ofRun run = .complete) ↔
      run.success = true ∧ minNodes ≤ graph.nodes.length ∧ ∃ node ∈ graph.nodes, node.kind = .output := by
  have hcomplete : Status.ofRun run = .complete ↔ run.success = true := by
    cases hrun : run.success <;> simp [Status.ofRun, hrun]
  constructor
  · rintro ⟨hmin, houtput, -, -, hstatus⟩
    exact ⟨hcomplete.mp hstatus, hmin, houtput⟩
  · rintro ⟨hsucceeded, hmin, houtput⟩
    obtain ⟨hreached, hnone⟩ := hsuccess hsucceeded
    refine ⟨hmin, houtput, (exists_event_afterRun_iff _ _ _ _).mpr hreached, ?_, hcomplete.mpr hsucceeded⟩
    intro entry hentry herror
    obtain ⟨other, hother, hevent⟩ := (exists_event_afterRun_iff learnerId graph run .error).mp ⟨entry, hentry, herror⟩
    exact hnone other hother hevent

/-- **What is handed in after a run passes exactly when the run succeeded** and its graph has an output and one more
node. The log is handed in if the serializer takes its data; what is handed in is read back, and a verdict on it, by any
allowance, says so. For hints and seconds that have a double there is a verdict exactly when the serializer takes the
nodes and their integers are short. -/
theorem runPayload_passed_iff {s : Serializer} (hs : s.Faithful) {payload : Json} {graph : Graph}
    (hgraph : Graph.ofPayload payload = .ok graph) (w : World) {run : RunResult}
    (hrun : ((standard provider fetcher setup).runPayload payload w).1 = run) :
    ((∃ documents, run.log.mapM (Entry.send s) = .ok documents) ↔
      ∀ entry ∈ run.log, entry.data.isNull = false → s.Takes entry.data) ∧
    ∀ documents, run.log.mapM (Entry.send s) = .ok documents → ∀ learnerId : String, ∃ state,
      Workspace.read (submission (.str learnerId) (Graph.nodesOf payload) documents (.ofRun run)) =
        .good (pure state) ∧
      ∀ (allowance : Allowance) (akuId : String) (later : World),
        (∀ hints seconds result, (allowance.verify s akuId state hints seconds none later).1 = .ok result →
          (result.passed = true ↔
            run.success = true ∧ minNodes ≤ graph.nodes.length ∧ ∃ node ∈ graph.nodes, node.kind = .output)) ∧
        ∀ hints seconds : Int, hints.natAbs < Binary.tooLarge → seconds.natAbs < Binary.tooLarge →
          ((∃ result, (allowance.verify s akuId state (.int hints) (.int seconds) none later).1 = .ok result) ↔
            (∀ node ∈ graph.nodes, s.TakesRecord node.listing) ∧ IsShort graph.nodes) := by
  have hof : (standard provider fetcher setup).runPayload payload w =
      (standard provider fetcher setup).run graph w := by
    rw [runPayload, hgraph]
  have hsuccess := log_of_success provider fetcher setup graph w
  rw [← hof, hrun] at hsuccess
  refine ⟨Entry.exists_mapM_send_iff, fun documents hdocuments learnerId => ?_⟩
  obtain rfl := Entry.eq_map_wire_of_mapM_send hs hdocuments
  refine ⟨_, Workspace.read_submission hgraph learnerId run, fun allowance akuId later => ⟨?_, ?_⟩⟩
  · intro hints seconds result hresult
    exact (passed_iff_of_verify_none hresult).trans (passes_baseline_afterRun_iff learnerId hsuccess)
  · intro hints seconds hhints hseconds
    exact (exists_verify_none_iff allowance s akuId _ hhints hseconds later).trans (exists_takeSnapshot_iff hs)

/-- A greeting whose output has a note. -/
def addressed (note : Json) : Json := .arr [
  .obj [("id", .str "t"), ("type", .str "trigger"), ("service", .str "manual"), ("connections", .arr [.str "o"])],
  .obj [("id", .str "o"), ("type", .str "output"), ("config", .obj [("note", note)])]]

/-- The trigger of a greeting. -/
def addresser : Node where
  id := "t"
  kind := .trigger
  service := "manual"
  config := []
  successors := ["o"]
  position := none
  extra := []

/-- The output of a greeting, with its note. -/
def addressee (note : Json) : Node where
  id := "o"
  kind := .output
  service := ""
  config := [("note", note)]
  successors := []
  position := none
  extra := []

/-- The graph of a greeting with a note. -/
def addressedGraph (note : Json) : Graph := ⟨[addresser, addressee note]⟩

/-- A greeting is a graph, whatever the note. -/
theorem ofPayload_addressed (note : Json) : Graph.ofPayload (addressed note) = .ok (addressedGraph note) := rfl

/-- A greeting succeeds, and its note is not in the log. -/
theorem run_addressed (note : Json) (w : World) :
    ((standard none offline .standard).runPayload (addressed note) w).1.success = true ∧
      ∀ entry ∈ ((standard none offline .standard).runPayload (addressed note) w).1.log,
        entry.data.depth ≤ 255 := by
  rcases (standard none offline .standard).runPayload_outcome (addressed note) w with
    ⟨fault, _, _, hfault, _⟩ | ⟨graph, hgraph, hrun⟩
  · cases hfault
  · cases hgraph
    generalize (standard none offline .standard).runPayload (addressed note) w = ended at hrun
    cases hrun with
    | refused hfault => cases hfault
    | @walked trigger htrigger start hlog p hwalk =>
      cases htrigger
      rw [Tour.explore_singleton _ _ _ [("o", _)] rfl, Tour.explore_singleton _ _ _ [] rfl, Tour.explore_nil] at hwalk
      obtain ⟨first, second, hadded, hfirst, hsecond⟩ : ∃ first second : Entry,
          p.state.log = start.log ++ [first] ++ [second] ∧ first.data.depth = 2 ∧ second.data.depth = 2 := by
        rw [hwalk]
        exact ⟨_, _, rfl, rfl, rfl⟩
      refine ⟨by rw [hwalk]; rfl, ?_⟩
      show ∀ entry ∈ p.state.log, _
      rw [hadded, hlog]
      intro entry hentry
      simp only [List.nil_append, List.cons_append, List.mem_cons, List.not_mem_nil, or_false] at hentry
      rcases hentry with rfl | rfl <;> omega

/-- Its log is handed in. -/
theorem exists_mapM_send_addressed (note : Json) (w : World) : ∃ documents,
    ((standard none offline .standard).runPayload (addressed note) w).1.log.mapM (Entry.send .customary) =
      .ok documents :=
  Entry.exists_mapM_send_iff.mpr fun entry hentry _ =>
    Serializer.takes_bounded_iff.mpr ((run_addressed note w).2 entry hentry)

/-- Zero has a double. -/
theorem none_lt : (0 : Int).natAbs < Binary.tooLarge := Binary.tooLarge_pos

/-- The nodes of a greeting with a small note have documents. -/
theorem takesRecord_addressed :
    ∀ node ∈ (addressedGraph .null).nodes, Serializer.customary.TakesRecord node.listing := by
  simp only [addressedGraph, List.forall_mem_cons]
  exact ⟨Serializer.takesRecord_bounded_iff.mpr (by decide), Serializer.takesRecord_bounded_iff.mpr (by decide),
    List.forall_mem_nil _⟩

/-- A greeting with a small note is handed in and passes. -/
theorem addressed_passed : Serializer.customary.Faithful ∧ ∃ documents state result,
    ((standard none offline .standard).runPayload (addressed .null) dawn).1.log.mapM (Entry.send .customary) =
      .ok documents ∧
    Workspace.read (submission (.str "ada") (Graph.nodesOf (addressed .null)) documents
      (.ofRun ((standard none offline .standard).runPayload (addressed .null) dawn).1)) = .good (pure state) ∧
    (Allowance.standard.verify .customary "first" state (.int 0) (.int 0) none dawn).1 = .ok result ∧
      result.passed = true := by
  obtain ⟨hsuccess, -⟩ := run_addressed .null dawn
  obtain ⟨documents, hdocuments⟩ := exists_mapM_send_addressed .null dawn
  obtain ⟨-, hhanded⟩ := runPayload_passed_iff none offline .standard Serializer.faithful_customary
    (ofPayload_addressed .null) dawn rfl
  obtain ⟨state, hread, hverdict⟩ := hhanded documents hdocuments "ada"
  obtain ⟨hpassed, hexists⟩ := hverdict .standard "first" dawn
  obtain ⟨result, hresult⟩ := (hexists 0 0 none_lt none_lt).mpr ⟨takesRecord_addressed, by decide⟩
  exact ⟨Serializer.faithful_customary, documents, state, result, hdocuments, hread, hresult,
    (hpassed _ _ result hresult).mpr ⟨hsuccess, by decide, _, .tail _ (.head _), rfl⟩⟩

/-- A list in a list, and so on. -/
def nested : Nat → Json
  | 0 => .null
  | n + 1 => .arr [nested n]

theorem depth_nested (n : Nat) : (nested n).depth = n + 1 := by
  induction n with
  | zero => rfl
  | succ n ih => rw [nested, Json.depth, Json.depthItems, Json.depthItems, ih, Nat.max_zero]

/-- The document of a node with a note that is too deep is too deep. -/
theorem takeSnapshot_nested (time : Time.Timestamp) :
    takeSnapshot .customary (addressedGraph (nested 300)).nodes time = .error (.refused Serializer.depthMessage) := by
  have hfirst : Serializer.customary.record addresser.listing = .ok addresser.listing.finite :=
    (Serializer.record_bounded _).trans (if_pos (by decide))
  have hlisting : (addressee (nested 300)).listing = .obj [("id", .str "o"), ("kind", .str "output"),
      ("service", .str ""), ("config", .obj [("note", nested 300)]), ("successors", .arr []), ("position", .null)] := rfl
  have hdeep : ¬(addressee (nested 300)).listing.depth ≤ 258 := by
    have hnote := depth_nested 300
    have hconfig : (nested 300).depth < (Json.obj [("note", nested 300)]).depth :=
      Json.depth_lt_of_mem_fields (List.mem_singleton_self ("note", nested 300))
    have hmember : (Json.obj [("note", nested 300)]).depth < (addressee (nested 300)).listing.depth := by
      rw [hlisting]
      exact Json.depth_lt_of_mem_fields (m := ("config", .obj [("note", nested 300)])) (by simp)
    omega
  have hsecond : Serializer.customary.record (addressee (nested 300)).listing = .error Serializer.depthMessage :=
    (Serializer.record_bounded _).trans (if_neg hdeep)
  rw [takeSnapshot_eq Serializer.faithful_customary]
  simp only [addressedGraph, List.mapM_cons, hfirst, hsecond]
  rfl

/-- A natural number is short when it has a text. -/
theorem isShort_nat_iff {n : Nat} : (Json.nat n).isShort = true ↔ n < 10 ^ Number.maxIntegerDigits := by
  have hlength : (Json.nat n).isShort = true ↔ (Number.natDigits n).length ≤ Number.maxIntegerDigits :=
    decide_eq_true_iff
  exact hlength.trans (Nat.length_toDigits_le_iff (by decide) (by decide))

/-- A note that is no short number is in no snapshot. -/
theorem takeSnapshot_huge {n : Nat} (h : 10 ^ Number.maxIntegerDigits ≤ n) (time : Time.Timestamp) :
    takeSnapshot .customary (addressedGraph (.nat n)).nodes time = .error .hugeInteger := by
  have hfirst : Serializer.customary.record addresser.listing = .ok addresser.listing.finite :=
    (Serializer.record_bounded _).trans (if_pos (by decide))
  have hdepth : (addressee (.nat n)).listing.depth = 3 := rfl
  have hsecond : Serializer.customary.record (addressee (.nat n)).listing = .ok (addressee (.nat n)).listing.finite :=
    (Serializer.record_bounded _).trans (if_pos (by omega))
  have hlong : ¬IsShort (addressedGraph (.nat n)).nodes := by
    intro hshort
    have hconfig := Json.isShort_obj.mp (hshort _ (.tail _ (.head _))) _ (.tail _ (.tail _ (.tail _ (.head _))))
    exact absurd (isShort_nat_iff.mp (Json.isShort_obj.mp hconfig _ (.head _))) (Nat.not_lt.mpr h)
  rw [takeSnapshot_eq Serializer.faithful_customary]
  simp only [addressedGraph, List.mapM_cons, hfirst, hsecond]
  exact if_neg hlong

/-- What stands in the way of a verdict on a greeting stands in the way of a snapshot of its graph. -/
theorem verify_addressed (note : Json) {fault : SnapshotFault}
    (h : takeSnapshot .customary (addressedGraph note).nodes dawn.clock.now = .error fault) :
    ∃ documents state,
      ((standard none offline .standard).runPayload (addressed note) dawn).1.log.mapM (Entry.send .customary) =
        .ok documents ∧
      Workspace.read (submission (.str "ada") (Graph.nodesOf (addressed note)) documents
        (.ofRun ((standard none offline .standard).runPayload (addressed note) dawn).1)) = .good (pure state) ∧
      (Allowance.standard.verify .customary "first" state (.int 0) (.int 0) none dawn).1 = .error (.snapshot fault) := by
  obtain ⟨documents, hdocuments⟩ := exists_mapM_send_addressed note dawn
  obtain rfl := Entry.eq_map_wire_of_mapM_send Serializer.faithful_customary hdocuments
  refine ⟨_, _, hdocuments, Workspace.read_submission (ofPayload_addressed _) "ada" _, ?_⟩
  obtain ⟨score, hjudge⟩ := judge_none .standard (.afterRun "ada" (addressedGraph note)
    ((standard none offline .standard).runPayload (addressed note) dawn).1) none_lt none_lt
  have htaken : takeSnapshot .customary (Workspace.afterRun "ada" (addressedGraph note)
      ((standard none offline .standard).runPayload (addressed note) dawn).1).workflow dawn.clock.now = .error fault := h
  rw [Allowance.verify_eq, Option.getD_none, hjudge]
  dsimp only
  rw [htaken]

/-- A greeting with a note that is too deep, or an integer that is too long, succeeds and is handed in, but there is no
verdict on it. -/
theorem addressed_unverified :
    (((standard none offline .standard).runPayload (addressed (nested 300)) dawn).1.success = true ∧
      minNodes ≤ (addressedGraph (nested 300)).nodes.length ∧
      (∃ node ∈ (addressedGraph (nested 300)).nodes, node.kind = .output) ∧
      ∃ documents state,
        ((standard none offline .standard).runPayload (addressed (nested 300)) dawn).1.log.mapM
          (Entry.send .customary) = .ok documents ∧
        Workspace.read (submission (.str "ada") (Graph.nodesOf (addressed (nested 300))) documents
          (.ofRun ((standard none offline .standard).runPayload (addressed (nested 300)) dawn).1)) =
            .good (pure state) ∧
        (Allowance.standard.verify .customary "first" state (.int 0) (.int 0) none dawn).1 =
          .error (.snapshot (.refused "Maximum serialization depth exceeded"))) ∧
    (((standard none offline .standard).runPayload (addressed (.nat (10 ^ Number.maxIntegerDigits))) dawn).1.success =
        true ∧
      ∃ documents state,
        ((standard none offline .standard).runPayload (addressed (.nat (10 ^ Number.maxIntegerDigits))) dawn).1.log.mapM
          (Entry.send .customary) = .ok documents ∧
        Workspace.read (submission (.str "ada") (Graph.nodesOf (addressed (.nat (10 ^ Number.maxIntegerDigits))))
          documents (.ofRun ((standard none offline .standard).runPayload
            (addressed (.nat (10 ^ Number.maxIntegerDigits))) dawn).1)) = .good (pure state) ∧
        (Allowance.standard.verify .customary "first" state (.int 0) (.int 0) none dawn).1 =
          .error (.snapshot .hugeInteger)) := by
  constructor
  · exact ⟨(run_addressed (nested 300) dawn).1, (by decide : 2 ≤ 2), ⟨_, .tail _ (.head _), rfl⟩,
      verify_addressed _ (takeSnapshot_nested _)⟩
  · exact ⟨(run_addressed _ dawn).1, verify_addressed _ (takeSnapshot_huge (Nat.le_refl _) _)⟩

end Run.Runner

end WorkflowLab
