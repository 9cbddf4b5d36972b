import WorkflowLab.Proofs.Json.Received
import WorkflowLab.Proofs.Node.Alike
import WorkflowLab.Proofs.Run.Reported
import WorkflowLab.Proofs.Verification.Verdicts
import WorkflowLab.Verification.Attempt

/-!
# Which attempts are answered

What a client sends is refused if it is no attempt. An attempt should have a result that clients can be given, with a
score in its range. If the serializer refuses nothing, three things stand in the way.

- `Answered`, `Attempt.Answerable`: the outcomes that clients are promised, and the attempts that come to them;
- `exists_checkRules_iff`: rules are decided together exactly when each one is;
- `exists_standard_score`: the score of hints that have a double;
- `exists_standard_verify`: what a verification comes to;
- `Attempt.isShort_of_parse`: the integers of an attempt that comes as a text are short;
- `verifyAttempt_answered_iff`: an attempt is answered exactly if it is answerable.
-/

namespace WorkflowLab.Verification

open Intake Run Time

/-! ## Rules -/

/-- Rules are decided together exactly when each one is. -/
theorem exists_checkRules_iff {output : Json} {rules : List OutputRule} :
    (∃ validations, checkRules output rules = .ok validations) ↔ ∀ rule ∈ rules, ∃ v, rule.check output = .ok v := by
  induction rules with
  | nil => exact iff_of_true ⟨[], rfl⟩ (List.forall_mem_nil _)
  | cons rule rest ih =>
    rw [List.forall_mem_cons, ← ih]
    cases hfirst : rule.check output with
    | error f => simp [checkRules, hfirst]
    | ok v => cases hrest : checkRules output rest <;> simp [checkRules, hfirst, hrest, Except.map]

/-- A rule is decided exactly when its path can be followed. -/
theorem OutputRule.exists_check_iff {rule : OutputRule} {output : Json} :
    (∃ v, rule.check output = .ok v) ↔ ∃ part, lookup output rule.field = .ok part := by
  unfold check
  cases lookup output rule.field <;> simp [Except.map]

/-! ## Scores -/

/-- The seconds between two times are few for a double. -/
theorem secondsBetween_lt (first last : Timestamp) : (secondsBetween first last).natAbs < Binary.tooLarge * 2 := by
  unfold secondsBetween
  cases h : Binary.floor? (Timestamp.seconds (last.universal - first.universal) + 0.5) with
  | none => exact Nat.mul_pos Binary.tooLarge_pos (by decide)
  | some n => exact Binary.floor?_lt_tooLarge h

/-- Hints and seconds whose shares of the standard allowance have a double make a score. -/
theorem exists_standard_score (w : Workspace) {criteria : Criteria} (hfew : criteria.requirements.length < wordLimit)
    {hints seconds : Int} (hhints : hints.natAbs < Binary.tooLarge * 3)
    (hseconds : seconds.natAbs < Binary.tooLarge * 120) :
    ∃ score, struggleScore doubles (.int hints) (.int seconds) (.int (failures (checksFor w criteria)))
      Allowance.standard.maxHints Allowance.standard.expectedDuration = .ok score := by
  have hchecks : (checksFor w criteria).length < 2 * wordLimit := by
    have hlength : (checksFor w criteria).length = 3 + criteria.requirements.length := by
      simp [checksFor, Workspace.baselineChecks]
      omega
    unfold wordLimit at hfew ⊢
    omega
  have hhelp : ((Number.int hints).div? (.int 3)).isSome = true :=
    Number.isSome_div?_natCast (b := 3) (by decide) hhints
  have htime : ((Number.int seconds).div? (.int 120)).isSome = true :=
    Number.isSome_div?_natCast (b := 120) (by decide) hseconds
  exact struggleScore_eq_ok (.inr hhelp) (.inr htime) (failures_lt hchecks)

section

variable {s : Serializer} (hs : s.Faithful) (htotal : s.Total)
include hs htotal

/-- If nothing is refused, only an integer that is too long stands in the way of a snapshot. -/
theorem takeSnapshot_of_total (workflow : List Node) (time : Timestamp) : takeSnapshot s workflow time =
    if IsShort workflow then .ok (snapshot workflow time) else .error .hugeInteger := by
  obtain ⟨documents, hdocuments⟩ : ∃ documents, workflow.mapM (fun n => s.record n.listing) = .ok documents :=
    exists_mapM_eq_ok_iff.mpr fun n _ => htotal.record n.listing
  rw [takeSnapshot_eq hs, hdocuments]

/-- If nothing is refused, every result is given to clients. -/
theorem VerificationResult.send_of_total (r : VerificationResult) : r.send s = .ok r.wire := by
  obtain ⟨document, hdocument⟩ := htotal.record r.listing
  rw [send, hdocument, hs.record hdocument, wire]

/-- **A verification by the standard allowance**: its result, or what stands in the way. -/
theorem exists_standard_verify (akuId : String) (w : Workspace) {criteria : Option Criteria}
    (hfew : (criteria.getD Criteria.none).requirements.length < wordLimit) (hints : Int) {seconds : Int}
    (hseconds : seconds.natAbs < Binary.tooLarge * 120) (world : World) :
    ∃ score, 0 ≤ score ∧ score ≤ 100 ∧
      (Allowance.standard.verify s akuId w (.int hints) (.int seconds) criteria world).1 =
        match checkRules w.finalOutput (criteria.getD Criteria.none).rules with
        | .error f => .error (.path f)
        | .ok validations =>
          if hints.natAbs < Binary.tooLarge * 3 then
            if IsShort w.workflow then
              .ok ((Judgement.mk (w.baselineValidations ++ validations) (checksFor w (criteria.getD Criteria.none))
                score).resultAt akuId w hints seconds world.clock.now (snapshot w.workflow world.clock.now))
            else .error (.snapshot .hugeInteger)
          else .error (.score .overflow) := by
  rw [Allowance.verify_eq, Allowance.judge_eq, takeSnapshot_of_total hs htotal]
  by_cases hhints : hints.natAbs < Binary.tooLarge * 3
  · obtain ⟨score, hscore⟩ := exists_standard_score w hfew hhints hseconds
    obtain ⟨hlow, hhigh⟩ := struggleScore_range hscore
    refine ⟨score, hlow, hhigh, ?_⟩
    rw [hscore]
    cases checkRules w.finalOutput (criteria.getD Criteria.none).rules with
    | error f => rfl
    | ok validations =>
      dsimp only
      rw [if_pos hhints]
      by_cases hintegers : IsShort w.workflow
      · rw [if_pos hintegers, if_pos hintegers]
      · rw [if_neg hintegers, if_neg hintegers]
  · refine ⟨0, by decide, by decide, ?_⟩
    rw [struggleScore_eq_overflow rfl (Allowance.standard_div?_eq_none (Nat.not_lt.mp hhints))]
    cases checkRules w.finalOutput (criteria.getD Criteria.none).rules with
    | error f => rfl
    | ok validations => exact (if_neg hhints).symm

end

/-! ## Attempts -/

/-- What clients are promised for a payload: a refusal for what is wrong with it, or a result that they are given, with a
score in its range. -/
def Answered (s : Serializer) (payload : Json) : Except AttemptFault VerificationResult → Prop
  | .error (.verification _) => False
  | .error f => Attempt.ofPayload payload = .error f
  | .ok r => r.send s = .ok r.wire ∧ 0 ≤ r.struggleScore ∧ r.struggleScore ≤ 100

namespace Attempt

/-- The criteria of an attempt. -/
def asked (a : Attempt) : Criteria := a.criteria.getD Criteria.none

/-- Nothing stands in the way of an answer: the path of every rule can be followed, the share of the hints has a double,
and the integers of the workflow can be written. -/
structure Answerable (a : Attempt) : Prop where
  paths : ∀ rule ∈ a.asked.rules, ∃ part, lookup a.workspace.finalOutput rule.field = .ok part
  hints : a.hintsUsed.natAbs < Binary.tooLarge * 3
  integers : IsShort a.workspace.workflow

/-- The rules of an attempt are decided exactly when their paths can be followed. -/
theorem paths_iff (a : Attempt) :
    (∀ rule ∈ a.asked.rules, ∃ part, lookup a.workspace.finalOutput rule.field = .ok part) ↔
      ∃ validations, checkRules a.workspace.finalOutput a.asked.rules = .ok validations := by
  rw [exists_checkRules_iff]
  exact forall₂_congr fun rule _ => OutputRule.exists_check_iff.symm

/-- The verification of an attempt is answered exactly if the attempt is answerable. -/
theorem answered_iff {s : Serializer} (hs : s.Faithful) (htotal : s.Total) (a : Attempt)
    (hfew : a.asked.requirements.length < wordLimit) (payload : Json) (world : World) :
    Answered s payload ((Allowance.standard.verify s a.akuId a.workspace (.int a.hintsUsed)
      (.int (secondsBetween a.startTime a.endTime)) a.criteria world).1.mapError .verification) ↔ a.Answerable := by
  have hseconds : (secondsBetween a.startTime a.endTime).natAbs < Binary.tooLarge * 120 :=
    Nat.lt_of_lt_of_le (secondsBetween_lt a.startTime a.endTime) (Nat.mul_le_mul_left _ (by decide))
  obtain ⟨score, hlow, hhigh, hverify⟩ :=
    exists_standard_verify hs htotal a.akuId a.workspace hfew a.hintsUsed hseconds world
  rw [hverify]
  have hpaths := a.paths_iff
  rw [asked] at hpaths
  cases hrules : checkRules a.workspace.finalOutput (a.criteria.getD Criteria.none).rules with
  | error f =>
    refine iff_of_false id fun h => ?_
    obtain ⟨validations, hvalidations⟩ := hpaths.mp h.paths
    rw [hrules] at hvalidations
    cases hvalidations
  | ok validations =>
    dsimp only
    by_cases hhints : a.hintsUsed.natAbs < Binary.tooLarge * 3
    · rw [if_pos hhints]
      by_cases hintegers : IsShort a.workspace.workflow
      · rw [if_pos hintegers]
        exact iff_of_true ⟨VerificationResult.send_of_total hs htotal _, hlow, hhigh⟩
          ⟨hpaths.mpr ⟨validations, hrules⟩, hhints, hintegers⟩
      · rw [if_neg hintegers]
        exact iff_of_false id fun h => hintegers h.integers
    · rw [if_neg hhints]
      exact iff_of_false id fun h => hhints h.hints

end Attempt

/-- What comes of an attempt that was read. -/
theorem verifyAttempt_of_read (allowance : Allowance) (s : Serializer) {payload : Json} {reading : Clocked Attempt}
    (hread : Attempt.ofPayload payload = .ok reading) (w : World) {a : Attempt} (ha : (reading w.clock).1 = a) :
    (verifyAttempt allowance s payload w).1 =
      ((allowance.verify s a.akuId a.workspace (.int a.hintsUsed) (.int (secondsBetween a.startTime a.endTime)) a.criteria
        { w with clock := (reading w.clock).2 }).1).mapError .verification := by
  subst ha
  unfold verifyAttempt Attempt.verify
  rw [hread]
  have hclock : Lab.clocked reading w = ((reading w.clock).1, { w with clock := (reading w.clock).2 }) := rfl
  simp only [bind, StateT.bind, hclock]
  generalize allowance.verify s (reading w.clock).1.akuId (reading w.clock).1.workspace
    (.int (reading w.clock).1.hintsUsed)
    (.int (secondsBetween (reading w.clock).1.startTime (reading w.clock).1.endTime)) (reading w.clock).1.criteria
    { w with clock := (reading w.clock).2 } = ended
  obtain ⟨result, state⟩ := ended
  cases result <;> rfl

/-- A path that cannot be followed leaves no result. -/
theorem verifyAttempt_of_path (allowance : Allowance) (s : Serializer) {payload : Json} {reading : Clocked Attempt}
    (hread : Attempt.ofPayload payload = .ok reading) (w : World) {f : PathFault}
    (hpath : checkRules (reading w.clock).1.workspace.finalOutput (reading w.clock).1.asked.rules = .error f) :
    (verifyAttempt allowance s payload w).1 = .error (.verification (.path f)) := by
  unfold Attempt.asked at hpath
  rw [verifyAttempt_of_read allowance s hread w rfl, Allowance.verify_eq, Allowance.judge_eq, hpath]
  rfl

/-- A payload that cannot be read is refused for it. -/
theorem verifyAttempt_of_unread (allowance : Allowance) (s : Serializer) {payload : Json} {f : AttemptFault}
    (hread : Attempt.ofPayload payload = .error f) (w : World) :
    (verifyAttempt allowance s payload w).1 = .error f ∧ Answered s payload (.error f) := by
  constructor
  · unfold verifyAttempt
    rw [hread]
    rfl
  · cases f with
    | notObject | invalid => exact hread
    | verification f =>
      unfold Attempt.ofPayload at hread
      split at hread
      · split at hread <;> cases hread
      · cases hread

/-! ## Texts -/

/-- The nodes of a workspace that was read pass what its document passes. -/
theorem Workspace.passes_of_read {p : Json → Bool} (hp : Json.IsKeyTest p) (hnull : p .null = true) {payload : Json}
    (h : payload.every p = true) {reading : Clocked Workspace} (hread : read payload = .good reading) (clock : Clock) :
    ∀ n ∈ (reading clock).1.workflow, n.Passes p := by
  cases payload with
  | obj fields =>
    obtain ⟨_, extra, htostatus, -, rfl⟩ := Checked.exists_of_seq hread
    obtain ⟨_, status, htolog, -, rfl⟩ := Checked.exists_of_seq htostatus
    obtain ⟨_, log, htoworkflow, -, rfl⟩ := Checked.exists_of_seq htolog
    obtain ⟨_, workflow, htosession, hworkflow, rfl⟩ := Checked.exists_of_seq htoworkflow
    obtain ⟨_, session, htolearner, -, rfl⟩ := Checked.exists_of_seq htosession
    obtain ⟨learnerId, -, rfl⟩ := Checked.exists_of_map htolearner
    show ∀ n ∈ workflow, n.Passes p
    rcases Member.exists_of_optional h hworkflow with rfl | ⟨v, hv, hnodes⟩
    · exact List.forall_mem_nil _
    · exact Node.passes_of_list_read hp hnull hv hnodes
  | null | bool | num | str | arr => cases hread

namespace Attempt

/-- So do the nodes of the workspace of an attempt. -/
theorem passes_of_ofPayload {p : Json → Bool} (hp : Json.IsKeyTest p) (hnull : p .null = true) {payload : Json}
    (h : payload.every p = true) {reading : Clocked Attempt} (hread : ofPayload payload = .ok reading) (clock : Clock) :
    ∀ n ∈ (reading clock).1.workspace.workflow, n.Passes p := by
  cases payload with
  | obj fields =>
    have hgood : read (.obj fields) = .good reading := by
      unfold ofPayload at hread
      split at hread
      · split at hread
        · next hgood => rw [hgood, Except.ok.inj hread]
        · cases hread
      · cases hread
    obtain ⟨_, extra, htocriteria, -, rfl⟩ := Checked.exists_of_seq hgood
    obtain ⟨_, criteria, htostop, -, rfl⟩ := Checked.exists_of_seq htocriteria
    obtain ⟨_, stop, htostart, -, rfl⟩ := Checked.exists_of_seq htostop
    obtain ⟨_, start, htohints, -, rfl⟩ := Checked.exists_of_seq htostart
    obtain ⟨_, hints, htoworkspace, -, rfl⟩ := Checked.exists_of_seq htohints
    obtain ⟨_, workspace, htoaku, hworkspace, rfl⟩ := Checked.exists_of_seq htoworkspace
    obtain ⟨akuId, -, rfl⟩ := Checked.exists_of_map htoaku
    obtain ⟨v, hv, hstate⟩ := Member.exists_of_required h hworkspace
    exact Workspace.passes_of_read hp hnull hv hstate clock
  | null | bool | num | str | arr => cases hread

/-- **The integers of an attempt that comes as a text can be written**, so that they never stand in the way of an
answer. -/
theorem isShort_of_parse {text : List Char} {payload : Json} (hparse : Json.parse text = .ok payload)
    {reading : Clocked Attempt} (hread : ofPayload payload = .ok reading) (clock : Clock) :
    IsShort (reading clock).1.workspace.workflow := by
  have hreceived := Json.every_of_parse hparse
  intro n hn
  have hpasses : n.Passes Json.isReceived :=
    passes_of_ofPayload Json.isKeyTest_isReceived rfl hreceived hread clock n hn
  have hproper : n.IsProper :=
    passes_of_ofPayload Json.isKeyTest_hasDistinctKeys rfl (Json.every_isReceived_iff.mp hreceived).1 hread clock n hn
  exact (Json.every_isReceived_iff.mp (Node.Passes.listing Json.isKeyTest_isReceived (fun _ => rfl) hproper hpasses)).2

end Attempt

/-! ## Answers -/

/-- **Which attempts are answered**, by a serializer that refuses nothing: those that cannot be read are refused, and the
others have a result exactly if they are answerable. For attempts that come as a text this is a matter of paths and hints
alone. -/
theorem verifyAttempt_answered_iff {s : Serializer} (hs : s.Faithful) (htotal : s.Total) (payload : Json) (w : World)
    (hfew : ∀ reading, Attempt.ofPayload payload = .ok reading →
      (reading w.clock).1.asked.requirements.length < wordLimit) :
    (Answered s payload (verifyAttempt .standard s payload w).1 ↔
      ∀ reading, Attempt.ofPayload payload = .ok reading → (reading w.clock).1.Answerable) ∧
    ∀ text, Json.parse text = .ok payload → ∀ reading, Attempt.ofPayload payload = .ok reading →
      IsShort (reading w.clock).1.workspace.workflow := by
  refine ⟨?_, fun text hparse reading hread => Attempt.isShort_of_parse hparse hread w.clock⟩
  cases hread : Attempt.ofPayload payload with
  | error f =>
    obtain ⟨hrefused, hanswered⟩ := verifyAttempt_of_unread .standard s hread w
    rw [hrefused]
    exact iff_of_true hanswered nofun
  | ok reading =>
    rw [verifyAttempt_of_read .standard s hread w rfl,
      Attempt.answered_iff hs htotal _ (hfew reading hread) payload]
    constructor
    · rintro h _ ⟨⟩
      exact h
    · intro h
      exact h reading rfl

/-- An attempt at a workflow whose output is a list, with a rule about a part of it. -/
def attemptAt (path : String) : Json := .obj [
  ("akuId", .str "first"),
  ("sandboxState", .obj [
    ("learnerId", .str "ada"),
    ("workflow", .arr [.obj [("id", .str "o"), ("type", .str "output")]]),
    ("executionLog", .arr [.obj [
      ("nodeId", .str "o"), ("event", .str "success"), ("message", .str "Output captured"),
      ("timestamp", .str "2026-03-01T12:00:00+00:00"), ("data", .arr [.int 1])]]),
    ("status", .str "complete")]),
  ("hintsUsed", .int 0),
  ("startTime", .str "2026-03-01T12:00:00Z"),
  ("endTime", .str "2026-03-01T12:00:00Z"),
  ("criteria", .obj [("outputValidation", .arr [.obj [("field", .str path), ("type", .str "exists")]])])]

open Runner in
/-- A rule about an item of the output has an answer. -/
theorem attempt_item_answered :
    (∀ reading, Attempt.ofPayload (attemptAt "0") = .ok reading →
      (reading dawn.clock).1.asked.requirements.length < wordLimit) ∧
      Answered .lenient (attemptAt "0") (verifyAttempt .standard .lenient (attemptAt "0") dawn).1 := by
  obtain ⟨reading, hread, hfew, hanswerable⟩ : ∃ reading, Attempt.ofPayload (attemptAt "0") = .ok reading ∧
      (reading dawn.clock).1.asked.requirements = [] ∧ (reading dawn.clock).1.Answerable := by
    refine ⟨_, rfl, rfl, ?_, Nat.mul_pos Binary.tooLarge_pos (by decide), by decide⟩
    exact List.forall_mem_singleton.mpr ⟨.int 1, rfl⟩
  have hsole : ∀ other, Attempt.ofPayload (attemptAt "0") = .ok other → other = reading := by
    intro other hother
    rw [hread] at hother
    cases hother
    rfl
  have hlength : ∀ other, Attempt.ofPayload (attemptAt "0") = .ok other →
      (other dawn.clock).1.asked.requirements.length < wordLimit := by
    intro other hother
    rw [hsole other hother, hfew]
    decide
  refine ⟨hlength, ?_⟩
  have hanswered :=
    verifyAttempt_answered_iff Serializer.faithful_lenient Serializer.total_lenient (attemptAt "0") dawn hlength
  rw [hanswered.1]
  intro other hother
  rw [hsole other hother]
  exact hanswerable

open Runner in
/-- A rule with a digit that is not decimal is not answered. -/
theorem attempt_superscript_unanswered :
    (verifyAttempt .standard .lenient (attemptAt "²") dawn).1 = .error (.verification (.path (.notDecimal "²"))) ∧
      ¬Answered .lenient (attemptAt "²") (verifyAttempt .standard .lenient (attemptAt "²") dawn).1 := by
  have hfault : (verifyAttempt .standard .lenient (attemptAt "²") dawn).1 =
      .error (.verification (.path (.notDecimal "²"))) := verifyAttempt_of_path .standard .lenient rfl dawn rfl
  rw [hfault]
  exact ⟨rfl, id⟩

end WorkflowLab.Verification
