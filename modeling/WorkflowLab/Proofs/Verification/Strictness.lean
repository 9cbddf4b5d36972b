import WorkflowLab.Proofs.Run.Reported
import WorkflowLab.Proofs.Verification.Order
import WorkflowLab.Proofs.Verification.Verdicts

/-!
# Criteria only make verdicts stricter

Criteria with further rules and requirements add checks at the end of both lists and take none away. A failed rule
keeps an attempt from passing and leaves its score as it is; a failed requirement does both.

- `Appends`: criteria with further rules and requirements;
- `checkRules_append`, `checksFor_append`, `failures_append`: the checks that they add;
- `IsVerdict`: the baseline comes first, and an attempt passes when all checks do;
- `verify_stricter`: two verdicts on one attempt compared.
-/

namespace WorkflowLab.Verification

open Run

/-- Criteria that have the rules and the requirements of others, and further ones after them. None at all count as
criteria that ask for nothing. -/
structure Appends (criteria more : Option Criteria) (rules : List OutputRule) (requirements : List Requirement) :
    Prop where
  rules : (more.getD .none).rules = (criteria.getD .none).rules ++ rules
  requirements : (more.getD .none).requirements = (criteria.getD .none).requirements ++ requirements

/-! ## Checks -/

/-- Rules are decided one after the other. -/
theorem checkRules_append {output : Json} {rules more : List OutputRule} {validations : List OutputValidation}
    (h : checkRules output (rules ++ more) = .ok validations) :
    ∃ first rest, checkRules output rules = .ok first ∧ checkRules output more = .ok rest ∧
      validations = first ++ rest := by
  induction rules generalizing validations with
  | nil => exact ⟨[], validations, rfl, h, rfl⟩
  | cons rule rules ih =>
    rw [List.cons_append, checkRules] at h
    cases hrule : rule.check output with
    | error f =>
      rw [hrule] at h
      cases h
    | ok v =>
      rw [hrule] at h
      cases hrules : checkRules output (rules ++ more) with
      | error f =>
        rw [hrules] at h
        cases h
      | ok others =>
        rw [hrules] at h
        cases h
        obtain ⟨first, rest, hfirst, hrest, rfl⟩ := ih hrules
        refine ⟨v :: first, rest, ?_, hrest, rfl⟩
        rw [checkRules, hrule, hfirst]
        rfl

/-- Further requirements are checked after the others. -/
theorem checksFor_append {criteria more : Criteria} {requirements : List Requirement} (w : Workspace)
    (h : more.requirements = criteria.requirements ++ requirements) :
    checksFor w more = checksFor w criteria ++ requirements.map (·.check w.log) := by
  rw [checksFor, checksFor, h, List.map_append, List.append_assoc]

/-- Failures are counted in either part of the checks. -/
theorem failures_append (checks more : List RequirementCheck) :
    failures (checks ++ more) = failures checks + failures more := List.countP_append

/-- Checks that all passed have no failures, and the other way round. -/
theorem failures_eq_zero_iff {checks : List RequirementCheck} :
    failures checks = 0 ↔ ∀ c ∈ checks, c.passed = true := by
  simp [failures, List.countP_eq_zero]

/-! ## Verdicts -/

/-- A result as a verdict on a workspace: the three checks of the baseline come first in either list, and the attempt
has passed exactly when every listed check has. -/
structure IsVerdict (w : Workspace) (r : VerificationResult) : Prop where
  validations : r.validations.take 3 = w.baselineValidations
  checks : r.checks.take 3 = w.baselineChecks
  passed_iff : r.passed = true ↔ (∀ v ∈ r.validations, v.passed = true) ∧ ∀ c ∈ r.checks, c.passed = true

namespace Allowance

variable {allowance : Allowance} {s : Serializer} {akuId : String} {w : Workspace} {hints seconds : Number}

/-- Every result of a verification is a verdict. -/
theorem isVerdict_of_verify {criteria : Option Criteria} {world : World} {r : VerificationResult}
    (h : (allowance.verify s akuId w hints seconds criteria world).1 = .ok r) : IsVerdict w r := by
  obtain ⟨j, hjudge, hr⟩ := exists_judge_of_verify h
  obtain ⟨validations, -, hvalidations, hchecks, -⟩ := judgeWith_ok hjudge
  constructor
  · rw [hr.validations, hvalidations]
    rfl
  · rw [hr.checks, hchecks]
    rfl
  · rw [hr.passed, hr.validations, hr.checks]
    exact j.passed_iff

/-- **Criteria only make verdicts stricter.** When an attempt is verified by criteria and by more, and both come to a
result, then the lists of the first begin those of the second; who passes the second passes the first; and the second
score is no smaller. It is the same when the further requirements are met, whatever the further rules say. -/
theorem verify_stricter {criteria more : Option Criteria} {rules : List OutputRule} {requirements : List Requirement}
    (hmore : Appends criteria more rules requirements) {world world' : World} {r r' : VerificationResult}
    (h : (allowance.verify s akuId w hints seconds criteria world).1 = .ok r)
    (h' : (allowance.verify s akuId w hints seconds more world').1 = .ok r') :
    (IsVerdict w r ∧ IsVerdict w r') ∧ (r.validations <+: r'.validations ∧ r.checks <+: r'.checks) ∧
      (r'.passed = true → r.passed = true) ∧ r.struggleScore ≤ r'.struggleScore ∧
      ((∀ q ∈ requirements, (q.check w.log).passed = true) → r.struggleScore = r'.struggleScore) := by
  obtain ⟨j, hjudge, hr⟩ := exists_judge_of_verify h
  obtain ⟨j', hjudge', hr'⟩ := exists_judge_of_verify h'
  obtain ⟨first, hfirst, hvalidations, hchecks, hscore⟩ := judgeWith_ok hjudge
  obtain ⟨all, hall, hvalidations', hchecks', hscore'⟩ := judgeWith_ok hjudge'
  rw [hmore.rules] at hall
  obtain ⟨first', rest, hfirst', -, rfl⟩ := checkRules_append hall
  rw [hfirst] at hfirst'
  cases hfirst'
  have happend := checksFor_append w hmore.requirements
  -- both lists of the second verdict begin with those of the first
  have hvalidationsPrefix : r.validations <+: r'.validations := by
    rw [hr.validations, hr'.validations, hvalidations, hvalidations', ← List.append_assoc]
    exact List.prefix_append _ _
  have hchecksPrefix : r.checks <+: r'.checks := by
    rw [hr.checks, hr'.checks, hchecks, hchecks', happend]
    exact List.prefix_append _ _
  have hverdict := isVerdict_of_verify h
  have hverdict' := isVerdict_of_verify h'
  rw [happend, failures_append] at hscore'
  refine ⟨⟨hverdict, hverdict'⟩, ⟨hvalidationsPrefix, hchecksPrefix⟩, ?_, ?_, ?_⟩
  · rw [hverdict.passed_iff, hverdict'.passed_iff]
    rintro ⟨hvalid, hchecked⟩
    exact ⟨fun v hv => hvalid v (hvalidationsPrefix.subset hv), fun c hc => hchecked c (hchecksPrefix.subset hc)⟩
  · rw [hr.score, hr'.score]
    exact struggleScore_mono (Nat.le_add_right ..) hscore hscore'
  · intro hmet
    have hnone : failures (requirements.map (·.check w.log)) = 0 := by
      rw [failures_eq_zero_iff, List.forall_mem_map]
      exact hmet
    rw [hnone, Nat.add_zero, hscore] at hscore'
    rw [hr.score, hr'.score]
    exact Except.ok.inj hscore'

end Allowance

/-- A workspace whose output is an answer. -/
def answering : Workspace where
  learnerId := "ada"
  sessionId := none
  workflow := [
    { id := "t", kind := .trigger, service := "manual", config := [], successors := ["o"], position := none,
      extra := [] },
    { id := "o", kind := .output, service := "", config := [], successors := [], position := none, extra := [] }]
  log := [
    { nodeId := "o", event := .success, message := "Output captured", timestamp := "2026-03-01T12:00:00+00:00",
      data := .obj [("answer", .int 42)], extra := [] }]
  status := .complete
  extra := []

/-- Snapshots of its workflow are taken. -/
theorem exists_takeSnapshot_answering (time : Time.Timestamp) :
    ∃ taken, takeSnapshot .customary answering.workflow time = .ok taken := by
  refine (exists_takeSnapshot_iff Serializer.faithful_customary).mpr ⟨?_, by decide⟩
  simp only [answering, List.forall_mem_cons]
  exact ⟨Serializer.takesRecord_bounded_iff.mpr (by decide), Serializer.takesRecord_bounded_iff.mpr (by decide),
    List.forall_mem_nil _⟩

/-- The output has a part. -/
def asksFor (field : String) : OutputRule := ⟨field, .exists, .null, []⟩

/-- A language model was asked. -/
def asksModel : Requirement := ⟨.apiCalled, "openai", []⟩

open Runner Allowance in
/-- One hint and an answer are enough for criteria that ask for an answer. Criteria that also ask for a question are not
met, nor are those that ask for a language model as well, and only these make the score greater. -/
theorem verify_stricter_answering :
    ∃ r r' r'', (standard.verify .customary "first" answering 1 0 (some ⟨[asksFor "answer"], [], []⟩) dawn).1 = .ok r ∧
      (standard.verify .customary "first" answering 1 0 (some ⟨[asksFor "answer", asksFor "question"], [], []⟩) dawn).1 =
        .ok r' ∧
      (standard.verify .customary "first" answering 1 0
        (some ⟨[asksFor "answer", asksFor "question"], [asksModel], []⟩) dawn).1 = .ok r'' ∧
      (r.passed = true ∧ r'.passed = false ∧ r''.passed = false) ∧
      r.struggleScore = 13 ∧ r.struggleScore = r'.struggleScore ∧ r'.struggleScore ≤ r''.struggleScore ∧
      r''.struggleScore = 23 := by
  have hanswer : (asksFor "answer").check answering.finalOutput = .ok ⟨"answer", true, .int 42, []⟩ := rfl
  have hquestion : (asksFor "question").check answering.finalOutput = .ok ⟨"question", false, .null, []⟩ := rfl
  have hrules : checkRules answering.finalOutput [asksFor "answer"] = .ok [⟨"answer", true, .int 42, []⟩] := by
    rw [checkRules, hanswer]
    rfl
  have hrules' : checkRules answering.finalOutput [asksFor "answer", asksFor "question"] =
      .ok [⟨"answer", true, .int 42, []⟩, ⟨"question", false, .null, []⟩] := by
    rw [checkRules, hanswer, checkRules, hquestion]
    rfl
  have hscore : struggleScore doubles (.int 1) (.int 0) (.int 0) (.int 3) (.int 120) = .ok 13 := by decide +kernel
  have hscore' : struggleScore doubles (.int 1) (.int 0) (.int 1) (.int 3) (.int 120) = .ok 23 := by decide +kernel
  obtain ⟨taken, htaken⟩ := exists_takeSnapshot_answering dawn.clock.now
  have hr := verify_eq_ok standard .customary "first" answering 1 0 (some ⟨_, [], []⟩) hrules hscore htaken
  have hr' := verify_eq_ok standard .customary "first" answering 1 0 (some ⟨_, [], []⟩) hrules' hscore htaken
  have hr'' := verify_eq_ok standard .customary "first" answering 1 0 (some ⟨_, [asksModel], []⟩) hrules' hscore' htaken
  have hrule : Appends (some ⟨[asksFor "answer"], [], []⟩) (some ⟨[asksFor "answer", asksFor "question"], [], []⟩)
      [asksFor "question"] [] := ⟨rfl, rfl⟩
  have hmodel : Appends (some ⟨[asksFor "answer", asksFor "question"], [], []⟩)
      (some ⟨[asksFor "answer", asksFor "question"], [asksModel], []⟩) [] [asksModel] := ⟨rfl, rfl⟩
  obtain ⟨-, -, -, -, hsame⟩ := verify_stricter hrule hr hr'
  obtain ⟨-, -, -, hle, -⟩ := verify_stricter hmodel hr' hr''
  exact ⟨_, _, _, hr, hr', hr'', ⟨rfl, rfl, rfl⟩, rfl, hsame (List.forall_mem_nil _), hle, rfl⟩

end WorkflowLab.Verification
