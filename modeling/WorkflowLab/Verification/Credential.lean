import WorkflowLab.Verification.Result

/-!
# Credentials

- `Tier`, `Tier.ofScore`: the tier of a certificate, by the struggle score;
- `credential?`: the metadata of the certificate for a mastery path.
-/

namespace WorkflowLab.Verification

open Time

/-- The tier of a certificate. -/
inductive Tier where
  | elite
  | advanced
  | proficient
  | competent
  | foundational
deriving DecidableEq, Repr

namespace Tier

/-- The name of a tier. -/
def name : Tier → String
  | .elite => "ELITE"
  | .advanced => "ADVANCED"
  | .proficient => "PROFICIENT"
  | .competent => "COMPETENT"
  | .foundational => "FOUNDATIONAL"

/-- The name of a tier in addresses. -/
def slug : Tier → String
  | .elite => "elite"
  | .advanced => "advanced"
  | .proficient => "proficient"
  | .competent => "competent"
  | .foundational => "foundational"

/-- The highest score of each tier but the last, the best tier first. -/
def ceilings : List (Int × Tier) := [(20, .elite), (40, .advanced), (60, .proficient), (80, .competent)]

/-- The tier of a score: the best one whose ceiling it keeps. -/
def ofScore (score : Number) : Tier :=
  match ceilings.find? fun c => score.atMost (.int c.1) with
  | some c => c.2
  | none => .foundational

end Tier

/-- One attribute of a certificate. -/
def traitOf (name : String) (value : Json) : Json := .obj [("trait_type", .str name), ("value", value)]

/-- The sentences that describe a certificate. -/
def description (masteryPath : String) : String :=
  "Verified completion of the " ++ masteryPath ++ " mastery path on Phazur AI Academy. " ++
    "This Soulbound Token certifies hands-on competency in AI workflow deployment."

/-- The metadata of a certificate; the signature is left to its signer. There is none on the first day of the calendar
when the clock of the result has no known distance from universal time. -/
def credential? (r : VerificationResult) (masteryPath : String) (completed : List String) : Option Json := do
  let millis ← r.timestamp.unixMillis?
  let tier := Tier.ofScore (.int r.struggleScore)
  return .obj [
    ("name", .str ("Phazur Mastery: " ++ masteryPath)),
    ("description", .str (description masteryPath)),
    ("image", .str ("ipfs://phazur-certificates/" ++ tier.slug ++ "-badge.png")),
    ("attributes", .arr [
      traitOf "Mastery Path" (.str masteryPath),
      traitOf "Completion Tier" (.str tier.name),
      traitOf "Struggle Score" (.int r.struggleScore),
      traitOf "Hints Used" (.int r.hintsUsed),
      traitOf "Time to Complete" (.str (toString r.timeToComplete ++ "s")),
      traitOf "AKUs Completed" (.nat completed.length),
      traitOf "Verification Date" (.str r.timestamp.iso)]),
    ("phazur", .obj [
      ("masteryPath", .str masteryPath),
      ("akusCompleted", .ofStrings completed),
      ("struggleScore", .int r.struggleScore),
      ("deploymentTimestamp", .int millis),
      ("workflowHash", .str r.snapshot),
      ("verificationSignature", .str "")])]

/-- The complaint about a time out of reach. -/
def noMillisMessage : String := "year 0 is out of range"

end WorkflowLab.Verification
