import WorkflowLab.Verification.Arithmetic

/-!
# The struggle score

How much help a learner needed, from 0 (none) to 100 (a lot): a penalty for hints, one for time above the expected one,
and one for failed requirements, added up and rounded.

- `hintPenalty`, `timePenalty`, `failurePenalty`: the penalties, the first two between 0 and 40;
- `roundHalfUp`: the nearest integer, halves going up;
- `struggleScore`: the score.
-/

namespace WorkflowLab.Verification

/-- Hints that an attempt may use when nothing else is set. -/
def defaultMaxHints : Int := 3
/-- Seconds that an attempt may take when nothing else is set. -/
def defaultExpectedDuration : Int := 120

variable {α : Type} (A : Arithmetic α)

/-- The nearest integer, halves going up. -/
def roundHalfUp (x : α) : Except ScoreFault Int := do
  A.floor (← A.add x A.half)

/-- The penalty for hints. -/
def hintPenalty (hints maxHints : α) : Except ScoreFault α := do
  if A.atMost maxHints (A.ofInt 0) then return A.zero
  let share ← A.div hints maxHints
  return A.smaller (A.ofInt 40) (A.larger A.zero (← A.mul share (A.ofInt 40)))

/-- The penalty for time. -/
def timePenalty (seconds expected : α) : Except ScoreFault α := do
  if A.atMost expected (A.ofInt 0) then return A.zero
  let ratio ← A.div seconds expected
  if A.atMost ratio (A.ofInt 1) then return A.zero
  return A.smaller (A.ofInt 40) (← A.mul (← A.sub ratio (A.ofInt 1)) (A.ofInt 20))

/-- The penalty for failed requirements. -/
def failurePenalty (failed : α) : Except ScoreFault α := do
  return A.larger (A.ofInt 0) (← A.mul failed (A.ofInt 10))

/-- Brings an integer into the range from 0 to 100. -/
def clampScore (n : Int) : Int := min 100 (max 0 n)

/-- The score of an attempt. -/
def struggleScore (hints seconds failed maxHints expected : α) : Except ScoreFault Int := do
  let help ← hintPenalty A hints maxHints
  let time ← timePenalty A seconds expected
  let failure ← failurePenalty A failed
  return clampScore (← roundHalfUp A (← A.add (← A.add help time) failure))

end WorkflowLab.Verification
