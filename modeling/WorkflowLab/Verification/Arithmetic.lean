import WorkflowLab.Number.Basic

/-!
# Arithmetic of scores

Scores are computed twice by one definition: with integers and doubles, as attempts are scored, and with exact
rationals.

- `ScoreFault`: why a computation has no result;
- `Arithmetic`: what the computation of a score needs;
- `doubles`, `exact`: the two readings.
-/

namespace WorkflowLab.Verification

/-- Why a computation has no result. -/
inductive ScoreFault where
  /-- A number is too large for a double. -/
  | overflow
  /-- There is no number to round. -/
  | notANumber
deriving DecidableEq, Repr

/-- The fault in words. -/
def ScoreFault.message : ScoreFault → String
  | .overflow => "number too large"
  | .notANumber => "cannot convert float NaN to integer"

/-- The operations that a score needs. -/
structure Arithmetic (α : Type) where
  ofInt : Int → α
  zero : α
  half : α
  atMost : α → α → Bool
  less : α → α → Bool
  add : α → α → Except ScoreFault α
  sub : α → α → Except ScoreFault α
  mul : α → α → Except ScoreFault α
  div : α → α → Except ScoreFault α
  floor : α → Except ScoreFault Int

namespace Arithmetic

variable {α : Type} (A : Arithmetic α)

/-- The smaller of two numbers, the first one when neither is smaller. -/
def smaller (a b : α) : α := if A.less b a then b else a

/-- The larger of two numbers, the first one when neither is larger. -/
def larger (a b : α) : α := if A.less a b then b else a

end Arithmetic

/-- A result, or the overflow that took its place. -/
def orOverflow {β : Type} : Option β → Except ScoreFault β
  | some b => .ok b
  | none => .error .overflow

/-- The greatest integer not above a number. -/
def floorNumber (n : Number) : Except ScoreFault Int :=
  match n.floor? with
  | some i => .ok i
  | none => .error (if n.same n then .overflow else .notANumber)

/-- Integers and doubles. -/
def doubles : Arithmetic Number where
  ofInt := .int
  zero := .float 0
  half := .float 0.5
  atMost := Number.atMost
  less := Number.less
  add a b := orOverflow (a.add? b)
  sub a b := orOverflow (a.sub? b)
  mul a b := orOverflow (a.mul? b)
  div a b := orOverflow (a.div? b)
  floor := floorNumber

/-- Exact rationals. -/
def exact : Arithmetic Rat where
  ofInt n := n
  zero := 0
  half := 1 / 2
  atMost a b := decide (a ≤ b)
  less a b := decide (a < b)
  add a b := .ok (a + b)
  sub a b := .ok (a - b)
  mul a b := .ok (a * b)
  div a b := .ok (a / b)
  floor a := .ok a.floor

end WorkflowLab.Verification
