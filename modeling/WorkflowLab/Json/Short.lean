import WorkflowLab.Json.Basic
import WorkflowLab.Number.Text

/-!
# Integers with a text

Integers with more than `Number.maxIntegerDigits` digits are neither read nor written.

- `Json.every`: a test of a value and of all that it holds;
- `Json.isShort`: no integer in a value has too many digits.
-/

namespace WorkflowLab.Json

mutual

/-- A test of a value and of all that it holds. -/
def every (p : Json → Bool) : Json → Bool
  | .arr items => p (.arr items) && everyItem p items
  | .obj fields => p (.obj fields) && everyMember p fields
  | v => p v

/-- A test of items and of all that they hold. -/
def everyItem (p : Json → Bool) : List Json → Bool
  | [] => true
  | x :: xs => every p x && everyItem p xs

/-- A test of the values of members and of all that they hold. -/
def everyMember (p : Json → Bool) : List (String × Json) → Bool
  | [] => true
  | (_, v) :: rest => every p v && everyMember p rest

end

/-- The value is no integer with too many digits. -/
def hasShortInteger : Json → Bool
  | .int n => decide ((Number.natDigits n.natAbs).length ≤ Number.maxIntegerDigits)
  | _ => true

/-- No integer in the value has too many digits. -/
def isShort (v : Json) : Bool := v.every hasShortInteger

end WorkflowLab.Json
