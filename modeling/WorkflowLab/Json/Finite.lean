import WorkflowLab.Json.Basic

/-!
# Finite documents

Strict JSON has no numeral for doubles that are not finite; documents for others write null in their place.
-/

namespace WorkflowLab.Json

/-- Whether a number is finite. -/
def isFiniteNumber : Number → Bool
  | .int _ => true
  | .float x => (Binary.floor? x).isSome

mutual

/-- The value with null in place of every double that is not finite. -/
def finite : Json → Json
  | .num n => if isFiniteNumber n then .num n else .null
  | .arr items => .arr (finiteItems items)
  | .obj fields => .obj (finiteFields fields)
  | v => v

/-- The items with null in place of every double that is not finite. -/
def finiteItems : List Json → List Json
  | [] => []
  | x :: xs => finite x :: finiteItems xs

/-- The members with null in place of every double that is not finite. -/
def finiteFields : List (String × Json) → List (String × Json)
  | [] => []
  | (k, v) :: rest => (k, finite v) :: finiteFields rest

end

end WorkflowLab.Json
