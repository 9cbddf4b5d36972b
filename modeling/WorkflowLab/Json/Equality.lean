import WorkflowLab.Json.Basic

/-!
# Equality of JSON values

Two values are the same when they agree by value: numbers in either form, a truth value with zero or one, lists item
by item and objects member by member in any order.
-/

namespace WorkflowLab.Json

/-- A number or a truth value, as a number. -/
def asNumber? : Json → Option Number
  | .bool b => some (.int (if b then 1 else 0))
  | .num n => some n
  | _ => none

mutual

/-- Sameness by value. -/
def same : Json → Json → Bool
  | .null, .null => true
  | .str a, .str b => a == b
  | .arr xs, .arr ys => sameItems xs ys
  | .obj fs, .obj gs => fs.length == gs.length && sameFields fs gs
  | .bool a, w =>
    match w.asNumber? with
    | some n => Number.same (.int (if a then 1 else 0)) n
    | none => false
  | .num m, w =>
    match w.asNumber? with
    | some n => m.same n
    | none => false
  | _, _ => false

/-- Sameness item by item. -/
def sameItems : List Json → List Json → Bool
  | [], [] => true
  | x :: xs, y :: ys => same x y && sameItems xs ys
  | _, _ => false

/-- Every member of the first object is the same in the second. -/
def sameFields : List (String × Json) → List (String × Json) → Bool
  | [], _ => true
  | (k, v) :: rest, gs =>
    (match Fields.get? gs k with
      | some w => same v w
      | none => false) && sameFields rest gs

end

end WorkflowLab.Json
