import WorkflowLab.Json.Literal
import WorkflowLab.Text.Digit
import WorkflowLab.Text.Search

/-!
# Dot paths

A dot path names a part of a value: keys of objects and indexes of lists, with points between them. A part that is not
there is null.

- `PathFault`: why a segment cannot be an index;
- `descend`, `lookup`: one segment, and a whole path.
-/

namespace WorkflowLab.Verification

/-- Why a segment of digits cannot be an index. -/
inductive PathFault where
  /-- Not all of its digits are decimal. -/
  | notDecimal (segment : String)
  /-- It begins with more decimal digits than an integer may have. -/
  | tooLong (digits : Nat)
deriving DecidableEq, Repr

/-- The longest segment that a message shows in full, with its quotes. -/
def maxShownSegment : Nat := 200

/-- The fault in words. -/
def PathFault.message : PathFault → String
  | .notDecimal segment =>
    "invalid literal for int() with base 10: " ++
      String.ofList ((Json.quote segment).toList.take maxShownSegment)
  | .tooLong digits => Number.hugeIntegerMessage digits

/-- Whether a segment is made of digits of any kind. -/
def looksLikeIndex (segment : List Char) : Bool := !segment.isEmpty && segment.all Text.isDigitLike

/-- The index that a segment of digits stands for. -/
def readIndex (segment : List Char) : Except PathFault Nat :=
  let digits := (segment.takeWhile fun c => (Text.digitValue? c).isSome).length
  if Number.maxIntegerDigits < digits then .error (.tooLong digits)
  else
    match Text.natOfDigits? segment with
    | some n => .ok n
    | none => .error (.notDecimal (String.ofList segment))

/-- Follows one segment. -/
def descend (v : Json) (segment : List Char) : Except PathFault Json :=
  match v with
  | .obj fields => .ok ((Fields.get? fields (String.ofList segment)).getD .null)
  | .arr items =>
    if looksLikeIndex segment then (readIndex segment).map fun i => items.getD i .null else .ok .null
  | _ => .ok .null

/-- Follows the segments of a path. -/
def follow (v : Json) : List (List Char) → Except PathFault Json
  | [] => .ok v
  | segment :: rest =>
    match descend v segment with
    | .ok part => follow part rest
    | .error f => .error f

/-- The part of a value that a path names. -/
def lookup (v : Json) (path : String) : Except PathFault Json := follow v (Text.split '.' path.toList)

end WorkflowLab.Verification
