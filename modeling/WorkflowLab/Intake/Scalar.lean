import WorkflowLab.Intake.NumberText
import WorkflowLab.Time.DocumentReader

/-!
# Reading simple values

Texts, lists and maps are taken as they are. Numbers, truth values and points in time may also be given in other
forms: as texts, and numbers and truth values in place of one another as long as nothing is lost.
-/

namespace WorkflowLab.Intake

/-- Reads any value. -/
def anything (v : Json) : Checked Json := .good v

/-- Reads a text. -/
def text : Json → Checked String
  | .str s => .good s
  | _ => .fault .notText

/-- Reads a value that may be null. -/
def nullable {α : Type} (read : Json → Checked α) : Json → Checked (Option α)
  | .null => .good none
  | v => (read v).map some

/-- Reads a list. -/
def list {α : Type} (read : Json → Checked α) : Json → Checked (List α)
  | .arr items => .all read items
  | _ => .fault .notList

/-- Reads a map of any values. -/
def map : Json → Checked Fields
  | .obj fields => .good fields
  | _ => .fault .notMap

/-- Reads a map whose values have a form. -/
def mapOf {α : Type} (read : Json → Checked α) : Json → Checked (List (String × α))
  | .obj fields => .members read fields
  | _ => .fault .notMap

/-- Reads one of a few texts. -/
def choice {α : Type} (choices : List (String × α)) : Json → Checked α
  | .str s =>
    match choices.lookup s with
    | some a => .good a
    | none => .fault (.notOneOf (choices.map (·.1)))
  | _ => .fault (.notOneOf (choices.map (·.1)))

/-- The integer that a double is; one beyond 64 bits is not taken. -/
def integerOfDouble (x : Float) : Checked Int :=
  match Binary.floor? x, Binary.toInt? x with
  | none, _ => .fault .notFinite
  | some _, none => .fault .fractional
  | some _, some n => if -wordLimit < n ∧ n < wordLimit then .good n else .fault .integerSize

/-- Reads an integer. -/
def integer : Json → Checked Int
  | .bool b => .good (if b then 1 else 0)
  | .int n => .good n
  | .float x => integerOfDouble x
  | .str s => integerOfText s
  | _ => .fault .notInteger

/-- Reads a double. -/
def double : Json → Checked Float
  | .bool b => .good (if b then 1 else 0)
  | .num n =>
    match n.toFloat? with
    | some x => .good x
    | none => .fault .notNumber
  | .str s =>
    match doubleOfText? s.toList with
    | some x => .good x
    | none => .fault .numberText
  | _ => .fault .notNumber

/-- The truth value of a number, if it is zero or one. -/
def truthOfInteger (n : Int) : Checked Bool :=
  if n = 0 then .good false else if n = 1 then .good true else .fault .truthText

/-- Reads a truth value. -/
def truth : Json → Checked Bool
  | .bool b => .good b
  | .int n => if isWord n then truthOfInteger n else .fault .notTruth
  | .float x =>
    match integerOfDouble x with
    | .good n => truthOfInteger n
    | .bad _ => .fault .notTruth
  | .str s =>
    let word := String.ofList (s.toList.map Char.toLower)
    if ["1", "on", "t", "true", "y", "yes"].contains word then .good true
    else if ["0", "off", "f", "false", "n", "no"].contains word then .good false
    else .fault .truthText
  | _ => .fault .notTruth

/-- Reads a point in time. -/
def time : Json → Checked Time.Timestamp
  | .str s => timed (Time.readDocumentTime s)
  | .num n => if n.toFloat?.isSome then timed (Time.ofUnixNumber n) else .fault .notTime
  | _ => .fault .notTime
where
  /-- A point in time, or its fault. -/
  timed : Except Time.TimeFault Time.Timestamp → Checked Time.Timestamp
    | .ok t => .good t
    | .error fault => .fault (.badTime fault)

/-- Tests a number that was read against a bound; what is not a number keeps none. -/
def bounded {α : Type} (value : α → Number) (bound : Bound) (c : Checked α) : Checked α :=
  c.andThen fun a =>
    let n := value a
    let keeps := match bound with
      | .above k => (Number.int k).less n
      | .atLeast k => (Number.int k).atMost n
      | .atMost k => n.atMost (.int k)
    if keeps then .good a else .fault (.outOfBound bound)

end WorkflowLab.Intake
