import WorkflowLab.Time.DocumentReader

/-!
# Issues with documents

A document that does not have the expected form is answered with all its issues, in the order of the fields of the
form.

- `Issue`: a place in the document and what is wrong there;
- `Issue.message`, `messages`: issues in words.
-/

namespace WorkflowLab.Intake

/-- A bound on a number. -/
inductive Bound where
  | above (n : Nat)
  | atLeast (n : Nat)
  | atMost (n : Nat)
deriving DecidableEq, Repr

/-- What is wrong with a value. -/
inductive Cause where
  | missing
  | notText
  | notList
  | notMap
  | notForm (form : String)
  | notOneOf (choices : List String)
  | notInteger
  | fractional
  | integerText
  | integerSize
  | notFinite
  | notNumber
  | numberText
  | notTruth
  | truthText
  | notTime
  | badTime (fault : Time.TimeFault)
  | outOfBound (bound : Bound)
deriving DecidableEq, Repr

/-- A step into a document. -/
inductive Step where
  | key (name : String)
  | index (i : Nat)
deriving DecidableEq, Repr

/-- What is wrong, and where. -/
structure Issue where
  place : List Step
  cause : Cause
deriving DecidableEq, Repr

/-- A list of choices in words: commas, and `or` before the last one. -/
def listChoices : List String → String
  | [] => ""
  | [a] => "'" ++ a ++ "'"
  | [a, b] => "'" ++ a ++ "' or '" ++ b ++ "'"
  | a :: rest => "'" ++ a ++ "', " ++ listChoices rest

/-- A bound in words. -/
def Bound.message : Bound → String
  | .above n => "Input should be greater than " ++ toString n
  | .atLeast n => "Input should be greater than or equal to " ++ toString n
  | .atMost n => "Input should be less than or equal to " ++ toString n

/-- What is wrong, in words. -/
def Cause.message : Cause → String
  | .missing => "Field required"
  | .notText => "Input should be a valid string"
  | .notList => "Input should be a valid list"
  | .notMap => "Input should be a valid dictionary"
  | .notForm form => "Input should be a valid dictionary or instance of " ++ form
  | .notOneOf choices => "Input should be " ++ listChoices choices
  | .notInteger => "Input should be a valid integer"
  | .fractional => "Input should be a valid integer, got a number with a fractional part"
  | .integerText => "Input should be a valid integer, unable to parse string as an integer"
  | .integerSize => "Unable to parse input string as an integer, exceeded maximum size"
  | .notFinite => "Input should be a finite number"
  | .notNumber => "Input should be a valid number"
  | .numberText => "Input should be a valid number, unable to parse string as a number"
  | .notTruth => "Input should be a valid boolean"
  | .truthText => "Input should be a valid boolean, unable to interpret input"
  | .notTime => "Input should be a valid datetime"
  | .badTime (.date fault) => "Input should be a valid datetime or date, " ++ fault.message
  | .badTime (.count fault) => "Input should be a valid datetime, " ++ fault.message
  | .badTime .yearZero => "Input should be a valid datetime, year 0 is out of range"
  | .outOfBound bound => bound.message

/-- A step in words. -/
def Step.text : Step → String
  | .key name => name
  | .index i => toString i

/-- An issue in words: its place, with points between the steps, and what is wrong. -/
def Issue.message (issue : Issue) : String :=
  String.intercalate "." (issue.place.map Step.text) ++ ": " ++ issue.cause.message

/-- Issues in words, one after the other. -/
def messages (issues : List Issue) : String := String.intercalate "; " (issues.map Issue.message)

end WorkflowLab.Intake
