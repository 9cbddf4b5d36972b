/-!
# Failures of capabilities

Language models, web services and executors from elsewhere fail in ways of their own; a failure has a name and a text,
which may be empty.
-/

namespace WorkflowLab

/-- How a call failed. -/
inductive Failure where
  /-- No answer came in time. -/
  | timedOut (text : String)
  /-- The provider of a language model refused the call. -/
  | provider (text : String)
  /-- The answer holds no choice. -/
  | noChoice
  /-- The time limit cannot be used as one. -/
  | badLimit (name text : String)
  /-- Any other failure, under its own name. -/
  | other (name text : String)
deriving DecidableEq, Repr

namespace Failure

/-- The name of a failure. -/
def name : Failure → String
  | .timedOut _ => "TimeoutError"
  | .provider _ => "ProviderError"
  | .noChoice => "IndexError"
  | .badLimit name _ => name
  | .other name _ => name

/-- The text of a failure. -/
def text : Failure → String
  | .timedOut text => text
  | .provider text => text
  | .noChoice => "list index out of range"
  | .badLimit _ text => text
  | .other _ text => text

/-- The text of a failure, or another one when it is empty. -/
def textOr (f : Failure) (default : String) : String := if f.text = "" then default else f.text

end Failure

end WorkflowLab
