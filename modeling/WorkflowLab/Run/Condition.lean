import WorkflowLab.Json.Equality

/-!
# Conditions

If-else nodes test their input by a named condition; a name that is not known is that of a member to look at.
-/

namespace WorkflowLab.Run

/-- What an if-else node tests. -/
inductive Condition where
  | always
  | never
  | hasResponse
  | hasData
  | isSuccess
  | hasMember (key : String)
deriving DecidableEq, Repr

namespace Condition

/-- The condition of a name. -/
def ofName (name : String) : Condition :=
  if name = "true" then .always
  else if name = "false" then .never
  else if name = "hasResponse" then .hasResponse
  else if name = "hasData" then .hasData
  else if name = "isSuccess" then .isSuccess
  else .hasMember name

/-- Whether a value is the truth value true. -/
def isTrue : Json → Bool
  | .bool b => b
  | _ => false

/-- Whether a condition holds of an input. What looks at members is false of everything but maps. -/
def holds : Condition → Json → Bool
  | .always, _ => true
  | .never, _ => false
  | .hasResponse, v => (v.get "response").truthy
  | .hasData, v => (v.get "data").truthy
  | .isSuccess, v => (v.get "status").same (.int 200) || isTrue (v.get "success")
  | .hasMember key, v => (v.get key).truthy

end Condition

end WorkflowLab.Run
