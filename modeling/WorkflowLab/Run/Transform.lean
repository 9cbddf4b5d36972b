import WorkflowLab.Json.Printer
import WorkflowLab.Text.Case

/-!
# Transforms

Code nodes pick one of a closed set of transforms by name; an unknown name leaves the value as it is.
-/

namespace WorkflowLab.Run

/-- What a code node does to its input. -/
inductive Transform where
  | passthrough
  | stringify
  | extractResponse
  | uppercase
  | lowercase
deriving DecidableEq, Repr

namespace Transform

/-- The transforms by name. -/
def byName : List (String × Transform) :=
  [("passthrough", .passthrough), ("stringify", .stringify), ("extract-response", .extractResponse),
    ("uppercase", .uppercase), ("lowercase", .lowercase)]

/-- The transform of a name. -/
def ofName (name : String) : Transform := (byName.lookup name).getD .passthrough

/-- The result of a transform. Upper case reaches the response of a map too, lower case only texts. -/
def apply : Transform → Json → Json
  | .passthrough, v => v
  | .stringify, v => .str (v.render Json.indented)
  | .extractResponse, v =>
    match v with
    | .obj _ => (v.get "response").orElse v
    | _ => v
  | .uppercase, v =>
    match v with
    | .str s => .str (Text.upper s)
    | .obj fields =>
      match Fields.get? fields "response" with
      | some (.str s) => .obj (Fields.set fields "response" (.str (Text.upper s)))
      | _ => v
    | _ => v
  | .lowercase, v =>
    match v with
    | .str s => .str (Text.lower s)
    | _ => v

end Transform

end WorkflowLab.Run
