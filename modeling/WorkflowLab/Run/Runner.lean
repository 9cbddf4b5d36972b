import WorkflowLab.Graph.Validation
import WorkflowLab.Run.Walk

/-!
# Runs

- `failureText`: the message of a failed run;
- `RunResult`, `RunResult.ofWalk`, `RunResult.wire`, `RunResult.send`: what a run has come to, how clients get it, and how
  a serializer makes that;
- `StartFault`: why a graph cannot be run;
- `Runner`: a registry with the settings of the walk;
- `Runner.run`: one run of a graph, from its trigger;
- `Runner.runPayload`, `Runner.serve`: a run of what an editor sends, for other parts of a program and for clients.
-/

namespace WorkflowLab.Run

/-- What a run has come to: its outputs, log and path so far, and its final output, or why it failed. -/
structure RunResult where
  outputs : Fields
  log : List Entry
  path : List String
  verdict : Except String Json

/-- The message of a failed run whose failure has none. -/
def silentFailure : String := "Workflow execution failed"

/-- The message of a failed run: that of its failure, if that has one. -/
def failureText (message : String) : String := if message = "" then silentFailure else message

namespace RunResult

/-- The result of a walk. -/
def ofWalk (p : Progress World) : RunResult where
  outputs := p.outputs
  log := p.state.log
  path := p.path
  verdict :=
    match p.fault with
    | some message => .error (failureText message)
    | none => .ok p.final

/-- Whether the run came to its end. -/
def success (r : RunResult) : Bool := r.verdict.isOk

/-- A result as clients get it. -/
def wire (r : RunResult) : Json :=
  .obj ([("success", .bool r.success), ("outputs", .obj r.outputs), ("logs", .arr (r.log.map Entry.wire))] ++
    match r.verdict with
    | .ok final => [("finalOutput", final)]
    | .error message => [("error", .str message)])

/-- The final output, if the run came to its end. -/
def final? (r : RunResult) : Option Json := r.verdict.toOption

/-- A result for clients. -/
def send (s : Serializer) (r : RunResult) : Except String Json := do
  let outputs ← s.value (.obj r.outputs)
  let logs ← r.log.mapM (Entry.send s)
  let ending ← match r.verdict with
    | .ok final => do pure ("finalOutput", ← s.value final)
    | .error message => pure ("error", .str message)
  return .obj [("success", .bool r.success), ("outputs", outputs), ("logs", .arr logs), ending]

end RunResult

/-- Why a graph cannot be run. -/
inductive StartFault where
  | emptyWorkflow
  | noTrigger
  | unsupported (nodes : List Node)

/-- The fault in words. -/
def StartFault.message : StartFault → String
  | .emptyWorkflow => "workflow is empty"
  | .noTrigger => noTriggerMessage
  | .unsupported nodes =>
    "unsupported node services: " ++ Text.joinWith ", "
      (nodes.map fun n => "'" ++ n.id ++ "' (" ++ n.kind.name ++ "/" ++ n.service ++ ")")

/-- A registry with the settings of the walk. -/
structure Runner where
  registry : Registry
  mode : BranchMode
  strictServices : Bool

/-- The log's name for what is no node. -/
def systemId : String := "system"

namespace Runner

/-- The runner with the executors of the library. -/
def standard (provider : Option Provider) (fetcher : Fetcher) (setup : Setup) : Runner :=
  ⟨Registry.standard provider fetcher setup, setup.branchMode, setup.strictServices⟩

/-! ## One node -/

/-- Reports a failure that an executor let pass. -/
def reportRaised (node : Node) (f : Failure) : Lab String := do
  let message := f.textOr (f.name ++ " in node '" ++ node.id ++ "'")
  Lab.enter node.id .error message .null
  Lab.note .error .walker ("Unexpected error in node '" ++ node.id ++ "'") []
  return message

/-- Runs a node: its output, or the message of the failed run. -/
def handle (runner : Runner) (node : Node) (input : Json) : Lab (Except String Json) := do
  Lab.setTrace [("node_id", .str node.id)]
  match runner.registry.resolve? node with
  | none => return .error (Registry.missingMessage node.kind)
  | some executor =>
    match ← (executor.run (Task.mk node input)).run with
    | .ok output => return .ok output
    | .error (.reported message) => return .error message
    | .error (.raised f) => return .error (← reportRaised node f)

/-- Notes a successor that is not in the graph. -/
def noteMissing (id : String) : Lab Unit :=
  Lab.note .debug .walker ("Skipping missing successor '" ++ id ++ "'") []

/-- The walk of a runner through a graph. -/
def tour (runner : Runner) (graph : Graph) : Tour World where
  graph
  mode := runner.mode
  handle node input w := (runner.handle node input).run w
  missing id w := ((noteMissing id).run w).2

/-! ## One graph -/

/-- The nodes that a runner with strict services refuses. -/
def refused (runner : Runner) (graph : Graph) : List Node :=
  graph.nodes.filter fun n => !runner.registry.hasDedicated n && n.kind != .output

/-- Where a run of a graph starts. -/
def locateTrigger (runner : Runner) (graph : Graph) : Except StartFault Node :=
  if graph.nodes.isEmpty then .error .emptyWorkflow
  else
    match graph.trigger? with
    | none => .error .noTrigger
    | some trigger =>
      let refused := runner.refused graph
      if runner.strictServices && !refused.isEmpty then .error (.unsupported refused) else .ok trigger

/-- Warns of triggers that will not run. -/
def warnOfTriggers (graph : Graph) : Lab Unit :=
  match graph.triggers with
  | trigger :: _ :: _ =>
    Lab.note .warning .walker
      ("⚠ Workflow has " ++ toString graph.triggers.length ++ " triggers; running '" ++ trigger.id ++ "'") []
  | _ => pure ()

/-- The result of what cannot be run: one entry of the log says why. -/
def refuse (message : String) : Lab RunResult := do
  Lab.enter systemId .error message .null
  let w ← get
  return ⟨[], w.log, [], .error message⟩

/-- Empties the log. -/
def clearLog : Lab Unit := modify fun w => { w with log := [] }

/-- Notes how a walk has ended. -/
def noteEnd (result : RunResult) : Lab Unit :=
  match result.verdict with
  | .error message => do
    Lab.note .error .walker
      ("❌ Run failed after " ++ toString result.path.length ++ " node(s): " ++ message) []
    Lab.setTrace [("node_id", .null)]
  | .ok _ => do
    Lab.setTrace [("node_id", .null)]
    Lab.note .info .walker ("✓ Run complete: " ++ Text.joinWith " → " result.path) []

/-- Walks from a trigger to the end or to the first failure. -/
def walkFrom (runner : Runner) (graph : Graph) (trigger : Node) : Lab RunResult := do
  Lab.note .info .walker
    ("▶ Starting run at trigger '" ++ trigger.id ++ "' (" ++ toString graph.ids.length ++ " nodes)") []
  let w ← get
  let p := (runner.tour graph).explore (.start w) [(trigger.id, .null)]
  set p.state
  noteEnd (.ofWalk p)
  return .ofWalk p

/-- Runs a graph. -/
def run (runner : Runner) (graph : Graph) : Lab RunResult := do
  clearLog
  let w ← get
  Lab.setTrace [("run_id", .str w.runId), ("workflow_size", .nat graph.nodes.length)]
  warnOfTriggers graph
  match runner.locateTrigger graph with
  | .error fault =>
    Lab.note .error .walker ("❌ Run rejected: " ++ fault.message) []
    refuse fault.message
  | .ok trigger => runner.walkFrom graph trigger

/-- Runs what an editor sends. -/
def runPayload (runner : Runner) (payload : Json) : Lab RunResult :=
  match Graph.ofPayload payload with
  | .ok graph => runner.run graph
  | .error fault => do
    clearLog
    refuse fault.message

/-- Runs a graph for a client, and forgets the trace of the run. -/
def serveGraph (runner : Runner) (graph : Graph) : Lab RunResult := do
  let result ← runner.run graph
  Lab.clearTrace
  return result

/-- Runs what an editor sends for a client, and forgets the trace of the run. -/
def serve (runner : Runner) (payload : Json) : Lab RunResult := do
  let result ← runner.runPayload payload
  Lab.clearTrace
  return result

end Runner

end WorkflowLab.Run
