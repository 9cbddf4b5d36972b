import WorkflowLab.Capability.Completion
import WorkflowLab.Capability.Fetch
import WorkflowLab.Diagnostics.Record
import WorkflowLab.Journal.Entry
import WorkflowLab.Node.Basic

/-!
# The surroundings of a run

- `World`: the clock, the log of the run, the diagnostic records with their trace context, the calls that were made, and
  what gateways were sent for them;
- `Lab`: computations in a world;
- `Lab.enter`, `Lab.enterValues`, `Lab.note`: entries of the log and a diagnostic record;
- `Lab.enroll`: the tasks of executors from elsewhere;
- `Lab.ask`, `Lab.send`: a call to a language model or to the web; a call is kept before it is answered.
-/

namespace WorkflowLab.Run

open Time

/-- A node with its input, as executors get it. -/
structure Task where
  node : Node
  input : Json

namespace Task

/-- The id of the node. -/
abbrev id (task : Task) : String := task.node.id
/-- The kind of the node. -/
abbrev kind (task : Task) : Kind := task.node.kind
/-- The service of the node. -/
abbrev service (task : Task) : String := task.node.service
/-- The settings of the node. -/
abbrev config (task : Task) : Fields := task.node.config

end Task

/-- A call to a capability. -/
inductive Call where
  | completion (request : CompletionRequest)
  | fetch (request : WebRequest)

namespace Call

/-- The request to a language model. -/
def completion? : Call → Option CompletionRequest
  | .completion r => some r
  | .fetch _ => none

/-- The request to the web. -/
def fetch? : Call → Option WebRequest
  | .completion _ => none
  | .fetch r => some r

end Call

/-- The surroundings of runs. The log belongs to one run, all else goes on from run to run. -/
structure World where
  clock : Clock
  /-- The id that runs are given. -/
  runId : String
  trace : Fields
  log : List Entry
  records : List Record
  calls : List Call
  /-- What gateways to language models were sent. -/
  sent : List Fields
  /-- The tasks that executors from elsewhere were given. -/
  guests : List Task

/-- Computations in a world. -/
abbrev Lab := StateM World

namespace World

/-- The world with one more record. -/
def noted (w : World) (level : Level) (part : Part) (message : String) (members : Fields) : World :=
  { w with records := w.records ++ [⟨level, part, message, w.trace, members⟩] }

/-- The requests to language models, in order. -/
def completions (w : World) : List CompletionRequest := w.calls.filterMap Call.completion?

/-- The requests to the web, in order. -/
def fetches (w : World) : List WebRequest := w.calls.filterMap Call.fetch?

end World

namespace Lab

/-- A computation that only reads the clock. -/
def clocked {α : Type} (c : Clocked α) : Lab α := fun w =>
  let (a, clock) := c w.clock
  (a, { w with clock })

/-- Appends an entry to the log. -/
def enter (nodeId : String) (event : Event) (message : String) (data : Json) : Lab Unit := fun w =>
  let (time, clock) := w.clock.tick
  ((), { w with clock, log := w.log ++ [⟨nodeId, event, message, time.iso, data, []⟩] })

/-- Appends an entry made of values of any type, if they fit. The clock is read in any case. -/
def enterValues (nodeId event message data : Json) : Lab (Intake.Checked Entry) := do
  let time ← clocked Clock.stamp
  let document := Json.obj
    [("node_id", nodeId), ("event", event), ("message", message), ("timestamp", .str time), ("data", data)]
  match Entry.read document with
  | .bad issues => return .bad issues
  | .good reading =>
    let entry ← clocked reading
    modify fun w => { w with log := w.log ++ [entry] }
    return .good entry

/-- Writes a diagnostic record. -/
def note (level : Level) (part : Part) (message : String) (members : Fields) : Lab Unit := fun w =>
  ((), w.noted level part message members)

/-- Sets members of the trace context. -/
def setTrace (members : Fields) : Lab Unit := fun w => ((), { w with trace := w.trace.merge members })

/-- Empties the trace context. -/
def clearTrace : Lab Unit := fun w => ((), { w with trace := [] })

/-- Keeps the task that an executor from elsewhere is given, and gives all such tasks up to it. -/
def enroll (task : Task) : Lab (List Task) := fun w =>
  let guests := w.guests ++ [task]
  (guests, { w with guests })

/-- Asks a language model. -/
def ask (provider : Provider) (r : CompletionRequest) : Lab (Except Failure Completion) := fun w =>
  let called := { w with calls := w.calls ++ [.completion r], sent := w.sent ++ (provider.members? r).toList }
  let warned := match provider.warning? w.completions r with
    | some message => called.noted .warning .gateway message []
    | none => called
  (provider.answer w.completions r, warned)

/-- Sends a request to the web. -/
def send (fetcher : Fetcher) (r : WebRequest) : Lab (Except Failure WebReply) := fun w =>
  let called := { w with calls := w.calls ++ [.fetch r] }
  match fetcher.reply (w.fetches ++ [r]) with
  | .error f => (.error f, called)
  | .ok reply =>
    (.ok reply, match fetcher.note? r reply with
      | some message => called.noted .debug .fetching message [("status_code", .int reply.status)]
      | none => called)

end Lab

end WorkflowLab.Run
