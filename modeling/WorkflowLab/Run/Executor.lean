import WorkflowLab.Json.Reader
import WorkflowLab.Run.Condition
import WorkflowLab.Run.Prompt
import WorkflowLab.Run.Transform
import WorkflowLab.Run.Work

/-!
# Executors

An executor turns the task of a node into an output. It may append to the log and make calls, nothing else.

- `PromptService`, `PromptService.attempt`: what openai nodes work with, and a call under its time limit;
- `Turn`: what an executor from elsewhere does with a task;
- `Executor`: the executors, one constructor each, and those from elsewhere;
- `Executor.run`: the output of a task, or how it failed.
-/

namespace WorkflowLab.Run

open Node

/-! ## Asking a language model -/

/-- What openai nodes work with: a provider, a time limit, and what counts where settings are silent. -/
structure PromptService where
  provider : Option Provider
  timeout : Json
  model : Json
  maxTokens : Json
  temperature : Json

/-- The prompt of a node without one. -/
def defaultPrompt : String := "Say hello and introduce yourself briefly."

/-- The system prompt of a node without one. -/
def defaultSystemPrompt : String := "You are a helpful assistant."

/-- A text that is there and not empty. -/
def filled? : Option String → Option String
  | some s => if s = "" then none else some s
  | none => none

/-- The kind of a value that is no number, in complaints about time limits. -/
def limitKind : Json → String
  | .arr _ => "list"
  | .obj _ => "dict"
  | _ => "str"

/-- Why a call cannot be made under a time limit: no time is left, or the limit is no number of seconds. -/
def limitFault? (timeout : Json) : Option Failure :=
  match timeout with
  | .null => none
  | v =>
    match v.asNumber? with
    | some n =>
      if n.atMost 0 then some (.timedOut "")
      else match n.toFloat? with
        | some _ => none
        | none => some (.badLimit "OverflowError" "int too large to convert to float")
    | none =>
      some (.badLimit "TypeError"
        ("'<=' not supported between instances of '" ++ limitKind v ++ "' and 'int'"))

namespace PromptService

/-- The request of a node. Its own settings come first. -/
def request (service : PromptService) (s : PromptSettings) (input : Json) : CompletionRequest where
  messages := [chatMessage "user" (.str (renderPrompt ((filled? s.prompt).getD defaultPrompt) input))]
  system := .str ((filled? s.systemPrompt).getD defaultSystemPrompt)
  model := (Json.ofString? s.model).orElse service.model
  maxTokens := (s.maxTokens.map Json.int).getD service.maxTokens
  temperature := (s.temperature.map Json.float).getD service.temperature

/-- Asks a provider, unless the time limit forbids it. -/
def attempt (service : PromptService) (provider : Provider) (r : CompletionRequest) :
    Lab (Except Failure Completion) :=
  match limitFault? service.timeout with
  | some f => pure (.error f)
  | none => Lab.ask provider r

/-- The message about a failed call. -/
def faultMessage (service : PromptService) : Failure → String
  | .timedOut _ => "OpenAI call timed out after " ++ service.timeout.display ++ "s"
  | f => f.textOr "OpenAI call failed"

/-- Runs an openai node. -/
def run (service : PromptService) (task : Task) : Work Json := do
  let s ← Work.settings task PromptSettings.read
  let r := service.request s task.input
  Work.enter task .start ("Calling OpenAI " ++ r.model.display ++ "...") .null
  match service.provider with
  | none => Work.fail task "No LLM provider configured"
  | some provider =>
    match ← ExceptT.lift (service.attempt provider r) with
    | .error f => Work.fail task (service.faultMessage f)
    | .ok c =>
      let response := c.content.getD ""
      Work.enter task .success "OpenAI response received"
        (.obj [("preview", .str (previewText response previewLength))])
      ExceptT.lift (Lab.note .info .prompts
        ("✓ " ++ r.model.display ++ " answered (" ++ c.totalTokens.text ++ " tokens)")
        [("node_id", .str task.id), ("model", r.model)])
      return .obj [("response", .str response), ("model", r.model), ("tokens", .num c.totalTokens)]

end PromptService

/-! ## Sending a request -/

/-- The body of a reply: its JSON value, or its text when it is not JSON, or has a string that no text of characters can
stand for. -/
def parseBody (text : String) : Json :=
  match Json.parse text.toList with
  | .ok v => v
  | .error _ => .str text

/-- The name of the header for the type of the body. -/
def contentType : String := "Content-Type"

/-- The headers of a request: those of the settings, and the type of the body if they do not give it. -/
def requestHeaders (headers : List (String × String)) : List (String × String) :=
  (contentType, (headers.lookup contentType).getD "application/json") :: headers.filter (·.1 != contentType)

/-- The request of a node whose settings give a URL. The body is the input, but GET has none. -/
def webRequest (s : RequestSettings) (url : String) (input : Json) : WebRequest :=
  let method := Text.upper ((filled? s.method).getD "GET")
  { method
    url := .str url
    headers := some (requestHeaders s.headers)
    content := if method = "GET" ∨ input.isNull then none else some (input.render Json.spaced) }

/-- The request of a node without a URL. -/
def demoRequest (demoUrl : Json) : WebRequest := ⟨"GET", demoUrl, none, none⟩

/-- Sends a request between its two entries of the log; `label` stands before the status. -/
def exchange (fetcher : Fetcher) (task : Task) (r : WebRequest) (opening label : String) : Work Json := do
  Work.enter task .start opening .null
  match ← ExceptT.lift (Lab.send fetcher r) with
  | .error f => Work.fail task (f.textOr ("HTTP request failed: " ++ f.name))
  | .ok reply =>
    Work.enter task .success (label ++ toString reply.status ++ " received")
      (.obj [("status", .int reply.status)])
    return .obj [("status", .int reply.status), ("data", parseBody reply.text)]

/-- Runs an http node. -/
def runRequest (fetcher : Fetcher) (demoUrl : Json) (task : Task) : Work Json := do
  let s ← Work.settings task RequestSettings.read
  match filled? s.url with
  | none =>
    exchange fetcher task (demoRequest demoUrl) ("No URL configured, using demo: GET " ++ demoUrl.display)
      "Demo HTTP "
  | some url =>
    let r := webRequest s url task.input
    exchange fetcher task r (r.method ++ " " ++ url) "HTTP "

/-! ## Nodes that make no calls -/

/-- Runs a manual trigger: its payload, or a default one with the time. -/
def runManual (task : Task) : Work Json := do
  let s ← Work.settings task readManual
  let payload ←
    if s.value.isNull then do
      let time ← ExceptT.lift (Lab.clocked Time.Clock.stamp)
      pure (Json.obj [("triggered", .bool true), ("timestamp", .str time), ("message", .str "Workflow started")])
    else pure s.value
  Work.enter task .success "Manual trigger activated" payload
  return payload

/-- Runs a webhook trigger: its payload, or an empty one. -/
def runWebhook (task : Task) : Work Json := do
  let s ← Work.settings task readWebhook
  let payload :=
    if s.value.isNull then Json.obj [("webhook", .bool true), ("payload", .obj [])] else s.value
  Work.enter task .success "Webhook trigger simulated" payload
  return payload

/-- Runs a trigger of another service. -/
def runTrigger (task : Task) : Work Json := do
  let payload := Json.obj [("triggered", .bool true)]
  Work.enter task .success ("Trigger " ++ task.service ++ " simulated") payload
  return payload

/-- Runs a code node. -/
def runTransform (task : Task) : Work Json := do
  let s ← Work.settings task readCode
  let name := (filled? s.value).getD "passthrough"
  Work.enter task .start ("Applying transform: " ++ name) .null
  let result := (Transform.ofName name).apply task.input
  Work.enter task .success "Transform applied" .null
  return result

/-- The name of a branch. -/
def branchName (holds : Bool) : String := if holds then "true" else "false"

/-- Runs an if-else node. Which successor follows is not its business. -/
def runCondition (task : Task) : Work Json := do
  let s ← Work.settings task readIfElse
  let name := (filled? s.value).getD "hasResponse"
  let holds := (Condition.ofName name).holds task.input
  Work.enter task .success ("Condition '" ++ name ++ "' evaluated to: " ++ branchName holds)
    (.obj [("condition", .str name), ("result", .bool holds)])
  return .obj [("result", task.input), ("branch", .str (branchName holds))]

/-- The part of a value that is shown: its response, else its data, else all of it. -/
def projectOutput (v : Json) : Json := (v.get "response").orElse ((v.get "data").orElse v)

/-- Runs an output node. The log keeps the whole input. -/
def runOutput (task : Task) : Work Json := do
  Work.enter task .success "Output captured" task.input
  return projectOutput task.input

/-- Runs a node of a service without an executor: its input passes through. -/
def runPassthrough (task : Task) : Work Json := do
  Work.enter task .success (task.kind.title ++ " " ++ task.service ++ " simulated") .null
  return task.input

/-- What an executor from elsewhere writes: an entry of the log, about any node, or the report of a failure. -/
inductive Note where
  | entry (nodeId : String) (event : Event) (message : String) (data : Json)
  | report (message : String)

/-- What an executor from elsewhere does with a task: what it writes, and how it ends. Nothing holds it to its promise
to report what it says it has reported, or keeps it from writing about other nodes. -/
structure Turn where
  notes : List Note
  result : Except NodeFault Json

namespace Turn

/-- An output, and nothing in the log. -/
def ok (output : Json) : Turn := ⟨[], .ok output⟩

/-- A failure that passes, and nothing in the log. -/
def error (f : Failure) : Turn := ⟨[], .error (.raised f)⟩

end Turn

/-- Writes what an executor from elsewhere writes. -/
def Note.write (task : Task) : Note → Work Unit
  | .entry nodeId event message data => ExceptT.lift (Lab.enter nodeId event message data)
  | .report message => Work.report task message

/-- Writes notes, one after the other. -/
def Work.writeAll (task : Task) : List Note → Work Unit
  | [] => pure ()
  | note :: rest => do
    note.write task
    Work.writeAll task rest

/-- Writes what is to be written, and ends so. -/
def Turn.carryOut (turn : Turn) (task : Task) : Work Json := do
  Work.writeAll task turn.notes
  match turn.result with
  | .ok output => return output
  | .error fault => throw fault

/-- Runs an executor from elsewhere: any behaviour, given the tasks of such executors up to the present one. -/
def runGuest (act : List Task → Turn) (task : Task) : Work Json := do
  let tasks ← ExceptT.lift (Lab.enroll task)
  (act tasks).carryOut task

/-! ## All executors -/

/-- An executor. -/
inductive Executor where
  | manual
  | webhook
  | trigger
  | prompt (service : PromptService)
  | request (fetcher : Fetcher) (demoUrl : Json)
  | transform
  | condition
  | passthrough
  | output
  /-- One from elsewhere, under a name. -/
  | guest (name : String) (act : List Task → Turn)

/-- Runs an executor on a task. -/
def Executor.run : Executor → Task → Work Json
  | .manual => runManual
  | .webhook => runWebhook
  | .trigger => runTrigger
  | .prompt service => service.run
  | .request fetcher demoUrl => runRequest fetcher demoUrl
  | .transform => runTransform
  | .condition => runCondition
  | .passthrough => runPassthrough
  | .output => runOutput
  | .guest _ act => runGuest act

end WorkflowLab.Run
