import WorkflowLab.Capability.Failure
import WorkflowLab.Json.Literal
import WorkflowLab.Text.Blank

/-!
# Language models

- `CompletionRequest`, `Completion`: what a language model is asked and what it answers;
- `Account`, `Account.callMembers`: a gateway to language models, and what it is sent for a request;
- `RawCompletion.completion`: an answer of the gateway, with what it leaves out filled in;
- `Provider`: where answers come from; an answer depends on the request and on the requests before it, and that of a
  gateway on what it was sent for them.
-/

namespace WorkflowLab

/-- What a language model is asked. Model, limit and temperature are passed on as the settings give them. -/
structure CompletionRequest where
  messages : List Json
  system : Json
  model : Json
  maxTokens : Json
  temperature : Json

/-- The limit on the length of an answer, unless a request has one of its own. -/
def defaultAnswerTokens : Nat := 1024

/-- The request of some messages, all else left to the model. -/
def CompletionRequest.ofMessages (messages : List Json) : CompletionRequest :=
  ⟨messages, .str "", .null, .int defaultAnswerTokens, .null⟩

/-- What a language model answers. -/
structure Completion where
  content : Option String
  model : Json
  inputTokens : Number
  outputTokens : Number
  stopReason : String

namespace Completion

/-- The tokens of question and answer together. -/
def totalTokens (c : Completion) : Number := (c.inputTokens.add? c.outputTokens).getD c.inputTokens

end Completion

/-- A message to a language model. -/
def chatMessage (role : String) (content : Json) : Json := .obj [("role", .str role), ("content", content)]

/-- A gateway to language models: the model it prefers, and what it needs to be reached. -/
structure Account where
  model : Json
  apiKey : Json
  apiBase : Json
  timeout : Json

namespace Account

/-- A member that is left out when its value counts as nothing. -/
def whenTruthy (name : String) (v : Json) : Fields := if v.truthy then [(name, v)] else []

/-- The model of a request: its own, or the preferred one. -/
def modelFor (account : Account) (r : CompletionRequest) : Json := r.model.orElse account.model

/-- The messages of a request, the system prompt first if there is one. -/
def messagesFor (r : CompletionRequest) : List Json :=
  if r.system.truthy then chatMessage "system" r.system :: r.messages else r.messages

/-- What the gateway is sent. -/
def callMembers (account : Account) (r : CompletionRequest) : Fields :=
  [("model", account.modelFor r), ("messages", .arr (messagesFor r)), ("max_tokens", r.maxTokens)] ++
    (if r.temperature.isNull then [] else [("temperature", r.temperature)]) ++
    whenTruthy "api_key" account.apiKey ++ whenTruthy "api_base" account.apiBase ++
    whenTruthy "timeout" account.timeout

end Account

/-- One of the answers that a gateway offers. -/
structure Choice where
  content : Option String
  finishReason : Option String

/-- An answer of a gateway; model and counts may be left out. -/
structure RawCompletion where
  choices : List Choice
  model : Option String
  promptTokens : Option Number
  completionTokens : Option Number

namespace RawCompletion

/-- A count, zero when it is left out. -/
def count (n : Option Number) : Number :=
  match n with
  | some n => if n.isZero then 0 else n
  | none => 0

/-- The first choice as an answer to a request for a model. -/
def completion (raw : RawCompletion) (requested : Json) : Except Failure Completion :=
  match raw.choices with
  | [] => .error .noChoice
  | choice :: _ =>
    .ok {
      content := some (choice.content.getD "")
      model := (Json.ofString? raw.model).orElse requested
      inputTokens := count raw.promptTokens
      outputTokens := count raw.completionTokens
      stopReason := choice.finishReason.getD "" }

end RawCompletion

/-- Where answers come from. -/
inductive Provider where
  /-- Given answers one after the other, the last one over and over, or always the same failure. -/
  | canned (responses : List String) (error : Option String)
  /-- Any behaviour, given the requests up to the present one. -/
  | scripted (reply : List CompletionRequest → Except Failure Completion)
  /-- A gateway of any behaviour, given what it was sent up to the present request. -/
  | gateway (account : Account) (reply : List Fields → Except Failure RawCompletion)

namespace Provider

/-- The canned answer to the request after `earlier` others. -/
def cannedContent (responses : List String) (earlier : Nat) : String :=
  responses.getD (min earlier (responses.length - 1)) ""

/-- What a gateway is sent for a request. Other providers get the request itself. -/
def members? (provider : Provider) (r : CompletionRequest) : Option Fields :=
  match provider with
  | .gateway account _ => some (account.callMembers r)
  | _ => none

/-- The answer to a request, after the requests in `earlier`. -/
def answer (provider : Provider) (earlier : List CompletionRequest) (r : CompletionRequest) :
    Except Failure Completion :=
  match provider with
  | .canned _ (some text) => .error (.provider text)
  | .canned responses none =>
    let content := cannedContent responses earlier.length
    .ok {
      content := some content
      model := r.model.orElse (.str "mock")
      inputTokens := 10
      outputTokens := .int (Text.words content.toList).length
      stopReason := "" }
  | .scripted reply => reply (earlier ++ [r])
  | .gateway account reply =>
    match reply ((earlier ++ [r]).map account.callMembers) with
    | .ok raw => raw.completion (account.modelFor r)
    | .error f => .error (.provider f.text)

/-- The warning of a gateway that could not be asked. -/
def warning? (provider : Provider) (earlier : List CompletionRequest) (r : CompletionRequest) : Option String :=
  match provider with
  | .gateway account reply =>
    match reply ((earlier ++ [r]).map account.callMembers) with
    | .ok _ => none
    | .error f => some ("LiteLLM completion failed for " ++ (account.modelFor r).display ++ ": " ++ f.text)
  | _ => none

end Provider

end WorkflowLab
