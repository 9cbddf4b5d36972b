import WorkflowLab.Node.Basic

/-!
# Settings of nodes

Every service reads the settings of its nodes through a form of its own, so that a bad value is found before anything
else happens.

- `Node.Settings`: the forms, one constructor a service;
- `Node.Settings.read`: reads the form of a service;
- `Node.Settings.listing`: the form as a document.
-/

namespace WorkflowLab.Node

open Intake

/-- Settings of a node that asks a language model. -/
structure PromptSettings where
  prompt : Option String
  model : Option String
  systemPrompt : Option String
  maxTokens : Option Int
  temperature : Option Float
  extra : Fields

/-- Settings of a node that sends a request. -/
structure RequestSettings where
  url : Option String
  method : Option String
  headers : List (String × String)
  extra : Fields

namespace PromptSettings

/-- The member `prompt`. -/
def promptMember : Member := .plain "prompt"
/-- The member `model`. -/
def modelMember : Member := .plain "model"
/-- The member for the system prompt. -/
def systemPromptMember : Member := .aliased "systemPrompt" "system_prompt"
/-- The member for the greatest length of the answer. -/
def maxTokensMember : Member := .aliased "maxTokens" "max_tokens"
/-- The member `temperature`. -/
def temperatureMember : Member := .plain "temperature"

/-- The members of the form. -/
def form : List Member := [promptMember, modelMember, systemPromptMember, maxTokensMember, temperatureMember]

/-- Reads the form. -/
def read : Json → Checked PromptSettings :=
  readForm "OpenAIConfig" fun fields =>
    PromptSettings.mk <$> promptMember.optional fields none (nullable text)
      <*> modelMember.optional fields none (nullable text)
      <*> systemPromptMember.optional fields none (nullable text)
      <*> maxTokensMember.optional fields none
        (nullable fun v => bounded Number.int (.above 0) (integer v))
      <*> temperatureMember.optional fields none
        (nullable fun v => bounded Number.float (.atLeast 0) (bounded Number.float (.atMost 2) (double v)))
      <*> .good (extras form fields)

end PromptSettings

namespace RequestSettings

/-- The member `url`. -/
def urlMember : Member := .plain "url"
/-- The member `method`. -/
def methodMember : Member := .plain "method"
/-- The member `headers`. -/
def headersMember : Member := .plain "headers"

/-- The members of the form. -/
def form : List Member := [urlMember, methodMember, headersMember]

/-- Reads the form; headers that count as nothing are empty. -/
def read : Json → Checked RequestSettings :=
  readForm "HttpConfig" fun fields =>
    RequestSettings.mk <$> urlMember.optional fields none (nullable text)
      <*> methodMember.optional fields none (nullable text)
      <*> headersMember.optional fields [] (fun v => if v.truthy then mapOf text v else .good [])
      <*> .good (extras form fields)

end RequestSettings

/-- Settings of one value: the payload of a trigger, the name of a transform or of a condition. -/
structure SingleSetting (α : Type) where
  value : α
  extra : Fields

/-- Reads a form with one member. -/
def SingleSetting.read {α : Type} (form : String) (member : Member) (default : α) (readValue : Json → Checked α) :
    Json → Checked (SingleSetting α) :=
  readForm form fun fields =>
    SingleSetting.mk <$> member.optional fields default readValue <*> .good (extras [member] fields)

/-- The member for the payload of a manual trigger. -/
def inputDataMember : Member := .aliased "inputData" "input_data"
/-- The member for the payload of a webhook trigger. -/
def testDataMember : Member := .aliased "testData" "test_data"
/-- The member for the name of a transform. -/
def transformMember : Member := .plain "transform"
/-- The member for the name of a condition. -/
def conditionMember : Member := .plain "condition"

/-- Reads the settings of a manual trigger. -/
def readManual : Json → Checked (SingleSetting Json) :=
  SingleSetting.read "ManualTriggerConfig" inputDataMember .null anything

/-- Reads the settings of a webhook trigger. -/
def readWebhook : Json → Checked (SingleSetting Json) :=
  SingleSetting.read "WebhookTriggerConfig" testDataMember .null anything

/-- Reads the settings of a transform. -/
def readCode : Json → Checked (SingleSetting (Option String)) :=
  SingleSetting.read "CodeConfig" transformMember none (nullable text)

/-- Reads the settings of a condition. -/
def readIfElse : Json → Checked (SingleSetting (Option String)) :=
  SingleSetting.read "IfElseConfig" conditionMember none (nullable text)

/-- Settings of a node, by service. -/
inductive Settings where
  | manual (s : SingleSetting Json)
  | webhook (s : SingleSetting Json)
  | openai (s : PromptSettings)
  | http (s : RequestSettings)
  | code (s : SingleSetting (Option String))
  | ifElse (s : SingleSetting (Option String))

namespace Settings

/-- Reads the settings of a service. -/
def read (service : Service) (v : Json) : Checked Settings :=
  match service with
  | .manual => (readManual v).map .manual
  | .webhook => (readWebhook v).map .webhook
  | .openai => (PromptSettings.read v).map .openai
  | .http => (RequestSettings.read v).map .http
  | .code => (readCode v).map .code
  | .ifElse => (readIfElse v).map .ifElse

/-- The settings as a document. -/
def listing (naming : Naming) : Settings → Json
  | .manual s => Intake.listing naming [(inputDataMember, s.value)] s.extra
  | .webhook s => Intake.listing naming [(testDataMember, s.value)] s.extra
  | .openai s =>
    Intake.listing naming
      [(PromptSettings.promptMember, .ofString? s.prompt), (PromptSettings.modelMember, .ofString? s.model),
        (PromptSettings.systemPromptMember, .ofString? s.systemPrompt),
        (PromptSettings.maxTokensMember, .ofOption (s.maxTokens.map .int)),
        (PromptSettings.temperatureMember, .ofOption (s.temperature.map .float))]
      s.extra
  | .http s =>
    Intake.listing naming
      [(RequestSettings.urlMember, .ofString? s.url), (RequestSettings.methodMember, .ofString? s.method),
        (RequestSettings.headersMember, .obj (s.headers.map fun h => (h.1, .str h.2)))]
      s.extra
  | .code s => Intake.listing naming [(transformMember, .ofString? s.value)] s.extra
  | .ifElse s => Intake.listing naming [(conditionMember, .ofString? s.value)] s.extra

end Settings

end WorkflowLab.Node
