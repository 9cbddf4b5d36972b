import WorkflowLab.Configuration.Environment
import WorkflowLab.Configuration.File
import WorkflowLab.Run.Runner

/-!
# Preferences

Where the settings of runs come from: those given by the program first, then the configuration file and the
environment, then defaults.

- `preferredModel`, `maxTokens`, `apiKey`, `executionSetting`: single settings of file and environment;
- `Preferences`, `Preferences.read`: all settings together;
- `Preferences.setup`, `Preferences.account`, `Preferences.runner`: the runner that they make.

`levels` is how many levels of the file are read, `none` for all of them.
-/

namespace WorkflowLab.Configuration

open Run

/-- The variable that names the model. -/
def modelVariable : String := "PHAZUR_MODEL"

/-- The variable that holds the key, unless the file names another one. -/
def keyVariable : String := "OPENAI_API_KEY"

/-- The model of the file, else that of the environment, else the default one. -/
def preferredModel (levels : Option Nat) (file : ConfigFile) (env : Environment) : Except ConfigFault Json := do
  let llm ← sectionOf (← file.read levels) "llm"
  let model := (llm.get? "model").getD .null
  return model.orElse ((Json.ofString? (env.get? modelVariable)).orElse (.str Setup.defaultModel))

/-- The limit on the length of answers. -/
def maxTokens (levels : Option Nat) (file : ConfigFile) : Except ConfigFault Json := do
  let llm ← sectionOf (← file.read levels) "llm"
  return (llm.get? "max_tokens").getD (.int Setup.defaultMaxTokens)

/-- The key for the gateway, from the variable that the file names. -/
def apiKey (levels : Option Nat) (file : ConfigFile) (env : Environment) : Except ConfigFault Json := do
  let llm ← sectionOf (← file.read levels) "llm"
  match ((llm.get? "api_key_env_var").getD .null).orElse (.str keyVariable) with
  | .str name => return Json.ofString? (env.get? name)
  | v => throw (.variableName v)

/-- A setting of runs in the file. -/
def executionSetting (levels : Option Nat) (file : ConfigFile) (name : String) (default : Json) :
    Except ConfigFault Json := do
  let execution ← sectionOf (← file.read levels) "execution"
  return (execution.get? name).getD default

/-- All settings. They are used as they are, whatever their type. -/
structure Preferences where
  model : Json
  temperature : Json
  maxTokens : Json
  apiKey : Json
  apiBase : Json
  promptTimeout : Json
  fetchTimeout : Json
  demoUrl : Json
  branchMode : Json

namespace Preferences

/-- The names of the settings. -/
def names : List String :=
  ["model", "temperature", "max_tokens", "api_key", "api_base", "llm_timeout_seconds", "http_timeout_seconds",
    "demo_url", "branch_mode"]

/-- A setting that is given, or where it comes from otherwise. -/
def givenOr (given : Fields) (name : String) (otherwise : Except ConfigFault Json) : Except ConfigFault Json :=
  match given.get? name with
  | some v => .ok v
  | none => otherwise

/-- All settings, given some of them. -/
def read (levels : Option Nat) (file : ConfigFile) (env : Environment) (given : Fields) :
    Except ConfigFault Preferences := do
  match given.find? fun m => !names.contains m.1 with
  | some m => throw (.unknownSetting m.1)
  | none => pure ()
  return {
    model := ← givenOr given "model" (preferredModel levels file env)
    temperature := ← givenOr given "temperature" (.ok (.float Setup.defaultTemperature))
    maxTokens := ← givenOr given "max_tokens" (Configuration.maxTokens levels file)
    apiKey := ← givenOr given "api_key" (Configuration.apiKey levels file env)
    apiBase := ← givenOr given "api_base" (.ok .null)
    promptTimeout := ← givenOr given "llm_timeout_seconds"
      (executionSetting levels file "llm_timeout_seconds" (.float Setup.defaultPromptTimeout))
    fetchTimeout := ← givenOr given "http_timeout_seconds"
      (executionSetting levels file "http_timeout_seconds" (.float Setup.defaultFetchTimeout))
    demoUrl := ← givenOr given "demo_url" (.ok (.str Setup.defaultDemoUrl))
    branchMode := ← givenOr given "branch_mode"
      (executionSetting levels file "branch_mode" (.str BranchMode.legacy.name)) }

/-- The branch mode of a setting. -/
def readBranchMode (v : Json) : Except ConfigFault BranchMode :=
  match v with
  | .str name =>
    match BranchMode.ofName? name with
    | some mode => .ok mode
    | none => .error (.branchMode v)
  | _ => .error (.branchMode v)

/-- The settings of runs. -/
def setup (p : Preferences) : Except ConfigFault Setup := do
  return {
    branchMode := ← readBranchMode p.branchMode
    strictServices := false
    promptTimeout := p.promptTimeout
    fetchTimeout := p.fetchTimeout
    model := p.model
    maxTokens := p.maxTokens
    temperature := p.temperature
    demoUrl := p.demoUrl }

/-- The account at the gateway. -/
def account (p : Preferences) : Account := ⟨p.model, p.apiKey, p.apiBase, .null⟩

/-- The gateway to language models. -/
def gateway (p : Preferences) (reply : List Fields → Except Failure RawCompletion) : Provider :=
  .gateway p.account reply

/-- Who sends requests to the web: a client of its own for each. -/
def fetcher (p : Preferences) (reply : List WebRequest → Except Failure WebReply) : Fetcher :=
  ⟨.perRequest p.fetchTimeout, reply⟩

/-- The runner of the settings. -/
def runner (p : Preferences) (complete : List Fields → Except Failure RawCompletion)
    (fetch : List WebRequest → Except Failure WebReply) : Except ConfigFault Runner := do
  return Runner.standard (some (p.gateway complete)) (p.fetcher fetch) (← p.setup)

end Preferences

end WorkflowLab.Configuration
