import WorkflowLab.Run.Executor

/-!
# Registries

A registry finds the executor of a node: the one dedicated to its variant, else the fallback of its kind.

- `Registry`, `Registry.resolve?`, `Registry.hasDedicated`;
- `Registry.register`, `Registry.registerFallback`: further executors; a later one takes the place of an earlier one;
- `Setup`, `Registry.standard`: the executors of the library, wired to capabilities.
-/

namespace WorkflowLab.Run

/-- The executors of variants, and those of kinds. -/
structure Registry where
  dedicated : List (Variant × Executor)
  fallbacks : List (Kind × Executor)

/-- How the walk goes on after a node that branches. -/
inductive BranchMode where
  /-- To the first successor, whatever the branch. -/
  | legacy
  /-- To the first successor on the branch `true`, to the second one on any other. -/
  | strict
deriving DecidableEq, Repr, Inhabited

namespace BranchMode

/-- The name of a mode. -/
def name : BranchMode → String
  | .legacy => "legacy"
  | .strict => "strict"

/-- The mode of a name. -/
def ofName? (name : String) : Option BranchMode :=
  if name = "legacy" then some .legacy else if name = "strict" then some .strict else none

end BranchMode

/-- The settings of runs. Limits and defaults are passed on to the capabilities as they are. -/
structure Setup where
  branchMode : BranchMode
  strictServices : Bool
  promptTimeout : Json
  fetchTimeout : Json
  model : Json
  maxTokens : Json
  temperature : Json
  demoUrl : Json

namespace Setup

/-- The model that is asked when nothing else is set. -/
def defaultModel : String := "gpt-4o-mini"
/-- The limit on the length of answers when nothing else is set. -/
def defaultMaxTokens : Int := 500
/-- The temperature when nothing else is set. -/
def defaultTemperature : Float := 0.7
/-- Seconds for an answer of a language model when nothing else is set. -/
def defaultPromptTimeout : Float := 60
/-- Seconds for a reply of the web when nothing else is set. -/
def defaultFetchTimeout : Float := 30
/-- Where http nodes without a URL send their request when nothing else is set. -/
def defaultDemoUrl : String := "https://jsonplaceholder.typicode.com/posts/1"

/-- The settings when nothing is set. -/
def standard : Setup where
  branchMode := .legacy
  strictServices := false
  promptTimeout := .float defaultPromptTimeout
  fetchTimeout := .float defaultFetchTimeout
  model := .str defaultModel
  maxTokens := .int defaultMaxTokens
  temperature := .float defaultTemperature
  demoUrl := .str defaultDemoUrl

/-- What openai nodes work with. -/
def promptService (setup : Setup) (provider : Option Provider) : PromptService :=
  ⟨provider, setup.promptTimeout, setup.model, setup.maxTokens, setup.temperature⟩

end Setup

namespace Registry

/-- A registry without executors. -/
def empty : Registry := ⟨[], []⟩

/-- Dedicates an executor to a variant. -/
def register (r : Registry) (variant : Variant) (executor : Executor) : Registry :=
  { r with dedicated := (variant, executor) :: r.dedicated }

/-- Makes an executor the fallback of a kind. -/
def registerFallback (r : Registry) (kind : Kind) (executor : Executor) : Registry :=
  { r with fallbacks := (kind, executor) :: r.fallbacks }

/-- Whether an executor is dedicated to the variant of a node. -/
def hasDedicated (r : Registry) (node : Node) : Bool := (r.dedicated.lookup node.variant).isSome

/-- The executor of a node. -/
def resolve? (r : Registry) (node : Node) : Option Executor :=
  (r.dedicated.lookup node.variant).or (r.fallbacks.lookup node.kind)

/-- The executor that is dedicated to the nodes of a service. -/
def dedicatedTo (service : PromptService) (fetcher : Fetcher) (demoUrl : Json) : Service → Executor
  | .manual => .manual
  | .webhook => .webhook
  | .openai => .prompt service
  | .http => .request fetcher demoUrl
  | .code => .transform
  | .ifElse => .condition

/-- The executor of the nodes of a kind whose service has none. -/
def fallbackOf : Kind → Executor
  | .trigger => .trigger
  | .action => .passthrough
  | .logic => .passthrough
  | .output => .output

/-- The executors of the library. -/
def standard (provider : Option Provider) (fetcher : Fetcher) (setup : Setup) : Registry where
  dedicated := Service.all.map fun s =>
    (s.variant, dedicatedTo (setup.promptService provider) fetcher setup.demoUrl s)
  fallbacks := [Kind.trigger, .action, .logic, .output].map fun k => (k, fallbackOf k)

/-- The message about a node without executor. -/
def missingMessage (kind : Kind) : String := "No executor for node kind '" ++ kind.name ++ "'"

end Registry

end WorkflowLab.Run
