import WorkflowLab.Configuration.Environment
import WorkflowLab.Diagnostics.Record
import WorkflowLab.Json.Literal
import WorkflowLab.Text.Case

/-!
# How reports are written

- `Layout`, `Layout.choose`: for machines or for people, as asked for or as the environment says;
- `ReportSetup`, `ReportSetup.read`: the layout with the lowest level that is written;
- `ReportSetup.environment`, `ReportSetup.quietsGateway`, `ReportSetup.reroute`: what a setup changes around it, so that
  nothing but reports for machines is written where machines read.
-/

namespace WorkflowLab.Diagnostics

open WorkflowLab.Configuration

/-- Who reports are for. -/
inductive Layout where
  | structured
  | human
deriving DecidableEq, Repr, Inhabited

/-- The word that leaves the layout to the environment. -/
def automatic : String := "auto"

/-- The word for reports for machines. -/
def structuredName : String := "json"

namespace Layout

/-- The layout that the environment asks for. -/
def ofEnvironment (env : Environment) : Layout :=
  let layout := Text.lower ((env.get? "LOG_FORMAT").getD "")
  let stage := Text.lower ((env.get? "ENV").getD "development")
  if layout = structuredName ∨ stage = "production" then .structured else .human

/-- The layout of a name; names that are unknown mean reports for people. -/
def choose (env : Environment) : Json → Layout
  | .str name =>
    if name = automatic then ofEnvironment env else if name = structuredName then .structured else .human
  | _ => .human

end Layout

/-- Layout and lowest level. -/
structure ReportSetup where
  layout : Layout
  level : Level
deriving DecidableEq, Repr

/-- Why a setup cannot be read. -/
inductive SetupFault where
  | unknownLevel (name : String)
  | levelNotText
deriving DecidableEq, Repr

/-- The fault in words. -/
def SetupFault.message : SetupFault → String
  | .unknownLevel name => "Unknown level: " ++ Json.quote name
  | .levelNotText => "the level is no text"

/-- Where the messages of another library go: to handlers of its own, and on to the root. -/
structure Channel where
  handlers : Nat
  propagates : Bool
deriving DecidableEq, Repr

namespace ReportSetup

/-- The level that is written unless another one is asked for. -/
def defaultLevel : String := Level.info.name

/-- The level of a name in upper or lower case. -/
def readLevel : Json → Except SetupFault Level
  | .str name =>
    match Level.ofName? (Text.upper name) with
    | some level => .ok level
    | none => .error (.unknownLevel (Text.upper name))
  | _ => .error .levelNotText

/-- The setup of a level and a layout. -/
def read (env : Environment) (level layout : Json) : Except SetupFault ReportSetup := do
  return ⟨Layout.choose env layout, ← readLevel level⟩

/-- The environment under a setup: machines get no colours. -/
def environment (s : ReportSetup) (env : Environment) : Environment :=
  match s.layout with
  | .structured => (env.set "NO_COLOR" "1").set "FORCE_COLOR" "0"
  | .human => env

/-- Whether the gateway to language models is told to be quiet. -/
def quietsGateway (s : ReportSetup) : Bool := s.layout = .structured

/-- A channel under a setup: for machines all messages go through the root. -/
def reroute (s : ReportSetup) (c : Channel) : Channel :=
  match s.layout with
  | .structured => ⟨0, true⟩
  | .human => c

end ReportSetup

end WorkflowLab.Diagnostics
