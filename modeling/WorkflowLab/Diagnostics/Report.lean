import WorkflowLab.Capability.Failure
import WorkflowLab.Diagnostics.Record
import WorkflowLab.Diagnostics.Template
import WorkflowLab.Json.Printer
import WorkflowLab.Text.Ansi
import WorkflowLab.Text.Case
import WorkflowLab.Text.Search
import WorkflowLab.Time.Clock

/-!
# Reports

A report is a message on its way to a reader, in the context of the trace.

- `Report`: level, logger, message template with arguments, members and failure;
- `Report.structured`: a report for machines, one JSON object without colours;
- `Report.human`: a report for people, one coloured line that begins with run and node.
-/

namespace WorkflowLab.Diagnostics

open Time

/-- A report. -/
structure Report where
  level : Level
  logger : String
  template : String
  arguments : List Json
  members : Fields
  failure : Option Failure

/-- Why a report cannot be written. -/
inductive ReportFault where
  /-- The id of the run is neither a text nor a list. -/
  | runId
  /-- The message cannot be filled in. -/
  | template (fault : TemplateFault)
deriving DecidableEq, Repr

namespace Report

/-- The message. -/
def message (r : Report) : Except TemplateFault String := expand r.template r.arguments

/-- A member that is there and not null. -/
def member? (r : Report) (name : String) : Option Json :=
  match r.members.get? name with
  | some .null => none
  | v => v

/-! ## For machines -/

/-- The members that machines get to see. -/
def memberNames : List String := ["event", "latency_ms", "node_id", "model", "status_code"]

/-- A text without colours; other values as they are. -/
def plain : Json → Json
  | .str s => .str (Text.Ansi.stripColours s)
  | v => v

/-- The members of a report for machines. -/
def plainMembers (r : Report) : Fields :=
  memberNames.filterMap fun name => (r.member? name).map fun v => (name, plain v)

/-- A failure in words: its name and, if there is one, its text. -/
def failureText (f : Failure) : String := if f.text = "" then f.name else f.name ++ ": " ++ f.text

/-- The object of a report with a message at a time. What comes later takes the place of what comes earlier. -/
def structuredFields (r : Report) (context : Fields) (time message : String) : Fields :=
  let base : Fields :=
    [("timestamp", .str time), ("level", .str (Text.lower r.level.name)), ("logger", .str r.logger),
      ("message", plain (.str message))]
  let all := (base.merge context).merge r.plainMembers
  match r.failure with
  | some f => all.set "exception" (plain (.str (failureText f)))
  | none => all

/-- The report for machines. The clock is read even if the message cannot be filled in. -/
def structured (r : Report) (context : Fields) : Clocked (Except ReportFault String) := do
  let time ← Clock.stamp
  match r.message with
  | .error f => return .error (.template f)
  | .ok message => return .ok ((Json.obj (r.structuredFields context time message)).render Json.spaced)

/-! ## For people -/

/-- The number of the colour of a level. -/
def colour? : Level → Option Nat
  | .unset => none
  | .debug => some 36
  | .info => some 32
  | .warning => some 33
  | .error => some 31
  | .critical => some 35

/-- The sequence that sets a colour. -/
def setColour (n : Nat) : String := Text.Ansi.escape.toString ++ "[" ++ toString n ++ "m"

/-- The level in its colour. -/
def levelTag (level : Level) : String :=
  let name := String.ofList (padText true 8 level.name.toList)
  ((colour? level).map setColour).getD "" ++ "[" ++ name ++ "]" ++ setColour 0

/-- How much of the id of a run is shown. -/
def runIdLength : Nat := 8

/-- The start of the id of a run. -/
def shortRunId : Json → Except ReportFault String
  | .str s => .ok (String.ofList (s.toList.take runIdLength))
  | .arr items => .ok (Json.arr (items.take runIdLength)).display
  | _ => .error .runId

/-- The part of the tag that names the run; nothing for an id that counts as nothing. -/
def runTag (id : Json) : Except ReportFault (List String) :=
  if id.truthy then (shortRunId id).map fun s => ["run:" ++ s] else .ok []

/-- The part of the tag that names the node. -/
def nodeTag (id : Json) : List String := if id.truthy then ["node:" ++ id.display] else []

/-- The tag with run and node. -/
def contextTag (context : Fields) : Except ReportFault String := do
  let run ← runTag ((context.get? "run_id").getD .null)
  match run ++ nodeTag ((context.get? "node_id").getD .null) with
  | [] => return ""
  | parts => return "[" ++ Text.joinWith " | " parts ++ "] "

/-- The tag with the event of a report. -/
def eventTag (r : Report) : String :=
  match r.member? "event" with
  | some event => " [" ++ event.display ++ "]"
  | none => ""

/-- The report for people. -/
def human (r : Report) (context : Fields) : Except ReportFault String := do
  let tag ← contextTag context
  match r.message with
  | .error f => throw (.template f)
  | .ok message => return levelTag r.level ++ " " ++ tag ++ message ++ r.eventTag

end Report

end WorkflowLab.Diagnostics
