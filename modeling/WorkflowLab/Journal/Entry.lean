import WorkflowLab.Intake.Scalar
import WorkflowLab.Json.Serializer
import WorkflowLab.Time.Clock

/-!
# Entries of the execution log

- `Event`, `Entry`: what happened to a node, and one line of the log;
- `Entry.wire`, `Entry.send`: an entry as clients get it, without members that carry nothing, and how a serializer makes
  it;
- `Entry.read`: an entry from a document; one without a time gets that of its reading.
-/

namespace WorkflowLab

open Intake Time

/-- What happened to a node. -/
inductive Event where
  | start
  | success
  | error
  | skip
deriving DecidableEq, Repr, Inhabited

namespace Event

/-- The name of an event in documents. -/
def name : Event → String
  | .start => "start"
  | .success => "success"
  | .error => "error"
  | .skip => "skip"

/-- The events by name. -/
def byName : List (String × Event) :=
  [("start", .start), ("success", .success), ("error", .error), ("skip", .skip)]

end Event

/-- One line of the execution log. -/
structure Entry where
  nodeId : String
  event : Event
  message : String
  timestamp : String
  data : Json
  extra : Fields
deriving Inhabited

namespace Entry

/-- The member for the id of the node. -/
def nodeIdMember : Member := .aliased "nodeId" "node_id"
/-- The member `event`. -/
def eventMember : Member := .plain "event"
/-- The member `message`. -/
def messageMember : Member := .plain "message"
/-- The member `timestamp`. -/
def timestampMember : Member := .plain "timestamp"
/-- The member `data`. -/
def dataMember : Member := .plain "data"

/-- The members of an entry. -/
def form : List Member := [nodeIdMember, eventMember, messageMember, timestampMember, dataMember]

/-- Reads an entry; the clock gives its time if the document does not. -/
def read : Json → Checked (Clocked Entry) :=
  readForm "LogEntry" fun fields =>
    (fun nodeId event message (timestamp : Option String) data extra => do
        let timestamp ← match timestamp with
          | some t => pure t
          | none => Clock.stamp
        return Entry.mk nodeId event message timestamp data extra) <$>
      nodeIdMember.required fields text
      <*> eventMember.required fields (choice Event.byName)
      <*> messageMember.optional fields "" text
      <*> timestampMember.optional fields none (fun v => (text v).map some)
      <*> dataMember.optional fields .null anything
      <*> .good (extras form fields)

/-- The data of an entry, if it carries any. -/
def data? (entry : Entry) : Option Json := if entry.data.isNull then none else some entry.data

/-- An entry as clients get it, with the document of its data. -/
def wireWith (entry : Entry) (data : Option Json) : Json :=
  .obj ([("nodeId", .str entry.nodeId), ("event", .str entry.event.name), ("message", .str entry.message),
    ("timestamp", .str entry.timestamp)] ++ (data.map fun v => ("data", v)).toList)

/-- An entry as clients get it. -/
def wire (entry : Entry) : Json := entry.wireWith entry.data?

/-- An entry for clients. -/
def send (s : Serializer) (entry : Entry) : Except String Json := do
  return entry.wireWith (← entry.data?.mapM s.value)

/-- The entry as a document, with its extra members. -/
def listing (entry : Entry) : Json :=
  Intake.listing .wire
    [(nodeIdMember, .str entry.nodeId), (eventMember, .str entry.event.name),
      (messageMember, .str entry.message), (timestampMember, .str entry.timestamp),
      (dataMember, entry.data)]
    entry.extra

end Entry

end WorkflowLab
