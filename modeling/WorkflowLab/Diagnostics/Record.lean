import WorkflowLab.Json.Basic

/-!
# Diagnostic records

What the parts of the library report about their work, apart from the execution log.

- `Level`, `Part`: how grave a record is, and which part of the library wrote it;
- `Level.ofName?`: the level of a name, some levels having two;
- `Record`: a record with the trace context at its time and the members it carries.
-/

namespace WorkflowLab

/-- How grave a record is; `unset` is below all others. -/
inductive Level where
  | unset
  | debug
  | info
  | warning
  | error
  | critical
deriving DecidableEq, Repr, Inhabited

namespace Level

/-- The name of a level. -/
def name : Level → String
  | .unset => "NOTSET"
  | .debug => "DEBUG"
  | .info => "INFO"
  | .warning => "WARNING"
  | .error => "ERROR"
  | .critical => "CRITICAL"

/-- The levels by name. -/
def byName : List (String × Level) :=
  [("CRITICAL", .critical), ("FATAL", .critical), ("ERROR", .error), ("WARN", .warning), ("WARNING", .warning),
    ("INFO", .info), ("DEBUG", .debug), ("NOTSET", .unset)]

/-- The level of a name. -/
def ofName? (name : String) : Option Level := byName.lookup name

end Level

/-- The parts of the library that write records. -/
inductive Part where
  | walker
  | executors
  | prompts
  | gateway
  | fetching
  | verification
  | outcomes
  | service
deriving DecidableEq, Repr, Inhabited

/-- A diagnostic record. -/
structure Record where
  level : Level
  part : Part
  message : String
  context : Fields
  members : Fields

end WorkflowLab
