import WorkflowLab.Capability.Completion
import WorkflowLab.Capability.Failure
import WorkflowLab.Capability.Fetch
import WorkflowLab.Configuration.Environment
import WorkflowLab.Configuration.File
import WorkflowLab.Configuration.Preferences
import WorkflowLab.Diagnostics.Record
import WorkflowLab.Diagnostics.Report
import WorkflowLab.Diagnostics.Setup
import WorkflowLab.Diagnostics.Template
import WorkflowLab.Graph.Basic
import WorkflowLab.Graph.Validation
import WorkflowLab.Intake.Checked
import WorkflowLab.Intake.Issue
import WorkflowLab.Intake.NumberText
import WorkflowLab.Intake.Scalar
import WorkflowLab.Journal.Entry
import WorkflowLab.Json.Basic
import WorkflowLab.Json.Depth
import WorkflowLab.Json.Equality
import WorkflowLab.Json.Finite
import WorkflowLab.Json.Literal
import WorkflowLab.Json.Printer
import WorkflowLab.Json.Reader
import WorkflowLab.Node.Basic
import WorkflowLab.Node.Settings
import WorkflowLab.Number.Basic
import WorkflowLab.Number.Binary
import WorkflowLab.Number.Places
import WorkflowLab.Number.Power
import WorkflowLab.Number.Shortest
import WorkflowLab.Number.Text
import WorkflowLab.Run.Condition
import WorkflowLab.Run.Executor
import WorkflowLab.Run.Prompt
import WorkflowLab.Run.Registry
import WorkflowLab.Run.Runner
import WorkflowLab.Run.Transform
import WorkflowLab.Run.Walk
import WorkflowLab.Run.Work
import WorkflowLab.Run.Worklist
import WorkflowLab.Run.World
import WorkflowLab.Text.Ansi
import WorkflowLab.Text.Base64
import WorkflowLab.Text.Blank
import WorkflowLab.Text.Case
import WorkflowLab.Text.Case.Table
import WorkflowLab.Text.Digit
import WorkflowLab.Text.Printable
import WorkflowLab.Text.Ranges
import WorkflowLab.Text.Search
import WorkflowLab.Time.Calendar
import WorkflowLab.Time.Clock
import WorkflowLab.Time.DocumentReader
import WorkflowLab.Time.IsoReader
import WorkflowLab.Time.Timestamp
import WorkflowLab.Verification.Arithmetic
import WorkflowLab.Verification.Attempt
import WorkflowLab.Verification.Check
import WorkflowLab.Verification.Credential
import WorkflowLab.Verification.Criteria
import WorkflowLab.Verification.Lookup
import WorkflowLab.Verification.Outcome
import WorkflowLab.Verification.Result
import WorkflowLab.Verification.Score
import WorkflowLab.Verification.Snapshot
import WorkflowLab.Verification.Submission
import WorkflowLab.Verification.Verdict
import WorkflowLab.Verification.Workspace
import WorkflowLab.Proofs.Walk.Steps
import WorkflowLab.Proofs.Walk.Outputs
import WorkflowLab.Proofs.Walk.Closure
import WorkflowLab.Proofs.Walk.Machine
import WorkflowLab.Proofs.Run.Outcome
import WorkflowLab.Proofs.Run.Ending
import WorkflowLab.Proofs.Journal.Writes
import WorkflowLab.Proofs.Journal.Reports
import WorkflowLab.Proofs.Run.Reported
import WorkflowLab.Proofs.Run.Standard
import WorkflowLab.Proofs.Journal.Blocks
import WorkflowLab.Proofs.Run.Keeps
import WorkflowLab.Proofs.Run.Calls
import WorkflowLab.Proofs.Number.Ratios
import WorkflowLab.Proofs.Number.Rounding
import WorkflowLab.Proofs.Number.Doubles
import WorkflowLab.Proofs.Verification.Scores
import WorkflowLab.Proofs.Verification.Agreement
import WorkflowLab.Proofs.Verification.Attempts
import WorkflowLab.Proofs.Run.Start
import WorkflowLab.Proofs.Walk.Handing
import WorkflowLab.Proofs.Run.Handing
import WorkflowLab.Proofs.Json.Parts
import WorkflowLab.Proofs.Json.Alike
import WorkflowLab.Proofs.Json.Strings
import WorkflowLab.Proofs.Number.Nearest
import WorkflowLab.Proofs.Number.Shortest
import WorkflowLab.Proofs.Number.Parts
import WorkflowLab.Proofs.Json.Numerals
import WorkflowLab.Proofs.Json.Reading
import WorkflowLab.Proofs.Json.Received
import WorkflowLab.Proofs.Json.Ascii
import WorkflowLab.Proofs.Text.Base64
import WorkflowLab.Proofs.Intake.Agreement
import WorkflowLab.Proofs.Node.Alike
import WorkflowLab.Proofs.Verification.Snapshots
import WorkflowLab.Proofs.Verification.Canonical
import WorkflowLab.Proofs.Walk.Simulation
import WorkflowLab.Proofs.Run.Twins
import WorkflowLab.Proofs.Run.Departure
import WorkflowLab.Proofs.Run.Answers
import WorkflowLab.Proofs.Run.Truncation
import WorkflowLab.Proofs.Run.Branches
import WorkflowLab.Proofs.Walk.Thinning
import WorkflowLab.Proofs.Run.Pruning
import WorkflowLab.Proofs.Walk.Detour
import WorkflowLab.Proofs.Run.Detour
import WorkflowLab.Proofs.Run.Isolation
import WorkflowLab.Proofs.Run.Triggers
import WorkflowLab.Proofs.Number.Monotone
import WorkflowLab.Proofs.Number.Sums
import WorkflowLab.Proofs.Verification.Order
import WorkflowLab.Proofs.Verification.Strictness
import WorkflowLab.Proofs.Verification.ExactScores
import WorkflowLab.Proofs.Verification.Tiers
import WorkflowLab.Proofs.Graph.Validation
import WorkflowLab.Proofs.Journal.Nodes
import WorkflowLab.Proofs.Run.Services
import WorkflowLab.Proofs.Verification.Captured
import WorkflowLab.Proofs.Configuration.Precedence
import WorkflowLab.Proofs.Text.Search
import WorkflowLab.Proofs.Run.Prompts
import WorkflowLab.Proofs.Verification.Paths
import WorkflowLab.Proofs.Verification.Rules
import WorkflowLab.Proofs.Diagnostics.Messages
import WorkflowLab.Proofs.Configuration.Files
import WorkflowLab.Proofs.Run.Echo
import WorkflowLab.Proofs.Run.Attribution
