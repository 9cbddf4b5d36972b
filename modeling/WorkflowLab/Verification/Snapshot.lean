import WorkflowLab.Json.Printer
import WorkflowLab.Json.Serializer
import WorkflowLab.Json.Short
import WorkflowLab.Text.Base64
import WorkflowLab.Time.Timestamp
import WorkflowLab.Verification.Workspace

/-!
# Snapshots of workflows

A snapshot holds the nodes of a workspace and a time: JSON text without blanks and with sorted keys, so that nothing
hangs on their order, in base 64.

- `snapshotDocument`, `snapshotText`, `snapshot`: the document, its text, and the snapshot;
- `takeSnapshot`: the snapshot that a serializer makes, or why there is none, `SnapshotFault`.
-/

namespace WorkflowLab.Verification

open Time

/-- The documents of nodes with a time. -/
def stamped (documents : List Json) (time : Timestamp) : Json :=
  .obj [("workflow", .arr documents), ("timestamp", .str time.iso)]

/-- What a snapshot holds. -/
def snapshotDocument (nodes : List Node) (time : Timestamp) : Json :=
  stamped (nodes.map fun n => n.listing.finite) time

/-- A document without blanks and with sorted keys. All its characters are ASCII. -/
def compactText (document : Json) : List Char := document.sortKeys.renderAt Json.compact 0

/-- The text of a snapshot. -/
def snapshotText (nodes : List Node) (time : Timestamp) : List Char := compactText (snapshotDocument nodes time)

/-- The bytes of a text of ASCII characters. -/
def asciiBytes (text : List Char) : List UInt8 := text.map fun c => UInt8.ofNat c.toNat

/-- A text of ASCII characters in base 64. -/
def encoded (text : List Char) : String := String.ofList (Text.Base64.encode (asciiBytes text))

/-- The snapshot of some nodes at a time. -/
def snapshot (nodes : List Node) (time : Timestamp) : String := encoded (snapshotText nodes time)

/-- Why there is no snapshot. -/
inductive SnapshotFault where
  /-- The serializer refuses a node. -/
  | refused (message : String)
  /-- An integer has too many digits to be written. -/
  | hugeInteger
deriving DecidableEq, Repr

/-- The fault in words. -/
def SnapshotFault.message : SnapshotFault → String
  | .refused message => message
  | .hugeInteger => Number.unwritableIntegerMessage

/-- Takes a snapshot of some nodes. -/
def takeSnapshot (s : Serializer) (nodes : List Node) (time : Timestamp) : Except SnapshotFault String :=
  match nodes.mapM fun n => s.record n.listing with
  | .error message => .error (.refused message)
  | .ok documents =>
    if (stamped documents time).isShort then .ok (encoded (compactText (stamped documents time)))
    else .error .hugeInteger

/-- The text of a snapshot, read back. -/
def decodeSnapshot? (s : String) : Option (List Char) :=
  (Text.Base64.decode? s.toList).map fun bytes => bytes.map fun b => Char.ofNat b.toNat

end WorkflowLab.Verification
