import WorkflowLab.Json.Depth
import WorkflowLab.Json.Finite

/-!
# Documents for clients

What a program holds is made into documents by a serializer, which may refuse it. The library takes any serializer: what
it refuses, and in which words, is its own affair.

- `Serializer`: documents of values of any form, and of records;
- `Serializer.bounded`: one that refuses what has too many levels.
-/

namespace WorkflowLab

/-- Makes documents of values and of records, or says why there is none. -/
structure Serializer where
  /-- The document of a value of any form. -/
  value : Json → Except String Json
  /-- The document of a record, whose members are given. -/
  record : Json → Except String Json

namespace Serializer

/-- The complaint about too many levels. -/
def depthMessage : String := "Maximum serialization depth exceeded"

/-- A value, unless it has more levels than a limit. -/
def within (levels : Nat) (v : Json) : Except String Json :=
  if v.depth ≤ levels then .ok v else .error depthMessage

/-- The serializer with a limit for the levels of values and one for those of records. In the documents of records, null
stands for doubles that are not finite. -/
def bounded (levels recordLevels : Nat) : Serializer where
  value := within levels
  record members := (within recordLevels members).map Json.finite

end Serializer

end WorkflowLab
