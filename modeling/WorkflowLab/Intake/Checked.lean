import WorkflowLab.Intake.Issue
import WorkflowLab.Json.Basic

/-!
# Checked values

- `Checked`: a value that was read from a document, or the issues that stood in the way; reading several parts collects
  the issues of all of them;
- `Member`: a member of an object under its names, `required` or `optional`;
- `Checked.all`: a list, item by item;
- `extras`: the members that a form does not know, which it keeps as they are.
-/

namespace WorkflowLab.Intake

/-- The result of reading a part of a document. -/
inductive Checked (α : Type) where
  | good (value : α)
  | bad (issues : List Issue)

namespace Checked

variable {α β : Type}

/-- Applies a function to the value. -/
def map (f : α → β) : Checked α → Checked β
  | .good a => .good (f a)
  | .bad issues => .bad issues

/-- Applies a function that was read to a value that was read, collecting the issues of both. -/
def ap : Checked (α → β) → Checked α → Checked β
  | .good f, .good a => .good (f a)
  | .good _, .bad issues => .bad issues
  | .bad issues, .good _ => .bad issues
  | .bad issues, .bad more => .bad (issues ++ more)

/-- A further test of a value that was read. -/
def andThen (c : Checked α) (f : α → Checked β) : Checked β :=
  match c with
  | .good a => f a
  | .bad issues => .bad issues

instance : Functor Checked := ⟨map, fun a => map fun _ => a⟩

instance : Applicative Checked where
  pure := .good
  seq f a := ap f (a ())

/-- A single issue at this place. -/
def fault (cause : Cause) : Checked α := .bad [⟨[], cause⟩]

/-- Places the issues one step further down. -/
def under (step : Step) : Checked α → Checked α
  | .good a => .good a
  | .bad issues => .bad (issues.map fun i => { i with place := step :: i.place })

/-- Reads the items of a list, the first one having the given index. -/
def allFrom (read : Json → Checked α) : Nat → List Json → Checked (List α)
  | _, [] => .good []
  | i, v :: rest => ap (map List.cons ((read v).under (.index i))) (allFrom read (i + 1) rest)

/-- Reads the items of a list. -/
def all (read : Json → Checked α) (items : List Json) : Checked (List α) := allFrom read 0 items

/-- Reads the values of members. -/
def members (read : Json → Checked α) : Fields → Checked (List (String × α))
  | [] => .good []
  | (k, v) :: rest => ap (map (fun a r => (k, a) :: r) ((read v).under (.key k))) (members read rest)

/-- The value, or the issues as an error. -/
def toExcept : Checked α → Except (List Issue) α
  | .good a => .ok a
  | .bad issues => .error issues

end Checked

/-- A member of a form: the names under which a document may give it, the first one counting when it gives several, and
the name under which it is kept. -/
structure Member where
  names : List String
  keptAs : String

namespace Member

/-- A member with one name. -/
def plain (name : String) : Member := ⟨[name], name⟩

/-- A member with a name for documents and one for listings. -/
def aliased (wire name : String) : Member := ⟨[wire, name], name⟩

/-- The name and value under which an object gives the member. -/
def find? (m : Member) (fields : Fields) : Option (String × Json) :=
  m.names.findSome? fun name => (fields.get? name).map (name, ·)

/-- The name under which a missing member is reported, and under which documents write it. -/
def wireName (m : Member) : String := m.names.headD m.keptAs

variable {α : Type}

/-- Reads a member that has to be there. -/
def required (m : Member) (fields : Fields) (read : Json → Checked α) : Checked α :=
  match m.find? fields with
  | some (name, v) => (read v).under (.key name)
  | none => .bad [⟨[.key m.wireName], .missing⟩]

/-- Reads a member that may be missing. -/
def optional (m : Member) (fields : Fields) (default : α) (read : Json → Checked α) : Checked α :=
  match m.find? fields with
  | some (name, v) => (read v).under (.key name)
  | none => .good default

end Member

/-- The members of an object that a form with the given members does not use. -/
def extras (form : List Member) (fields : Fields) : Fields :=
  let used := form.filterMap fun m => (m.find? fields).map (·.1)
  fields.filter fun f => !used.contains f.1

/-- Reads a form from an object. -/
def readForm {α : Type} (form : String) (read : Fields → Checked α) : Json → Checked α
  | .obj fields => read fields
  | _ => .fault (.notForm form)

/-- How a listing names the members. -/
inductive Naming where
  | wire
  | kept
deriving DecidableEq

/-- The members of a form with their values, and the extra members after them. -/
def listing (naming : Naming) (values : List (Member × Json)) (extra : Fields) : Json :=
  let name (m : Member) := match naming with
    | .wire => m.wireName
    | .kept => m.keptAs
  .obj (Fields.merge (values.map fun p => (name p.1, p.2)) extra)

end WorkflowLab.Intake
