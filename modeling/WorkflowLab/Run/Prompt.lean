import WorkflowLab.Json.Literal
import WorkflowLab.Json.Printer
import WorkflowLab.Text.Search

/-!
# Prompts

A prompt is a template in which placeholders, names in double braces, stand for parts of a node's input.

- `stringifyValue`: a value as it appears in a prompt;
- `renderPrompt`: the placeholder `input` and then every key of the input are replaced, one after the other;
- `previewText`: the beginning of a text.
-/

namespace WorkflowLab.Run

/-- A value as it appears in a prompt: texts as they are, lists and maps as JSON text. -/
def stringifyValue : Json → String
  | .str s => s
  | .num n => n.text
  | v => v.render Json.spaced

/-- The placeholder for a name. -/
def placeholder (name : String) : List Char := '{' :: '{' :: (name.toList ++ ['}', '}'])

/-- Replaces the placeholder for a name by a value. -/
def substitute (text : List Char) (name : String) (value : Json) : List Char :=
  Text.replaceAll (placeholder name) (stringifyValue value).toList text

/-- The parts of an input that placeholders stand for: the whole under the name `input`, then the members of a map. -/
def promptParts (input : Json) : Fields :=
  ("input", input) :: match input with
    | .obj fields => fields
    | _ => []

/-- A template with its placeholders replaced. -/
def renderPrompt (template : String) (input : Json) : String :=
  String.ofList ((promptParts input).foldl (fun text part => substitute text part.1 part.2) template.toList)

/-- The first `limit` characters of a text, or all but the last `-limit` for a negative limit. -/
def firstChars (text : List Char) (limit : Int) : List Char :=
  if 0 ≤ limit then text.take limit.toNat else text.take (text.length - limit.natAbs)

/-- The beginning of a text, with three points after it when the text is longer than the limit. -/
def previewText (text : String) (limit : Int) : String :=
  String.ofList (firstChars text.toList limit ++ if limit < text.length then ['.', '.', '.'] else [])

/-- The length of previews in the log. -/
def previewLength : Int := 100

end WorkflowLab.Run
