import WorkflowLab.Text.Case.Table
import WorkflowLab.Text.Ranges

/-!
# Upper and lower case

Full case mapping of a text: one letter may become several, and a capital sigma becomes a final sigma at the end
of a word.

- `upper`, `lower`: the two mappings on texts;
- `endsWord`: the rule for the final sigma.
-/

namespace WorkflowLab.Text

/-- Whether a run maps the code point `n`. -/
def CaseRun.covers (r : CaseRun) (n : Nat) : Bool :=
  r.first ≤ n && n ≤ r.last && (n - r.first) % r.step == 0

/-- The case image of one letter under special mappings and runs; other characters stay as they are. -/
def caseImage (special : List (Nat × List Nat)) (runs : List CaseRun) (c : Char) : List Char :=
  match special.lookup c.toNat with
  | some image => image.map Char.ofNat
  | none =>
    match runs.find? (·.covers c.toNat) with
    | some r => [Char.ofNat (c.toNat + r.shift).toNat]
    | none => [c]

/-- The greek capital sigma. -/
def capitalSigma : Char := 'Σ'

/-- The first character that is not passed over belongs to a word. -/
def touchesWord (around : List Char) : Bool :=
  match around.dropWhile (inRanges caseIgnorableRanges) with
  | [] => false
  | c :: _ => inRanges casedRanges c

/-- A sigma ends a word when a cased letter precedes it and none follows it; `before` is read backwards. -/
def endsWord (before after : List Char) : Bool := touchesWord before && !touchesWord after

/-- Lower case of the rest of a text whose earlier characters, last first, are `before`. -/
def lowerFrom (before : List Char) : List Char → List Char
  | [] => []
  | c :: rest =>
    (if c = capitalSigma then [if endsWord before rest then 'ς' else 'σ']
      else caseImage lowerSpecial lowerRuns c) ++ lowerFrom (c :: before) rest

/-- The text in lower case. -/
def lower (text : String) : String := String.ofList (lowerFrom [] text.toList)

/-- The text in upper case. -/
def upper (text : String) : String :=
  String.ofList (text.toList.flatMap (caseImage upperSpecial upperRuns))

end WorkflowLab.Text
