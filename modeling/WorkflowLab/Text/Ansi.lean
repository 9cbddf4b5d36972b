/-!
# Colour sequences

Terminal colour sequences are an escape character, an opening bracket, digits and semicolons, and the letter `m`.

- `colourLength?`: the length of the colour sequence at the start of a text;
- `stripColours`: a text without its colour sequences, removed in one pass from left to right.
-/

namespace WorkflowLab.Text.Ansi

/-- The character that opens an escape sequence. -/
def escape : Char := '\x1b'

/-- A character between the bracket and the final letter. -/
def isParameter (c : Char) : Bool := c.isDigit || c = ';'

/-- The length of the colour sequence with which the text starts. -/
def colourLength? : List Char → Option Nat
  | e :: b :: rest =>
    if e = escape ∧ b = '[' then
      match rest.dropWhile isParameter with
      | 'm' :: _ => some ((rest.takeWhile isParameter).length + 3)
      | _ => none
    else none
  | _ => none

/-- Removes the colour sequences from the text behind its first `skip` characters. -/
def stripFrom : Nat → List Char → List Char
  | _, [] => []
  | skip + 1, _ :: rest => stripFrom skip rest
  | 0, c :: rest =>
    match colourLength? (c :: rest) with
    | some n => stripFrom (n - 1) rest
    | none => c :: stripFrom 0 rest

/-- The text without colour sequences. -/
def stripColours (text : String) : String := String.ofList (stripFrom 0 text.toList)

end WorkflowLab.Text.Ansi
