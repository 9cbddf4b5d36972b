import WorkflowLab.Intake.Checked
import WorkflowLab.Number.Text

/-!
# Numbers in texts of documents

Documents may give a number as a text.

- `integerOfText`: an integer with blanks around it, a plus sign, zeros in front, and a point with zeros behind it;
- `doubleOfText?`: a numeral with blanks around it, or the name of a double that is not finite.

Both may be grouped by underscores (`joinGroups?`). Zeros in front of an integer are passed over together with the
underscores among them, so that what stands after them, a minus sign included, is read as if it stood alone.
-/

namespace WorkflowLab.Intake

/-! ## Groups -/

/-- The text without the underscores that group it; `none` when one of them leads the text, trails it or follows
another one. `isOpen` tells whether an underscore may end a group here. -/
def joinGroups? : (isOpen : Bool) → List Char → Option (List Char)
  | isOpen, [] => if isOpen then some [] else none
  | isOpen, c :: rest =>
    if c = '_' then if isOpen then joinGroups? false rest else none
    else (joinGroups? true rest).map (c :: ·)

/-! ## Integers -/

/-- What is left after a zero in front: zeros and underscores are passed over up to another digit, a minus sign or a
point, and the character that was passed last stays when a point or nothing follows. -/
def afterZero? : (last : Char) → List Char → Option (List Char)
  | last, [] => some [last]
  | last, c :: rest =>
    if c = '0' ∨ c = '_' then afterZero? c rest
    else if c = '.' then some (last :: c :: rest)
    else if c.isDigit ∨ c = '-' then some (c :: rest)
    else none

/-- The text without zeros in front; `none` when it starts neither with a digit nor with a minus sign. -/
def dropZeros? : List Char → Option (List Char)
  | [] => none
  | c :: rest =>
    if c = '0' then afterZero? c rest
    else if c.isDigit ∨ c = '-' then some (c :: rest)
    else none

/-- The text without a point that zeros follow, at least one and nothing else. -/
def dropZeroFraction (text : List Char) : List Char :=
  match text.dropWhile (· != '.') with
  | '.' :: zeros => if zeros ≠ [] ∧ zeros.all (· == '0') then text.takeWhile (· != '.') else text
  | _ => text

/-- The text without a plus sign in front; `none` when a minus sign follows it. -/
def dropPlus? : List Char → Option (List Char)
  | '+' :: '-' :: _ => none
  | '+' :: rest => some rest
  | text => some text

/-- The text of an integer without what may surround and group its digits. -/
def bareInteger? (text : List Char) : Option (List Char) := do
  joinGroups? false (dropZeroFraction (← dropZeros? (← dropPlus? (trimNumeral text))))

/-- Reads an integer from a text. One beyond 64 bits may have only so many characters. -/
def integerOfText (s : String) : Checked Int :=
  match bareInteger? s.toList with
  | none => .fault .integerText
  | some bare =>
    let (negative, digits) := splitSign bare
    if digits ≠ [] ∧ digits.all Char.isDigit then
      let size : Int := Nat.ofDigitChars 10 digits 0
      let n := if negative then -size else size
      if isWord n ∨ bare.length ≤ Number.maxIntegerDigits then .good n else .fault .integerSize
    else .fault .integerText

/-! ## Doubles -/

/-- Reads a double from a text. Blanks around it and groups exclude each other. -/
def doubleOfText? (text : List Char) : Option Float :=
  (readSigned? (trimNumeral text)).orElse fun _ => (joinGroups? false text).bind readSigned?

end WorkflowLab.Intake
