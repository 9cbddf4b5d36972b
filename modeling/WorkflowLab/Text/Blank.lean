import WorkflowLab.Text.Ranges

/-!
# Blank characters

- `isBlank`: the characters that part words, ASCII blanks and separators together with the Unicode spaces;
- `words`: the maximal runs of other characters.
-/

namespace WorkflowLab.Text

/-- Code point ranges of the blank characters. -/
def blankRanges : List (Nat × Nat) := [
  (9, 13), (28, 32), (133, 133), (160, 160), (5760, 5760), (8192, 8202), (8232, 8233), (8239, 8239),
  (8287, 8287), (12288, 12288)]

/-- A character that parts words. -/
def isBlank (c : Char) : Bool := inRanges blankRanges c

/-- Collects the words of a text; `word` holds the current word, last character first. -/
def wordsFrom (word : List Char) : List Char → List (List Char)
  | [] => if word.isEmpty then [] else [word.reverse]
  | c :: rest =>
    if isBlank c then
      if word.isEmpty then wordsFrom [] rest else word.reverse :: wordsFrom [] rest
    else wordsFrom (c :: word) rest

/-- The words of a text, in order. -/
def words (text : List Char) : List (List Char) := wordsFrom [] text

end WorkflowLab.Text
