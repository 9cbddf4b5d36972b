/-!
# Searching in texts

- `occursIn`: whether one text stands somewhere in another;
- `replaceAll`: every occurrence of a text replaced, found from left to right and never overlapping;
- `split`: the pieces of a text between the occurrences of a character (`split_ne_nil`: at least one piece).
-/

namespace WorkflowLab.Text

/-- Whether `needle` stands somewhere in the text. -/
def occursIn (needle : List Char) : List Char → Bool
  | [] => needle.isEmpty
  | c :: rest => needle.isPrefixOf (c :: rest) || occursIn needle rest

/-- Replaces `old` by `new` in the text behind its first `skip` characters, which an occurrence has used up. -/
def replaceFrom (old new : List Char) : Nat → List Char → List Char
  | _, [] => []
  | skip + 1, _ :: rest => replaceFrom old new skip rest
  | 0, c :: rest =>
    if old.isPrefixOf (c :: rest) then new ++ replaceFrom old new (old.length - 1) rest
    else c :: replaceFrom old new 0 rest

/-- Replaces every occurrence of the non-empty text `old` by `new`. -/
def replaceAll (old new text : List Char) : List Char := replaceFrom old new 0 text

/-- The pieces of a text between the occurrences of `sep`. -/
def split (sep : Char) : List Char → List (List Char)
  | [] => [[]]
  | c :: rest =>
    if c = sep then [] :: split sep rest
    else
      match split sep rest with
      | [] => [[c]]
      | piece :: pieces => (c :: piece) :: pieces

/-- A split has at least one piece. -/
theorem split_ne_nil (sep : Char) (text : List Char) : split sep text ≠ [] := by
  cases text with
  | nil => simp [split]
  | cons c rest =>
    rw [split]
    split
    · simp
    · split <;> simp

/-- The texts one after the other, with `sep` between neighbours. -/
def joinWith (sep : String) (parts : List String) : String := String.intercalate sep parts

end WorkflowLab.Text
