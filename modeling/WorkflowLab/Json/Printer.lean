import WorkflowLab.Json.Basic
import WorkflowLab.Number.Text

/-!
# Writing JSON

- `Style`: the decisions of a layout: separators, indentation, whether characters outside ASCII are escaped;
- `renderString`, `render`: the text of a string and of a value;
- `spaced`, `indented`, `compact`: the three layouts in use;
- `sortKeys`: a value with the keys of all its objects in order of code points.
-/

namespace WorkflowLab.Json

/-- A layout of JSON text. With `indent = some n` every item stands on a line of its own. -/
structure Style where
  itemSeparator : List Char
  keySeparator : List Char
  indent : Option Nat
  escapeNonAscii : Bool

/-- One line, a blank after each separator, ASCII only. -/
def spaced : Style := ⟨[',', ' '], [':', ' '], none, true⟩

/-- One item a line, two blanks a level, characters as they are. -/
def indented : Style := ⟨[','], [':', ' '], some 2, false⟩

/-- No blanks, ASCII only. -/
def compact : Style := ⟨[','], [':'], none, true⟩

/-- A hexadecimal digit in lower case. -/
def hexDigit (n : Nat) : Char := Nat.digitChar (n % 16)

/-- The escape of a 16-bit unit. -/
def escapeUnit (n : Nat) : List Char :=
  ['\\', 'u', hexDigit (n / 4096), hexDigit (n / 256), hexDigit (n / 16), hexDigit n]

/-- The escape of a character, a surrogate pair beyond the basic plane. -/
def escapeCode (c : Char) : List Char :=
  if c.toNat < 65536 then escapeUnit c.toNat
  else
    let n := c.toNat - 65536
    escapeUnit (0xD800 + n / 1024) ++ escapeUnit (0xDC00 + n % 1024)

/-- The short escape of a character, if it has one. -/
def shortEscape? (c : Char) : Option Char :=
  if c = '"' then some '"'
  else if c = '\\' then some '\\'
  else if c = '\n' then some 'n'
  else if c = '\r' then some 'r'
  else if c = '\t' then some 't'
  else if c = '\x08' then some 'b'
  else if c = '\x0c' then some 'f'
  else none

/-- A character inside a string. -/
def renderChar (style : Style) (c : Char) : List Char :=
  match shortEscape? c with
  | some e => ['\\', e]
  | none =>
    if c.toNat < 32 || (style.escapeNonAscii && 127 ≤ c.toNat) then escapeCode c else [c]

/-- A quoted string. -/
def renderString (style : Style) (s : String) : List Char :=
  '"' :: (s.toList.flatMap (renderChar style) ++ ['"'])

/-- A line break and the indentation of a level, in a layout with lines. -/
def breakLine (style : Style) (level : Nat) : List Char :=
  match style.indent with
  | some n => '\n' :: List.replicate (n * level) ' '
  | none => []

mutual

/-- The text of a value that stands at a level of nesting. -/
def renderAt (style : Style) (level : Nat) : Json → List Char
  | .null => "null".toList
  | .bool true => "true".toList
  | .bool false => "false".toList
  | .num n => n.render jsonNumeral
  | .str s => renderString style s
  | .arr [] => ['[', ']']
  | .arr (x :: xs) =>
    '[' :: (breakLine style (level + 1) ++ renderAt style (level + 1) x ++ renderItems style (level + 1) xs ++
      breakLine style level ++ [']'])
  | .obj [] => ['{', '}']
  | .obj ((k, v) :: rest) =>
    '{' :: (breakLine style (level + 1) ++ renderString style k ++ style.keySeparator ++
      renderAt style (level + 1) v ++ renderMembers style (level + 1) rest ++ breakLine style level ++ ['}'])

/-- The items of a list after its first. -/
def renderItems (style : Style) (level : Nat) : List Json → List Char
  | [] => []
  | x :: xs =>
    style.itemSeparator ++ breakLine style level ++ renderAt style level x ++ renderItems style level xs

/-- The members of an object after its first. -/
def renderMembers (style : Style) (level : Nat) : List (String × Json) → List Char
  | [] => []
  | (k, v) :: rest =>
    style.itemSeparator ++ breakLine style level ++ renderString style k ++ style.keySeparator ++
      renderAt style level v ++ renderMembers style level rest

end

/-- The text of a value. -/
def render (style : Style) (v : Json) : String := String.ofList (renderAt style 0 v)

/-- Puts a member before the first one with a greater key. -/
def insertSorted (m : String × Json) : List (String × Json) → List (String × Json)
  | [] => [m]
  | n :: rest => if m.1 < n.1 then m :: n :: rest else n :: insertSorted m rest

mutual

/-- The value with the keys of all its objects in order. -/
def sortKeys : Json → Json
  | .arr items => .arr (sortItems items)
  | .obj fields => .obj (sortFields fields)
  | v => v

/-- Sorts the keys inside every item. -/
def sortItems : List Json → List Json
  | [] => []
  | x :: xs => sortKeys x :: sortItems xs

/-- Sorts members by key and the keys inside their values. -/
def sortFields : List (String × Json) → List (String × Json)
  | [] => []
  | (k, v) :: rest => insertSorted (k, sortKeys v) (sortFields rest)

end

end WorkflowLab.Json
