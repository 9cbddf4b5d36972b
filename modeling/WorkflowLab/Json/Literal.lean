import WorkflowLab.Json.Basic
import WorkflowLab.Number.Text
import WorkflowLab.Text.Printable

/-!
# Values in messages

Messages show settings and log fields as literals: `None`, `True`, numbers, quoted texts, and lists and maps of
these.

- `quote`: a text in single quotes, or in double quotes when it holds single ones only;
- `literal`: a value as a literal;
- `display`: a text as it is, any other value as a literal.
-/

namespace WorkflowLab.Json

/-- The last `width` hexadecimal digits of a number. -/
def hexDigits (width n : Nat) : List Char :=
  ((List.range width).map fun i => Nat.digitChar (n / twoTo (4 * i) % 16)).reverse

/-- A character inside quotes. -/
def quoteChar (mark c : Char) : List Char :=
  if c = mark ∨ c = '\\' then ['\\', c]
  else if c = '\n' then ['\\', 'n']
  else if c = '\r' then ['\\', 'r']
  else if c = '\t' then ['\\', 't']
  else if Text.isPrintable c then [c]
  else if c.toNat < 256 then '\\' :: 'x' :: hexDigits 2 c.toNat
  else if c.toNat < 65536 then '\\' :: 'u' :: hexDigits 4 c.toNat
  else '\\' :: 'U' :: hexDigits 8 c.toNat

/-- The mark around a quoted text. -/
def quoteMark (text : List Char) : Char :=
  if text.contains '\'' && !text.contains '"' then '"' else '\''

/-- A quoted text. -/
def quoteChars (text : List Char) : List Char :=
  let mark := quoteMark text
  mark :: (text.flatMap (quoteChar mark) ++ [mark])

/-- A quoted text. -/
def quote (s : String) : String := String.ofList (quoteChars s.toList)

mutual

/-- The characters of a literal. -/
def literalChars : Json → List Char
  | .null => "None".toList
  | .bool true => "True".toList
  | .bool false => "False".toList
  | .num n => n.render plainNumeral
  | .str s => quoteChars s.toList
  | .arr [] => ['[', ']']
  | .arr (x :: xs) => '[' :: (literalChars x ++ literalItems xs ++ [']'])
  | .obj [] => ['{', '}']
  | .obj ((k, v) :: rest) =>
    '{' :: (quoteChars k.toList ++ [':', ' '] ++ literalChars v ++ literalMembers rest ++ ['}'])

/-- The items of a literal list after its first. -/
def literalItems : List Json → List Char
  | [] => []
  | x :: xs => ',' :: ' ' :: (literalChars x ++ literalItems xs)

/-- The members of a literal map after its first. -/
def literalMembers : List (String × Json) → List Char
  | [] => []
  | (k, v) :: rest =>
    ',' :: ' ' :: (quoteChars k.toList ++ [':', ' '] ++ literalChars v ++ literalMembers rest)

end

/-- A value as a literal. -/
def literal (v : Json) : String := String.ofList (literalChars v)

/-- A value in running text. -/
def display : Json → String
  | .str s => s
  | v => v.literal

end WorkflowLab.Json
