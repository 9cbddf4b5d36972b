import WorkflowLab.Json.Basic
import WorkflowLab.Number.Text

/-!
# Reading JSON

- `readChars`, `readNumber`, `readValue`: a string, a number and a value at the start of a text, with what follows;
- `parseWithin`, `parse`: a text that is one value, with blanks around it, of a limited number of levels or of any;
- `ReadError`: why a text cannot be read; an integer may have at most `Number.maxIntegerDigits` digits.

Beyond plain JSON the words `NaN`, `Infinity` and `-Infinity` are read. A key that is repeated keeps its first place
and its last value.
-/

namespace WorkflowLab.Json

/-- Why a text cannot be read. -/
inductive ReadError where
  | malformed
  | hugeInteger (digits : Nat)
  /-- Lists and objects stand in each other deeper than the reader goes. -/
  | tooNested
  /-- A string has half of a surrogate pair by itself. No text of characters can stand for it. -/
  | halfPair
deriving DecidableEq, Repr

/-- The blanks between tokens. -/
def isSpace (c : Char) : Bool := c = ' ' || c = '\t' || c = '\n' || c = '\r'

/-- The text behind its leading blanks. -/
def skipSpace (text : List Char) : List Char := text.dropWhile isSpace

/-- The value of a hexadecimal digit. -/
def hexValue? (c : Char) : Option Nat :=
  if '0' ≤ c ∧ c ≤ '9' then some (c.toNat - 48)
  else if 'a' ≤ c ∧ c ≤ 'f' then some (c.toNat - 87)
  else if 'A' ≤ c ∧ c ≤ 'F' then some (c.toNat - 55)
  else none

/-- The value of four hexadecimal digits. -/
def hexUnit? (a b c d : Char) : Option Nat := do
  return (← hexValue? a) * 4096 + (← hexValue? b) * 256 + (← hexValue? c) * 16 + (← hexValue? d)

/-- The character behind a backslash. -/
def unescape? (c : Char) : Option Char :=
  if c = '"' then some '"'
  else if c = '\\' then some '\\'
  else if c = '/' then some '/'
  else if c = 'b' then some '\x08'
  else if c = 'f' then some '\x0c'
  else if c = 'n' then some '\n'
  else if c = 'r' then some '\r'
  else if c = 't' then some '\t'
  else none

/-- A part of a string: a character, or a 16-bit unit given by its number. -/
inductive Piece where
  | char (c : Char)
  | unit (n : Nat)
deriving DecidableEq

/-- The character of a surrogate pair. -/
def pairChar (high low : Nat) : Char := Char.ofNat (0x10000 + (high - 0xD800) * 1024 + (low - 0xDC00))

/-- The characters of the parts, two units that are a surrogate pair being one character. There are none if half of a
pair is without the other half. -/
def joinPieces? : List Piece → Option (List Char)
  | [] => some []
  | .char c :: rest => (joinPieces? rest).map (c :: ·)
  | .unit high :: .unit low :: rest =>
    if 0xD800 ≤ high ∧ high < 0xDC00 ∧ 0xDC00 ≤ low ∧ low < 0xE000 then
      (joinPieces? rest).map (pairChar high low :: ·)
    else if 0xD800 ≤ high ∧ high < 0xE000 then none
    else (joinPieces? (.unit low :: rest)).map (Char.ofNat high :: ·)
  | .unit n :: rest => if 0xD800 ≤ n ∧ n < 0xE000 then none else (joinPieces? rest).map (Char.ofNat n :: ·)

/-- Puts a part in front of the parts that were read. -/
def consPiece (p : Piece) (r : Option (List Piece × List Char)) : Option (List Piece × List Char) :=
  r.map fun q => (p :: q.1, q.2)

/-- Reads the parts of a string up to its closing quote. -/
def readPieces : List Char → Option (List Piece × List Char)
  | [] => none
  | '"' :: rest => some ([], rest)
  | '\\' :: 'u' :: a :: b :: c :: d :: rest =>
    match hexUnit? a b c d with
    | some n => consPiece (.unit n) (readPieces rest)
    | none => none
  | '\\' :: c :: rest =>
    match unescape? c with
    | some e => consPiece (.char e) (readPieces rest)
    | none => none
  | c :: rest => if c = '\\' ∨ c.toNat < 32 then none else consPiece (.char c) (readPieces rest)

/-- Reads the characters of a string up to its closing quote. -/
def readChars (text : List Char) : Except ReadError (List Char × List Char) :=
  match readPieces text with
  | none => .error .malformed
  | some (pieces, rest) =>
    match joinPieces? pieces with
    | none => .error .halfPair
    | some chars => .ok (chars, rest)

/-- The digits at the start of a text. -/
def leadingDigits (text : List Char) : List Char := text.takeWhile Char.isDigit

/-- The fraction at the start of a text: its digits and what follows. -/
def readFraction : List Char → List Char × List Char
  | '.' :: rest =>
    match leadingDigits rest with
    | [] => ([], '.' :: rest)
    | digits => (digits, rest.drop digits.length)
  | text => ([], text)

/-- The exponent at the start of a text, and what follows; `none` when there is no complete exponent. -/
def readExponentPart (text : List Char) : Option Int × List Char :=
  match text with
  | mark :: rest =>
    if mark = 'e' ∨ mark = 'E' then
      let (negative, body) := splitSign rest
      match leadingDigits body with
      | [] => (none, text)
      | digits =>
        let n : Int := Nat.ofDigitChars 10 digits 0
        (some (if negative then -n else n), body.drop digits.length)
    else (none, text)
  | [] => (none, [])

/-- The integer part at the start of a text: a zero, or digits that do not start with one. -/
def readWhole : List Char → Option (List Char × List Char)
  | '0' :: rest => some (['0'], rest)
  | text =>
    match leadingDigits text with
    | [] => none
    | digits => some (digits, text.drop digits.length)

/-- Reads a number without sign. -/
def readMagnitude (negative : Bool) (text : List Char) : Except ReadError (Number × List Char) :=
  match readWhole text with
  | none => .error .malformed
  | some (whole, rest) =>
    let (fraction, rest) := readFraction rest
    let (exponent, rest) := readExponentPart rest
    if fraction.isEmpty && exponent.isNone then
      if Number.maxIntegerDigits < whole.length then .error (.hugeInteger whole.length)
      else
        let n : Int := Nat.ofDigitChars 10 whole 0
        .ok (.int (if negative then -n else n), rest)
    else
      let x := Binary.ofDecimal (Nat.ofDigitChars 10 (whole ++ fraction) 0) (exponent.getD 0 - fraction.length)
      .ok (.float (Binary.signed negative x), rest)

/-- What follows a word, if the text starts with it. -/
def dropWord? (word : String) (text : List Char) : Option (List Char) :=
  if word.toList.isPrefixOf text then some (text.drop word.length) else none

/-- Reads a number, or the name of a double that is not finite. -/
def readNumber (text : List Char) : Except ReadError (Number × List Char) :=
  match text with
  | '-' :: rest =>
    match dropWord? "Infinity" rest with
    | some after => .ok (.float (-Binary.infinity), after)
    | none => readMagnitude true rest
  | _ => readMagnitude false text

/-- Reads a word that stands for a value. -/
def readWord? (text : List Char) : Option (Json × List Char) :=
  let word (w : String) (v : Json) := (dropWord? w text).map (v, ·)
  (word "null" .null).orElse fun _ => (word "true" (.bool true)).orElse fun _ =>
    (word "false" (.bool false)).orElse fun _ => (word "NaN" (.float Binary.nan)).orElse fun _ =>
      word "Infinity" (.float Binary.infinity)

/-- The levels that are left inside a list or an object; `none` is no limit. -/
def enter : Option Nat → Except ReadError (Option Nat)
  | none => .ok none
  | some 0 => .error .tooNested
  | some (levels + 1) => .ok (some levels)

mutual

/-- Reads a value at the start of a text. `fuel` bounds the recursion, which every text ends before; `levels` is how
many lists and objects may still stand in each other. -/
def readValue (fuel : Nat) (levels : Option Nat) (text : List Char) : Except ReadError (Json × List Char) :=
  match fuel with
  | 0 => .error .malformed
  | fuel + 1 =>
    match text with
    | '"' :: rest => do
      let (chars, after) ← readChars rest
      return (.str (String.ofList chars), after)
    | '[' :: rest => do
      let levels ← enter levels
      match skipSpace rest with
      | ']' :: after => return (.arr [], after)
      | inner =>
        let (items, after) ← readItems fuel levels inner
        return (.arr items, after)
    | '{' :: rest => do
      let levels ← enter levels
      match skipSpace rest with
      | '}' :: after => return (.obj [], after)
      | inner =>
        let (fields, after) ← readMembers fuel levels [] inner
        return (.obj fields, after)
    | _ =>
      match readWord? text with
      | some r => .ok r
      | none => do
        let (n, after) ← readNumber text
        return (.num n, after)

/-- Reads at least one item, up to the closing bracket. -/
def readItems (fuel : Nat) (levels : Option Nat) (text : List Char) : Except ReadError (List Json × List Char) :=
  match fuel with
  | 0 => .error .malformed
  | fuel + 1 => do
    let (v, rest) ← readValue fuel levels text
    match skipSpace rest with
    | ']' :: after => return ([v], after)
    | ',' :: after =>
      let (vs, after) ← readItems fuel levels (skipSpace after)
      return (v :: vs, after)
    | _ => .error .malformed

/-- Reads at least one member, up to the closing brace; `acc` holds the members read before. -/
def readMembers (fuel : Nat) (levels : Option Nat) (acc : Fields) (text : List Char) :
    Except ReadError (Fields × List Char) :=
  match fuel with
  | 0 => .error .malformed
  | fuel + 1 =>
    match text with
    | '"' :: rest => do
      let (key, after) ← readChars rest
      match skipSpace after with
      | ':' :: after =>
        let (v, rest) ← readValue fuel levels (skipSpace after)
        let acc := acc.set (String.ofList key) v
        match skipSpace rest with
        | '}' :: after => return (acc, after)
        | ',' :: after => readMembers fuel levels acc (skipSpace after)
        | _ => .error .malformed
      | _ => .error .malformed
    | _ => .error .malformed

end

/-- Reads a text that is one value, of as many levels as the reader goes down. -/
def parseWithin (levels : Option Nat) (text : List Char) : Except ReadError Json := do
  let (v, rest) ← readValue (2 * text.length + 2) levels (skipSpace text)
  match skipSpace rest with
  | [] => return v
  | _ => .error .malformed

/-- Reads a text that is one value, of any number of levels. -/
def parse (text : List Char) : Except ReadError Json := parseWithin none text

end WorkflowLab.Json
