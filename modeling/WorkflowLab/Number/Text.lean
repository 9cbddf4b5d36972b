import WorkflowLab.Number.Basic
import WorkflowLab.Number.Shortest
import WorkflowLab.Text.Blank
import WorkflowLab.Text.Digit

/-!
# Numbers as text

- `Numeral`: how doubles are written, one record of decisions (`plainNumeral`, `jsonNumeral`);
- `Number.render`: the text of a number, a double by its shortest digits;
- `readDecimal?`: reads a decimal numeral with a point or an exponent;
- `readFloat?`: reads the text of a double as people write it, with blanks around, digits of any script and
  underscores between digits.
-/

namespace WorkflowLab

/-- How a double is written: positionally while its point falls after at most `widest` digits and after at least
`narrowest` zeros, with an exponent of at least two digits otherwise, and always with a point or an exponent. -/
structure Numeral where
  narrowest : Int
  widest : Int
  nan : String
  infinity : String

/-- Numerals in running text. -/
def plainNumeral : Numeral := ⟨-3, 16, "nan", "inf"⟩

/-- Numerals in JSON text. -/
def jsonNumeral : Numeral := ⟨-3, 16, "NaN", "Infinity"⟩

namespace Number

/-- The greatest number of digits that the text of an integer may have. -/
def maxIntegerDigits : Nat := 4300

/-- The complaint about the text of an integer with too many digits. -/
def hugeIntegerMessage (digits : Nat) : String :=
  "Exceeds the limit (" ++ toString maxIntegerDigits ++ " digits) for integer string conversion: value has " ++
    toString digits ++ " digits; use sys.set_int_max_str_digits() to increase the limit"

/-- The complaint about an integer with too many digits that is to be written. -/
def unwritableIntegerMessage : String :=
  "Exceeds the limit (" ++ toString maxIntegerDigits ++ " digits) for integer string conversion; " ++
    "use sys.set_int_max_str_digits() to increase the limit"

/-- The decimal digits of a natural number. -/
def natDigits (n : Nat) : List Char := Nat.toDigits 10 n

/-- An integer in decimal, with a minus sign when it is negative. -/
def renderInt (n : Int) : List Char :=
  if n < 0 then '-' :: natDigits n.natAbs else natDigits n.natAbs

/-- The exponent mark with sign and at least two digits. -/
def renderExponent (e : Int) : List Char :=
  let digits := natDigits e.natAbs
  'e' :: (if e < 0 then '-' else '+') :: (if digits.length < 2 then '0' :: digits else digits)

/-- Decimal digits whose point stands after `point` of them. -/
def renderDigits (form : Numeral) (digits : List Char) (point : Int) : List Char :=
  if form.narrowest ≤ point ∧ point ≤ form.widest then
    if point ≤ 0 then '0' :: '.' :: (List.replicate (-point).toNat '0' ++ digits)
    else
      let p := point.toNat
      if digits.length ≤ p then digits ++ List.replicate (p - digits.length) '0' ++ ['.', '0']
      else digits.take p ++ '.' :: digits.drop p
  else
    match digits with
    | [d] => d :: renderExponent (point - 1)
    | d :: rest => d :: '.' :: (rest ++ renderExponent (point - 1))
    | [] => []

/-- A double by its shortest digits. -/
def renderFloat (form : Numeral) (x : Float) : List Char :=
  match Binary.parts x with
  | .nan => form.nan.toList
  | .infinite negative => (if negative then ['-'] else []) ++ form.infinity.toList
  | .finite negative m e =>
    (if negative then ['-'] else []) ++
      if m = 0 then ['0', '.', '0']
      else
        let d := Binary.shortest m e
        let digits := natDigits d.digits
        renderDigits form digits (digits.length + d.exponent)

/-- The text of a number. -/
def render (form : Numeral) : Number → List Char
  | .int n => renderInt n
  | .float x => renderFloat form x

/-- The text of a number in running text. -/
def text (a : Number) : String := String.ofList (a.render plainNumeral)

end Number

/-- Reads an exponent: a mark, an optional sign and at least one digit, up to the end of the text. -/
def readExponent? : List Char → Option Int
  | [] => some 0
  | mark :: rest =>
    if mark = 'e' ∨ mark = 'E' then
      let (negative, digits) :=
        match rest with
        | '-' :: ds => (true, ds)
        | '+' :: ds => (false, ds)
        | ds => (false, ds)
      if digits ≠ [] ∧ digits.all Char.isDigit then
        let n : Int := Nat.ofDigitChars 10 digits 0
        some (if negative then -n else n)
      else none
    else none

/-- Reads a decimal numeral without sign: digits with at most one point, at least one digit, and perhaps an exponent. -/
def readDecimal? (text : List Char) : Option Float :=
  let whole := text.takeWhile Char.isDigit
  let rest := text.dropWhile Char.isDigit
  let (fraction, rest) :=
    match rest with
    | '.' :: r => (r.takeWhile Char.isDigit, r.dropWhile Char.isDigit)
    | r => ([], r)
  if whole = [] ∧ fraction = [] then none
  else (readExponent? rest).map fun e =>
    Binary.ofDecimal (Nat.ofDigitChars 10 (whole ++ fraction) 0) (e - fraction.length)

/-- A text without sign, and whether the sign was a minus. -/
def splitSign : List Char → Bool × List Char
  | '-' :: rest => (true, rest)
  | '+' :: rest => (false, rest)
  | rest => (false, rest)

/-- Reads the names of the doubles that are not finite, in any letter case. -/
def readNamed? (text : List Char) : Option Float :=
  match String.ofList (text.map Char.toLower) with
  | "inf" | "infinity" => some Binary.infinity
  | "nan" => some Binary.nan
  | _ => none

/-- Reads a numeral with an optional sign, or the name of a double that is not finite. -/
def readSigned? (text : List Char) : Option Float :=
  let (negative, rest) := splitSign text
  ((readNamed? rest).orElse fun _ => readDecimal? rest).map (Binary.signed negative)

/-- Drops underscores that stand between two digits; `none` when one stands elsewhere. -/
def dropUnderscores? : (afterDigit : Bool) → List Char → Option (List Char)
  | _, [] => some []
  | afterDigit, c :: rest =>
    if c = '_' then
      match rest with
      | d :: _ => if afterDigit && d.isDigit then dropUnderscores? false rest else none
      | [] => none
    else (dropUnderscores? c.isDigit rest).map (c :: ·)

/-- A blank that may stand around a numeral: not one of the four information separators. -/
def isNumeralBlank (c : Char) : Bool :=
  Text.isBlank c && !(28 ≤ c.toNat && c.toNat ≤ 31)

/-- A decimal digit of any script as an ASCII digit; other characters as they are. -/
def asciiDigit (c : Char) : Char :=
  match Text.digitValue? c with
  | some d => Char.ofNat (48 + d)
  | none => c

/-- The text without the blanks that may stand around a numeral. -/
def trimNumeral (text : List Char) : List Char :=
  ((text.dropWhile isNumeralBlank).reverse.dropWhile isNumeralBlank).reverse

/-- Reads a double as people write it. -/
def readFloat? (text : List Char) : Option Float := do
  readSigned? (← dropUnderscores? false ((trimNumeral text).map asciiDigit))

end WorkflowLab
