import WorkflowLab.Json.Equality
import WorkflowLab.Json.Literal
import WorkflowLab.Number.Places

/-!
# Message templates

A template is a text with conversions, which begin with a percent sign and stand for arguments: `%s` for the next one,
`%(name)s` for one of a map, with flags, width and precision as usual.

- `Piece`, `pieces`: the parts of a template; two percent signs in a row stand for one;
- `TemplateFault`: why a template cannot be filled in;
- `expand`: a template with its arguments.
-/

namespace WorkflowLab.Diagnostics

/-! ## The parts of a template -/

/-- A size in a conversion: a number, or the next argument. -/
inductive Size where
  | given (n : Nat)
  | nextArgument
deriving DecidableEq, Repr

/-- A conversion, without its last character. -/
structure Conversion where
  key : Option (List Char)
  left : Bool
  plus : Bool
  blank : Bool
  zero : Bool
  full : Bool
  width : Option Size
  precision : Option Size
deriving DecidableEq, Repr

/-- A conversion with nothing between its first and its last character. -/
def Conversion.plain : Conversion := ⟨none, false, false, false, false, false, none, none⟩

/-- A part of a template. -/
inductive Piece where
  | plain (c : Char)
  /-- A conversion, its last character and the index of that. -/
  | conversion (spec : Conversion) (last : Char) (index : Nat)
  /-- A conversion that the template breaks off. -/
  | unfinished (spec : Conversion)
  /-- A key that the template breaks off. -/
  | unfinishedKey
deriving DecidableEq, Repr

/-- How far the reading of a conversion has come. -/
inductive Stage where
  | first
  | key (depth : Nat) (read : List Char)
  | flags
  | width
  | widthDone
  | point
  | precision
  | precisionDone
  | last
deriving DecidableEq, Repr

/-- The value of a decimal digit. -/
def digitOf (c : Char) : Nat := c.toNat - 48

/-- One more digit of a size. -/
def Size.push (size : Option Size) (c : Char) : Option Size :=
  match size with
  | some (.given n) => some (.given (10 * n + digitOf c))
  | _ => some (.given (digitOf c))

/-- A mark of the size of an argument, which means nothing here. -/
def isLengthMark (c : Char) : Bool := c = 'h' || c = 'l' || c = 'L'

/-- Sets a flag, if the character is one. -/
def Conversion.flag? (spec : Conversion) (c : Char) : Option Conversion :=
  if c = '-' then some { spec with left := true }
  else if c = '+' then some { spec with plus := true }
  else if c = ' ' then some { spec with blank := true }
  else if c = '0' then some { spec with zero := true }
  else if c = '#' then some { spec with full := true }
  else none

/-- Reads one character after the precision or in place of it; `none` when it is the last one. -/
def afterSizes (spec : Conversion) (c : Char) : Option (Conversion × Stage) :=
  if isLengthMark c then some (spec, .last) else none

/-- Reads one character after the width or in place of it. -/
def afterWidth (spec : Conversion) (c : Char) : Option (Conversion × Stage) :=
  if c = '.' then some ({ spec with precision := some (.given 0) }, .point) else afterSizes spec c

/-- Reads one character among the flags. -/
def amongFlags (spec : Conversion) (c : Char) : Option (Conversion × Stage) :=
  match spec.flag? c with
  | some spec => some (spec, .flags)
  | none =>
    if c = '*' then some ({ spec with width := some .nextArgument }, .widthDone)
    else if c.isDigit then some ({ spec with width := Size.push none c }, .width)
    else afterWidth spec c

/-- Reads one character of a conversion; `none` when it is the last one. -/
def Stage.read (stage : Stage) (spec : Conversion) (c : Char) : Option (Conversion × Stage) :=
  match stage with
  | .first => if c = '(' then some (spec, .key 0 []) else amongFlags spec c
  | .key depth name =>
    if c = '(' then some (spec, .key (depth + 1) (name ++ [c]))
    else if c = ')' then
      match depth with
      | 0 => some ({ spec with key := some name }, .flags)
      | depth + 1 => some (spec, .key depth (name ++ [c]))
    else some (spec, .key depth (name ++ [c]))
  | .flags => amongFlags spec c
  | .width =>
    if c.isDigit then some ({ spec with width := Size.push spec.width c }, .width) else afterWidth spec c
  | .widthDone => afterWidth spec c
  | .point =>
    if c = '*' then some ({ spec with precision := some .nextArgument }, .precisionDone)
    else if c.isDigit then some ({ spec with precision := Size.push none c }, .precision)
    else afterSizes spec c
  | .precision =>
    if c.isDigit then some ({ spec with precision := Size.push spec.precision c }, .precision)
    else afterSizes spec c
  | .precisionDone => afterSizes spec c
  | .last => none

/-- The pieces of a template, from the character at an index on, inside a conversion if there is a stage. -/
def piecesFrom (index : Nat) (within : Option (Conversion × Stage)) : List Char → List Piece
  | [] =>
    match within with
    | none => []
    | some (_, .key _ _) => [.unfinishedKey]
    | some (spec, _) => [.unfinished spec]
  | c :: rest =>
    match within with
    | none =>
      if c = '%' then piecesFrom (index + 1) (some (.plain, .first)) rest
      else .plain c :: piecesFrom (index + 1) none rest
    | some (spec, stage) =>
      match stage.read spec c with
      | some next => piecesFrom (index + 1) (some next) rest
      | none =>
        (if stage = .first && c = '%' then .plain c else .conversion spec c index) ::
          piecesFrom (index + 1) none rest

/-- The pieces of a template. -/
def pieces (template : List Char) : List Piece := piecesFrom 0 none template

/-! ## Arguments -/

/-- Why a template cannot be filled in. -/
inductive TemplateFault where
  /-- The template breaks off within a conversion. -/
  | incomplete
  /-- The template breaks off within a key. -/
  | incompleteKey
  /-- There is no such conversion. -/
  | unsupported (last : Char) (index : Nat)
  /-- Number or types of the arguments do not fit. -/
  | mismatch
  /-- The map has no such key. -/
  | missingKey (key : String)
  /-- A number is too large. -/
  | overflow
  /-- The width written in the template is too large. -/
  | tooWide
  /-- The precision written in the template is too large. -/
  | tooPrecise
  /-- What is to be an integer is not a number. -/
  | notANumber
deriving DecidableEq, Repr

/-- A number in hexadecimal. -/
def hexText (n : Nat) : String := String.ofList (Nat.toDigits 16 n)

/-- The fault in words. -/
def TemplateFault.message : TemplateFault → String
  | .incomplete => "incomplete format"
  | .incompleteKey => "incomplete format key"
  | .unsupported last index =>
    "unsupported format character '" ++
      (if 31 ≤ last.toNat ∧ last.toNat ≤ 126 then last.toString else "?") ++ "' (0x" ++ hexText last.toNat ++
      ") at index " ++ toString index
  | .mismatch => "arguments do not fit the format"
  | .missingKey key => "no argument is called " ++ key
  | .overflow => "argument too large"
  | .tooWide => "width too big"
  | .tooPrecise => "precision too big"
  | .notANumber => "cannot convert float NaN to integer"

/-- What is left of the arguments: those in order, and the map if there is one. -/
structure Arguments where
  pending : List Json
  map : Option Fields

namespace Arguments

/-- The arguments of a record; a single object that is not empty is a map. -/
def ofList : List Json → Arguments
  | [.obj (m :: rest)] => ⟨[.obj (m :: rest)], some (m :: rest)⟩
  | args => ⟨args, none⟩

/-- The next argument. -/
def next (args : Arguments) : Except TemplateFault (Json × Arguments) :=
  match args.pending with
  | v :: rest => .ok (v, { args with pending := rest })
  | [] => .error .mismatch

/-- Makes the value of a key the next and only argument. -/
def select (args : Arguments) (key : String) : Except TemplateFault Arguments :=
  match args.map with
  | none => .error .mismatch
  | some fields =>
    match fields.get? key with
    | some v => .ok { args with pending := [v] }
    | none => .error (.missingKey key)

/-- The value of a size up to a limit, and the fault of a larger one in the template. -/
def size (args : Arguments) (limit : Nat) (tooLarge : TemplateFault) : Size → Except TemplateFault (Int × Arguments)
  | .given n => if n ≤ limit then .ok (n, args) else .error tooLarge
  | .nextArgument =>
    match args.next with
    | .ok (.int n, args) => if -limit - 1 ≤ n ∧ n ≤ limit then .ok (n, args) else .error .overflow
    | .ok (.bool b, args) => .ok (if b then 1 else 0, args)
    | .ok _ => .error .mismatch
    | .error f => .error f

/-- The value of a size that may be missing. -/
def size? (args : Arguments) (limit : Nat) (tooLarge : TemplateFault) :
    Option Size → Except TemplateFault (Option Int × Arguments)
  | none => .ok (none, args)
  | some s => (args.size limit tooLarge s).map fun r => (some r.1, r.2)

end Arguments

/-! ## Conversions -/

/-- Puts a number with its sign into its width. -/
def padNumber (spec : Conversion) (left : Bool) (width : Nat) (negative : Bool) (mark body : List Char) : List Char :=
  let sign := if negative then ['-'] else if spec.plus then ['+'] else if spec.blank then [' '] else []
  let missing := width - (sign.length + mark.length + body.length)
  if left then sign ++ mark ++ body ++ List.replicate missing ' '
  else if spec.zero then sign ++ mark ++ List.replicate missing '0' ++ body
  else List.replicate missing ' ' ++ sign ++ mark ++ body

/-- Puts a text into its width. -/
def padText (left : Bool) (width : Nat) (body : List Char) : List Char :=
  let missing := List.replicate (width - body.length) ' '
  if left then body ++ missing else missing ++ body

/-- A text cut to its precision. -/
def cutText (precision : Option Int) (text : List Char) : List Char :=
  match precision with
  | some p => text.take p.toNat
  | none => text

/-- The characters of a literal outside ASCII, escaped. -/
def asciiLiteral (v : Json) : List Char :=
  v.literalChars.flatMap fun c =>
    if c.toNat < 128 then [c]
    else if c.toNat < 256 then '\\' :: 'x' :: Json.hexDigits 2 c.toNat
    else if c.toNat < 65536 then '\\' :: 'u' :: Json.hexDigits 4 c.toNat
    else '\\' :: 'U' :: Json.hexDigits 8 c.toNat

/-- An argument as an integer; doubles are cut. -/
def integerArgument (cut : Bool) (v : Json) : Except TemplateFault Int :=
  match v with
  | .bool b => .ok (if b then 1 else 0)
  | .int n => .ok n
  | .float x =>
    if !cut then .error .mismatch
    else
      match Binary.truncate? x with
      | some n => .ok n
      | none => .error (if x.isNaN then .notANumber else .overflow)
  | _ => .error .mismatch

/-- An argument as a double. -/
def doubleArgument (v : Json) : Except TemplateFault Float :=
  match v.asNumber? with
  | none => .error .mismatch
  | some n =>
    match n.toFloat? with
    | some x => .ok x
    | none => .error .overflow

/-- The digits of an integer, filled up with zeros to its precision. -/
def integerDigits (base : Nat) (precision : Option Int) (n : Int) : List Char :=
  let digits := Nat.toDigits base n.natAbs
  List.replicate ((precision.getD 0).toNat - digits.length) '0' ++ digits

/-- A conversion to an integer. -/
def convertInteger (spec : Conversion) (left : Bool) (width : Nat) (precision : Option Int) (last : Char) (v : Json) :
    Except TemplateFault (List Char) := do
  let hex := last = 'x' || last = 'X'
  let octal := last = 'o'
  let n ← integerArgument (!(hex || octal)) v
  let digits := integerDigits (if hex then 16 else if octal then 8 else 10) precision n
  let mark := if spec.full then if hex then ['0', 'x'] else if octal then ['0', 'o'] else [] else []
  let raise (text : List Char) : List Char := if last = 'X' then text.map Char.toUpper else text
  return padNumber spec left width (n < 0) (raise mark) (raise digits)

/-- A conversion to a double. -/
def convertDouble (spec : Conversion) (left : Bool) (width : Nat) (precision : Option Int) (last : Char) (v : Json) :
    Except TemplateFault (List Char) := do
  let x ← doubleArgument v
  let places := (precision.getD 6).toNat
  let (negative, body) :=
    match Binary.parts x with
    | .nan => (false, "nan".toList)
    | .infinite negative => (negative, "inf".toList)
    | .finite negative m e =>
      (negative,
        if last = 'f' || last = 'F' then Number.fixedPoint spec.full places m e
        else if last = 'e' || last = 'E' then Number.scientific spec.full places m e
        else Number.general spec.full places m e)
  return padNumber spec left width negative [] (if last.isUpper then body.map Char.toUpper else body)

/-- A conversion to a character. -/
def convertChar (left : Bool) (width : Nat) (v : Json) : Except TemplateFault (List Char) :=
  match v with
  | .str s =>
    match s.toList with
    | [c] => .ok (padText left width [c])
    | _ => .error .mismatch
  | _ =>
    match integerArgument false v with
    | .ok n => if 0 ≤ n ∧ n < 0x110000 then .ok (padText left width [Char.ofNat n.toNat]) else .error .overflow
    | .error f => .error f

/-- A conversion of an argument. -/
def convert (spec : Conversion) (left : Bool) (width : Nat) (precision : Option Int) (last : Char) (index : Nat)
    (v : Json) : Except TemplateFault (List Char) :=
  if last = 's' then .ok (padText left width (cutText precision v.display.toList))
  else if last = 'r' then .ok (padText left width (cutText precision v.literalChars))
  else if last = 'a' then .ok (padText left width (cutText precision (asciiLiteral v)))
  else if last = 'c' then convertChar left width v
  else if ['d', 'i', 'u', 'x', 'X', 'o'].contains last then convertInteger spec left width precision last v
  else if ['e', 'E', 'f', 'F', 'g', 'G'].contains last then convertDouble spec left width precision last v
  else .error (.unsupported last index)

/-! ## Templates -/

/-- The largest width. -/
def maxWidth : Nat := 0x7FFFFFFFFFFFFFFF

/-- The largest precision. -/
def maxPrecision : Nat := 0x7FFFFFFF

/-- Width and precision of a conversion with a key that was looked up; a negative width pads at the right. -/
def sizes (spec : Conversion) (args : Arguments) : Except TemplateFault (Int × Option Int × Arguments) := do
  let args ← match spec.key with
    | some key => args.select (String.ofList key)
    | none => pure args
  let (width, args) ← args.size? maxWidth .tooWide spec.width
  let (precision, args) ← args.size? maxPrecision .tooPrecise spec.precision
  return (width.getD 0, precision, args)

/-- The text of one piece, and the arguments that are left. -/
def expandPiece (args : Arguments) : Piece → Except TemplateFault (List Char × Arguments)
  | .plain c => .ok ([c], args)
  | .unfinishedKey => .error (if args.map.isSome then .incompleteKey else .mismatch)
  | .unfinished spec =>
    match sizes spec args with
    | .ok _ => .error .incomplete
    | .error f => .error f
  | .conversion spec last index => do
    let (width, precision, args) ← sizes spec args
    let (v, args) ← args.next
    let text ← convert spec (spec.left || width < 0) width.natAbs precision last index v
    return (text, args)

/-- The text of some pieces. Arguments in order have to be used up. -/
def expandPieces (args : Arguments) : List Piece → Except TemplateFault (List Char)
  | [] => if args.map.isNone && !args.pending.isEmpty then .error .mismatch else .ok []
  | piece :: rest => do
    let (text, args) ← expandPiece args piece
    return text ++ (← expandPieces args rest)

/-- A template with its arguments; without arguments it is a plain text. -/
def expand (template : String) (args : List Json) : Except TemplateFault String :=
  if args.isEmpty then .ok template
  else (expandPieces (.ofList args) (pieces template.toList)).map String.ofList

end WorkflowLab.Diagnostics
