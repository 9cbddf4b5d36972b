import WorkflowLab.Time.IsoReader
import WorkflowLab.Number.Text

/-!
# Reading timestamps in documents

Documents give a point in time as a text or as a count of the Unix era.

- `readDocumentTime`: a date, a date with a time of day, or the text of a count;
- `ofUnixNumber`: a count of the Unix era, in seconds up to `secondsLimit` and in milliseconds beyond;
- `TimeFault`: why there is no timestamp; in a text that is no date, the first fault from left to right counts.

The year 0 can be written and counted, but no timestamp falls into it.
-/

namespace WorkflowLab.Time

/-! ## Faults -/

/-- What is wrong with a date or a count. -/
inductive DateFault where
  | tooShort
  | yearCharacter
  | monthCharacter
  | dayCharacter
  | dateSeparator
  | monthRange
  | dayRange
  | extraCharacters
  | tooEarly
  | tooLate
  | notANumber
deriving DecidableEq, Repr

/-- The fault in words. -/
def DateFault.message : DateFault → String
  | .tooShort => "input is too short"
  | .yearCharacter => "invalid character in year"
  | .monthCharacter => "invalid character in month"
  | .dayCharacter => "invalid character in day"
  | .dateSeparator => "invalid date separator, expected `-`"
  | .monthRange => "month value is outside expected range of 1-12"
  | .dayRange => "day value is outside expected range"
  | .extraCharacters => "unexpected extra characters at the end of the input"
  | .tooEarly => "dates before 0000 are not supported as unix timestamps"
  | .tooLate => "dates after 9999 are not supported as unix timestamps"
  | .notANumber => "NaN values not permitted"

/-- Why there is no timestamp: the fault of what might be a date, the fault of a count, or the year. -/
inductive TimeFault where
  | date (fault : DateFault)
  | count (fault : DateFault)
  | yearZero
deriving DecidableEq, Repr

/-! ## Counts of the Unix era -/

/-- The greatest count that is in seconds. -/
def secondsLimit : Nat := 20000000000

/-- The microseconds of the year 0, a leap year. -/
def yearZeroMicros : Nat := 366 * dayMicros

/-- The timestamp of a count of microseconds. -/
def ofUnixMicros (n : Int) : Except TimeFault Timestamp :=
  match Timestamp.ofUnixMicros? n with
  | some t => .ok t
  | none =>
    if 0 ≤ n then .error (.count .tooLate)
    else if n + epochMicros < -yearZeroMicros then .error (.count .tooEarly)
    else .error .yearZero

/-- The timestamp of a whole count. -/
def ofUnixInt (n : Int) : Except TimeFault Timestamp :=
  ofUnixMicros (if n.natAbs ≤ secondsLimit then n * secondMicros else n * 1000)

/-- The timestamp of a count as a double. Its part after the point is a double too, and becomes microseconds by
rounding, halves going up. -/
def ofUnixDouble (x : Float) : Except TimeFault Timestamp :=
  match Binary.parts x, Binary.floor? x with
  | .nan, _ => .error (.count .notANumber)
  | .infinite true, _ => .error (.count .tooEarly)
  | _, none => .error (.count .tooLate)
  | _, some whole =>
    let unit := if (Number.float x.abs).atMost (.int secondsLimit) then secondMicros else 1000
    let micros := ((x - x.floor) * Float.ofNat unit).round.toUInt64.toNat
    ofUnixMicros (whole * unit + micros)

/-- The timestamp of a number of the Unix era. -/
def ofUnixNumber : Number → Except TimeFault Timestamp
  | .int n => ofUnixInt n
  | .float x => ofUnixDouble x

/-- Reads a count in a text: an integer of 64 bits, or a decimal numeral with a point. -/
def readCount? (text : List Char) : Option Number :=
  let (negative, unsigned) := splitSign text
  let digits := unsigned.takeWhile Char.isDigit
  let whole := Nat.ofDigitChars 10 digits 0
  if wordLimit ≤ whole then none
  else
    match unsigned.drop digits.length with
    | [] => if digits = [] then none else some (.int (if negative then -whole else whole))
    | '.' :: _ => (readDecimal? unsigned).map fun x => .float (Binary.signed negative x)
    | _ => none

/-! ## Dates -/

/-- A date that was read. -/
structure DateReading where
  year : Nat
  month : Nat
  day : Nat

/-- The timestamp at some microseconds after the start of a date. -/
def DateReading.timestamp (d : DateReading) (time : Nat) (offset : Option Int) : Except TimeFault Timestamp :=
  if d.year = 0 then .error .yearZero else .ok ⟨dayNumber d.year d.month d.day * dayMicros + time, offset⟩

/-- Reads a number of digits at the start of a text, or fails with the given fault. -/
def readDigitsOr (fault : DateFault) (n : Nat) (text : List Char) : Except DateFault (Nat × List Char) :=
  match readDigits n 0 text with
  | some r => .ok r
  | none => .error fault

/-- Reads a dash at the start of a text. -/
def readDateDash : List Char → Except DateFault (List Char)
  | '-' :: rest => .ok rest
  | _ => .error .dateSeparator

/-- Reads the date at the start of a text. -/
def readLeadingDate (text : List Char) : Except DateFault (DateReading × List Char) := do
  if (String.ofList text).utf8ByteSize < 10 then throw .tooShort
  let (year, rest) ← readDigitsOr .yearCharacter 4 text
  let rest ← readDateDash rest
  let (month, rest) ← readDigitsOr .monthCharacter 2 rest
  let rest ← readDateDash rest
  let (day, rest) ← readDigitsOr .dayCharacter 2 rest
  if month < 1 ∨ 12 < month then throw .monthRange
  if day < 1 ∨ daysInMonth year month < day then throw .dayRange
  return (⟨year, month, day⟩, rest)

/-! ## Times of day -/

/-- The signs of a distance from universal time, with the typographic minus sign. -/
def isZoneSign (c : Char) : Bool := c == '+' || c == '-' || c == '−'

/-- Reads the distance from universal time that ends a text. -/
def readDocumentZone? : List Char → Option (Option Int)
  | [] => some none
  | ['Z'] => some (some 0)
  | ['z'] => some (some 0)
  | sign :: rest =>
    if isZoneSign sign then do
      let (hour, rest) ← readDigits 2 0 rest
      let rest := if rest.head? == some ':' then rest.drop 1 else rest
      let (minute, rest) ← readDigits 2 0 rest
      let size : Int := (hour * 3600 + minute * 60) * secondMicros
      if rest ≠ [] ∨ 59 < minute ∨ dayMicros ≤ size then none
      else some (some (if sign = '+' then size else -size))
    else none

/-- Reads the seconds of a time of day, when there are any. -/
def readSeconds? (text : List Char) : Option (Nat × Nat × List Char) :=
  match text with
  | ':' :: rest => do
    let (second, rest) ← readDigits 2 0 rest
    match rest with
    | mark :: after =>
      if mark = '.' ∨ mark = ',' then
        let digits := after.takeWhile Char.isDigit
        if digits = [] then none
        else
          let kept := digits.take 6
          some (second, Nat.ofDigitChars 10 kept 0 * tenTo (6 - kept.length), after.drop digits.length)
      else some (second, 0, rest)
    | [] => some (second, 0, [])
  | _ => some (0, 0, text)

/-- The characters between a date and a time of day. -/
def isTimeMark (c : Char) : Bool := c == 'T' || c == 't' || c == ' ' || c == '_'

/-- Reads a date with a time of day and perhaps a distance from universal time. -/
def readDateTime? (text : List Char) : Option (DateReading × Nat × Option Int) := do
  let (date, rest) ← (readLeadingDate text).toOption
  match rest with
  | mark :: rest =>
    if isTimeMark mark then do
      let (hour, rest) ← readDigits 2 0 rest
      match rest with
      | ':' :: rest =>
        let (minute, rest) ← readDigits 2 0 rest
        let (second, micro, rest) ← readSeconds? rest
        let zone ← readDocumentZone? rest
        if hour ≤ 23 ∧ minute ≤ 59 ∧ second ≤ 59 then some (date, dayTime hour minute second micro, zone) else none
      | _ => none
    else none
  | [] => none

/-! ## Texts -/

/-- Reads a text that is a date. -/
def readDate (text : List Char) : Except TimeFault Timestamp :=
  match readLeadingDate text with
  | .ok (date, []) => date.timestamp 0 none
  | .ok _ => .error (.date .extraCharacters)
  | .error fault => .error (.date fault)

/-- Reads a text as a point in time. A text that is neither a date with a time of day nor a count in reach is taken for
a date, unless it is a whole count. -/
def readDocumentTime (text : String) : Except TimeFault Timestamp :=
  let chars := text.toList
  match readDateTime? chars with
  | some (date, time, offset) => date.timestamp time offset
  | none =>
    match readCount? chars with
    | none => readDate chars
    | some count =>
      match ofUnixNumber count, count with
      | .error (.count fault), .int _ => .error (.date fault)
      | .error (.count _), .float _ => readDate chars
      | r, _ => r

end WorkflowLab.Time
