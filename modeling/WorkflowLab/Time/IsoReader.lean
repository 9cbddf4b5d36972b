import WorkflowLab.Json.Literal
import WorkflowLab.Time.Timestamp

/-!
# Reading timestamps in log entries

- `readIso`: a calendar or week date, with or without dashes, then perhaps one separating character of any kind and a
  time of day with as many parts as are known, then perhaps a distance from universal time;
- `IsoFault`: what is wrong with a text. Its form counts first, then the distance, then the parts from left to right.

The reading is lenient about what stands between the time of day and the distance: a single ASCII character, or
whatever follows six digits of a fraction, is passed over there.
-/

namespace WorkflowLab.Time

/-! ## Faults -/

/-- What is wrong with the text of a timestamp: its form, or a part out of range. -/
inductive IsoFault where
  | malformed
  | offset (micros : Int)
  | year (y : Nat)
  | month
  | day
  | hour
  | minute
  | second
deriving DecidableEq, Repr

/-- A length of time as days, seconds and microseconds, the latter two not negative, without parts that are zero. -/
def showDuration (micros : Int) : String :=
  let parts := [("days", micros / dayMicros), ("seconds", micros % dayMicros / secondMicros),
    ("microseconds", micros % secondMicros)]
  let shown := (parts.filter (·.2 != 0)).map fun part => part.1 ++ "=" ++ toString part.2
  "datetime.timedelta(" ++ ", ".intercalate shown ++ ")"

/-- The fault of a text, in words. -/
def IsoFault.message (text : String) : IsoFault → String
  | .malformed => "Invalid isoformat string: " ++ Json.quote text
  | .offset micros =>
    "offset must be a timedelta strictly between -timedelta(hours=24) and timedelta(hours=24), not " ++
      showDuration micros ++ "."
  | .year y => "year " ++ toString y ++ " is out of range"
  | .month => "month must be in 1..12"
  | .day => "day is out of range for month"
  | .hour => "hour must be in 0..23"
  | .minute => "minute must be in 0..59"
  | .second => "second must be in 0..59"

/-! ## Times of day -/

/-- Reads exactly `n` digits. -/
def readDigits : (n : Nat) → (acc : Nat) → List Char → Option (Nat × List Char)
  | 0, acc, text => some (acc, text)
  | _ + 1, _, [] => none
  | n + 1, acc, c :: rest => if c.isDigit then readDigits n (10 * acc + (c.toNat - 48)) rest else none

/-- A time of day, or the size of a distance from universal time. -/
structure ClockReading where
  hour : Nat
  minute : Nat
  second : Nat
  micro : Nat

/-- The reading with the parts that were found. -/
def ClockReading.ofParts (parts : List Nat) (micro : Nat) : ClockReading :=
  ⟨parts.getD 0 0, parts.getD 1 0, parts.getD 2 0, micro⟩

/-- Reads the fraction of a second in a text that is not empty; digits after the sixth are dropped. The second result
tells whether something is left over, `more` being the answer at the end of the text. -/
def readFractionPart (parts : List Nat) (text : List Char) (more : Bool) : Option (ClockReading × Bool) := do
  let n := min 6 text.length
  let (v, rest) ← readDigits n 0 text
  let leftOver :=
    match rest.dropWhile Char.isDigit with
    | [] => more
    | c :: _ => c != '\x00'
  return (.ofParts parts (v * tenTo (6 - n)), leftOver)

/-- Reads the remaining parts of a time of day. `colon` tells whether a colon separates them, once that is known. -/
def readParts : (left : Nat) → (colon : Option Bool) → (parts : List Nat) → List Char → (more : Bool) →
    Option (ClockReading × Bool)
  | 0, _, parts, text, more => readFractionPart parts text more
  | left + 1, colon, parts, text, more => do
    let (v, rest) ← readDigits 2 0 text
    let parts := parts ++ [v]
    match rest with
    | [] => return (.ofParts parts 0, more)
    | [c] => if c.toNat < 128 then return (.ofParts parts 0, c != '\x00') else none
    | c :: after =>
      let colon := colon.getD (c == ':')
      if colon && c == ':' then readParts left (some colon) parts after more
      else if c == '.' || c == ',' then readFractionPart parts after more
      else if !colon then readParts left (some colon) parts rest more
      else none

/-- A character with which a distance from universal time starts. -/
def startsZone (c : Char) : Bool := c = '+' || c = '-' || c = 'Z'

/-- Reads a distance from universal time; less than a second counts as none. -/
def readZone? : List Char → Option (Option Int)
  | [] => some none
  | 'Z' :: rest => if rest.isEmpty || rest.head? == some '\x00' then some (some 0) else none
  | sign :: rest => do
    let (r, leftOver) ← readParts 3 none [] rest false
    if leftOver then none
    else
      let second := r.hour * 3600 + r.minute * 60 + r.second
      let size : Int := (second * secondMicros + r.micro : Nat)
      if second = 0 then some (some 0)
      else some (some (if sign = '-' then -size else size))

/-- Reads a time of day and a distance from universal time. -/
def readTime? (text : List Char) : Option (ClockReading × Option Int) := do
  let (clock, zone) := text.span (!startsZone ·)
  let (r, leftOver) ← readParts 3 none [] clock (!zone.isEmpty)
  if leftOver && zone.isEmpty then none
  else return (r, ← readZone? zone)

/-! ## Dates -/

/-- The length of the date at the start of a text; dates are told apart by their fifth and sixth character. -/
def dateLength? (text : List Char) : Option Nat :=
  let char (i : Nat) := text.getD i '\x00'
  let length := text.length
  if length < 7 then none
  else if length = 7 then some 7
  else if char 4 = '-' then
    if char 5 = 'W' then
      if 8 < length ∧ char 8 = '-' then
        if length = 9 then none
        else if 10 < length ∧ (char 10).isDigit then some 8
        else some 10
      else some 8
    else some 10
  else if char 4 = 'W' then
    let stop := 7 + ((text.drop 7).takeWhile Char.isDigit).length
    if stop < 9 then some stop else if stop % 2 = 0 then some 7 else some 8
  else some 8

/-- Reads one separator if separators are in use. -/
def readDash? (dashes : Bool) (text : List Char) : Option (List Char) :=
  if dashes then
    match text with
    | '-' :: rest => some rest
    | _ => none
  else some text

/-- The number of a calendar date in the years 1 to 9999. -/
def dateNumber (year month day : Nat) : Except IsoFault Nat :=
  if year < 1 ∨ 9999 < year then .error (.year year)
  else if month < 1 ∨ 12 < month then .error .month
  else if day < 1 ∨ daysInMonth year month < day then .error .day
  else .ok (dayNumber year month day)

/-- The number of a week date. The weeks of the year 0 belong to no month, and the last week of the year 9999 ends in
the next year; a week or a weekday that does not exist is a fault of the form. -/
def weekNumber? (year week weekday : Nat) : Option (Except IsoFault Nat) :=
  if isWeekDate year week weekday then
    let n := weekDayNumber year week weekday
    if year = 0 then some (.error .month)
    else if daysBeforeYear 10000 ≤ n then some (.error (.year 10000))
    else some (.ok n)
  else none

/-- Reads a date of the given length at the start of a text, as a day number. -/
def readDate? (length : Nat) (text : List Char) : Option (Except IsoFault Nat) := do
  let (year, rest) ← readDigits 4 0 text
  let dashes := rest.head? == some '-'
  let rest := if dashes then rest.drop 1 else rest
  match rest with
  | 'W' :: rest =>
    let (week, rest) ← readDigits 2 0 rest
    if text.length - rest.length < length then
      let rest ← readDash? dashes rest
      let (weekday, _) ← readDigits 1 0 rest
      weekNumber? year week weekday
    else weekNumber? year week 1
  | _ =>
    let (month, rest) ← readDigits 2 0 rest
    let rest ← readDash? dashes rest
    let (day, _) ← readDigits 2 0 rest
    return dateNumber year month day

/-! ## Timestamps -/

/-- What a text says: its date, its time of day, and its distance from universal time. -/
def readIsoParts? (text : List Char) : Option (Except IsoFault Nat × ClockReading × Option Int) := do
  let length ← dateLength? text
  let day ← readDate? length text
  match text.drop length with
  | [] => return (day, ⟨0, 0, 0, 0⟩, none)
  | _ :: time => return (day, ← readTime? time)

/-- The microseconds since midnight at a time of day. -/
def ClockReading.dayTime (r : ClockReading) : Except IsoFault Nat :=
  if 23 < r.hour then .error .hour
  else if 59 < r.minute then .error .minute
  else if 59 < r.second then .error .second
  else .ok (Time.dayTime r.hour r.minute r.second r.micro)

/-- A distance from universal time is less than a day. -/
def checkOffset (offset : Option Int) : Except IsoFault Unit :=
  match offset with
  | some o => if dayMicros ≤ o.natAbs then .error (.offset o) else .ok ()
  | none => .ok ()

/-- Reads a timestamp as log entries write it. -/
def readIso (text : String) : Except IsoFault Timestamp :=
  match readIsoParts? text.toList with
  | none => .error .malformed
  | some (day, clock, offset) => do
    checkOffset offset
    let day ← day
    let time ← clock.dayTime
    return ⟨day * dayMicros + time, offset⟩

/-- Reads a timestamp as log entries write it, if it is one. -/
def readIso? (text : String) : Option Timestamp := (readIso text).toOption

end WorkflowLab.Time
