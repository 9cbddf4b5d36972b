import WorkflowLab.Number.Basic
import WorkflowLab.Time.Calendar

/-!
# Timestamps

- `Timestamp`: a local time in microseconds, with its distance from universal time when that is known;
- `Timestamp.iso`, `Timestamp.json`: its two written forms, which differ in the distance from universal time;
- `Timestamp.elapsed?`: the time between two timestamps, when both or neither know their distance;
- `Timestamp.unixMillis?`: milliseconds of the Unix era.
-/

namespace WorkflowLab.Time

/-- A point in time on a local clock: microseconds since the start of year 1, and the microseconds by which the clock
is ahead of universal time, if known. -/
structure Timestamp where
  micros : Nat
  offset : Option Int
deriving DecidableEq, Repr, Inhabited

/-- Microseconds of a second. -/
def secondMicros : Nat := 1000000

/-- Microseconds of a day. -/
def dayMicros : Nat := 86400 * secondMicros

/-- The first microsecond after the year 9999. -/
def endMicros : Nat := daysBeforeYear 10000 * dayMicros

/-- The start of the Unix era, in microseconds since the start of year 1. -/
def epochMicros : Nat := 719162 * dayMicros

/-- A natural number in decimal, filled up with zeros at the left. -/
def padded (width n : Nat) : List Char :=
  let digits := Nat.toDigits 10 n
  List.replicate (width - digits.length) '0' ++ digits

/-- A fraction of a second, left out when it is zero. -/
def fraction (micros : Nat) : List Char := if micros = 0 then [] else '.' :: padded 6 micros

/-- The microseconds since midnight at a time of day. -/
def dayTime (hour minute second micro : Nat) : Nat := (hour * 3600 + minute * 60 + second) * secondMicros + micro

namespace Timestamp

/-- The timestamp of a count of microseconds of the Unix era, in universal time; it has to fall in the years 1 to
9999. -/
def ofUnixMicros? (n : Int) : Option Timestamp :=
  let m := n + epochMicros
  if 0 ≤ m ∧ m < endMicros then some ⟨m.toNat, some 0⟩ else none

/-- The timestamp some microseconds later. -/
def later (t : Timestamp) (micros : Nat) : Timestamp := { t with micros := t.micros + micros }

/-- Date and time of day, without the distance from universal time. -/
def localChars (t : Timestamp) : List Char :=
  let (year, month, day) := ofDayNumber (t.micros / dayMicros)
  let second := t.micros / secondMicros % 86400
  padded 4 year ++ '-' :: padded 2 month ++ '-' :: padded 2 day ++ 'T' :: padded 2 (second / 3600) ++
    ':' :: padded 2 (second / 60 % 60) ++ ':' :: padded 2 (second % 60) ++ fraction (t.micros % secondMicros)

/-- Sign, hours and minutes of a distance from universal time, with seconds as far as they are needed. -/
def offsetChars (offset : Int) : List Char :=
  let size := offset.natAbs
  let second := size / secondMicros
  (if offset < 0 then '-' else '+') :: padded 2 (second / 3600) ++ ':' :: padded 2 (second / 60 % 60) ++
    if size % (60 * secondMicros) = 0 then []
    else ':' :: padded 2 (second % 60) ++ fraction (size % secondMicros)

/-- The written form in texts: universal time is `+00:00`. -/
def iso (t : Timestamp) : String :=
  String.ofList (t.localChars ++ match t.offset with
    | none => []
    | some o => offsetChars o)

/-- Sign, hours and minutes of a distance from universal time in whole seconds; seconds beyond the minute are left
out. -/
def minuteOffsetChars (seconds : Int) : List Char :=
  let minute := seconds.natAbs / 60
  (if seconds < 0 then '-' else '+') :: padded 2 (minute / 60) ++ ':' :: padded 2 (minute % 60)

/-- The written form in JSON documents: the distance is rounded down to seconds, and universal time is `Z`. -/
def json (t : Timestamp) : String :=
  String.ofList (t.localChars ++ match t.offset with
    | none => []
    | some o =>
      let seconds := o / secondMicros
      if seconds = 0 then ['Z'] else minuteOffsetChars seconds)

/-- Microseconds on the clock of universal time, a clock of unknown distance being taken as universal. -/
def universal (t : Timestamp) : Int := (t.micros : Int) - t.offset.getD 0

/-- Microseconds from one timestamp to another; `none` when only one of them knows its distance from universal time. -/
def elapsed? (first last : Timestamp) : Option Int :=
  if first.offset.isSome = last.offset.isSome then some (last.universal - first.universal) else none

/-- A count of microseconds in seconds. -/
def seconds (micros : Int) : Float :=
  Binary.signed (micros < 0) ((Binary.ofRatio? micros.natAbs secondMicros).getD Binary.infinity)

/-- Seconds of the Unix era. A clock of unknown distance adds the fraction of a second as a double, and its first day
is out of reach. -/
def unixSeconds? (t : Timestamp) : Option Float :=
  match t.offset with
  | some _ => some (seconds (t.universal - epochMicros))
  | none =>
    if t.micros < dayMicros then none
    else
      let whole : Int := (t.micros / secondMicros : Nat) - (epochMicros / secondMicros : Nat)
      let micro := t.micros % secondMicros
      some ((Binary.ofInt? whole).getD 0 + Float.ofNat micro / 1000000)

/-- Whole milliseconds of the Unix era. -/
def unixMillis? (t : Timestamp) : Option Int :=
  t.unixSeconds?.bind fun s => Binary.truncate? (s * 1000)

end Timestamp

end WorkflowLab.Time
