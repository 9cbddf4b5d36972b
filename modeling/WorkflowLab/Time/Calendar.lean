/-!
# The calendar

Days of the proleptic Gregorian calendar, numbered from the first of January of year 1, which has number 0 and is a
Monday.

- `dayNumber`, `ofDayNumber`: from year, month and day to the number and back;
- `isWeekDate`, `weekDayNumber`: the weekdays in the numbered weeks of a year, and their day numbers.
-/

namespace WorkflowLab.Time

/-- A leap year has a 29th of February. -/
def isLeap (year : Nat) : Bool := year % 4 == 0 && (year % 100 != 0 || year % 400 == 0)

/-- The number of days of a month. -/
def daysInMonth (year month : Nat) : Nat :=
  if month = 2 then if isLeap year then 29 else 28
  else if month = 4 ∨ month = 6 ∨ month = 9 ∨ month = 11 then 30
  else 31

/-- The number of days before a year. -/
def daysBeforeYear (year : Nat) : Nat :=
  let y := year - 1
  y * 365 + y / 4 - y / 100 + y / 400

/-- The number of days of a year before a month. -/
def daysBeforeMonth (year month : Nat) : Nat :=
  (List.range (month - 1)).foldl (fun days i => days + daysInMonth year (i + 1)) 0

/-- The number of a day. -/
def dayNumber (year month day : Nat) : Nat :=
  daysBeforeYear year + daysBeforeMonth year month + (day - 1)

/-- Month and day of the day with index `left` of a year; `fuel` bounds the months still to try. -/
def monthAndDay (year : Nat) : (fuel month left : Nat) → Nat × Nat
  | 0, month, left => (month, left + 1)
  | fuel + 1, month, left =>
    if left < daysInMonth year month then (month, left + 1)
    else monthAndDay year fuel (month + 1) (left - daysInMonth year month)

/-- The year of a day number: the average length of a year gives it up to one. -/
def yearOf (n : Nat) : Nat :=
  let guess := n * 400 / 146097 + 1
  if n < daysBeforeYear guess then guess - 1
  else if daysBeforeYear (guess + 1) ≤ n then guess + 1
  else guess

/-- Year, month and day of a day number. -/
def ofDayNumber (n : Nat) : Nat × Nat × Nat :=
  let year := yearOf n
  let (month, day) := monthAndDay year 11 1 (n - daysBeforeYear year)
  (year, month, day)

/-- The day number of the Monday of the first week of a year, the week with its first Thursday. -/
def firstMonday (year : Nat) : Nat :=
  let first := dayNumber year 1 1
  let weekday := first % 7
  if 3 < weekday then first + 7 - weekday else first - weekday

/-- A year with 53 weeks starts on a Thursday, or is a leap year that starts on a Wednesday. -/
def hasLongWeeks (year : Nat) : Bool :=
  let weekday := dayNumber year 1 1 % 7
  weekday == 3 || (weekday == 2 && isLeap year)

/-- A year has a week with the given number, and a week has a weekday with the given number, counted from Monday as
1. -/
def isWeekDate (year week weekday : Nat) : Bool :=
  1 ≤ week && (week ≤ 52 || week == 53 && hasLongWeeks year) && 1 ≤ weekday && weekday ≤ 7

/-- The day number of a weekday in a week of a year from year 1 on. -/
def weekDayNumber (year week weekday : Nat) : Nat := firstMonday year + (week - 1) * 7 + (weekday - 1)

end WorkflowLab.Time
