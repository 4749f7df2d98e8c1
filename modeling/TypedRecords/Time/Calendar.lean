/-!
# The calendar

Dates of the proleptic Gregorian calendar in the years 1 to 9999, counted by days from the
first of January of the year 1, which is day 0 and a Monday. Weeks begin on Monday, and the
first week of a year is the one that holds its first Thursday.
-/

namespace TypedRecords

/-- A date by its year, month and day, each counted from 1; not every such triple is in the
calendar. -/
structure CalendarDate where
  year : Nat
  month : Nat
  day : Nat
deriving DecidableEq

namespace CalendarDate

/-- The last year of the calendar. -/
def maxYear : Nat :=
  9999

/-- Whether a year has a 29th of February. -/
def isLeapYear (year : Nat) : Bool :=
  year % 4 == 0 && (year % 100 != 0 || year % 400 == 0)

/-- The number of days of a year. -/
def daysInYear (year : Nat) : Nat :=
  if isLeapYear year then 366 else 365

/-- The numbers of days of the months of a year. -/
def monthLengths (year : Nat) : List Nat :=
  [31, if isLeapYear year then 29 else 28, 31, 30, 31, 30, 31, 31, 30, 31, 30, 31]

/-- The number of days of a month; there are none outside the twelve months. -/
def daysInMonth (year month : Nat) : Nat :=
  if month = 0 then 0 else (monthLengths year).getD (month - 1) 0

/-- The number of days before the first of January of a year. -/
def daysBeforeYear (year : Nat) : Nat :=
  let past := year - 1
  365 * past + past / 4 - past / 100 + past / 400

/-- The number of days of months with the given lengths. -/
def totalDays : List Nat → Nat
  | [] => 0
  | length :: rest => length + totalDays rest

/-- The number of days of a year before the first of a month. -/
def daysBeforeMonth (year month : Nat) : Nat :=
  totalDays ((monthLengths year).take (month - 1))

/-- Whether the date is in the calendar. -/
def isValid (date : CalendarDate) : Bool :=
  1 ≤ date.year && date.year ≤ maxYear && 1 ≤ date.day &&
    date.day ≤ daysInMonth date.year date.month

/-- The number of days from the first day of the calendar to the date. -/
def dayNumber (date : CalendarDate) : Nat :=
  daysBeforeYear date.year + daysBeforeMonth date.year date.month + (date.day - 1)

/-- The number of days of the whole calendar. -/
def dayCount : Nat :=
  daysBeforeYear (maxYear + 1)

/-- The number of days of four hundred years, after which the calendar repeats. -/
def daysPerCycle : Nat :=
  146097

/-- The year, from `year` on, that holds the day `day` days after the first of January of
`year`, and the number of that day within it; at most `years` years are passed. -/
def yearOfDay : Nat → Nat → Nat → Nat × Nat
  | 0, year, day => (year, day)
  | years + 1, year, day =>
      if day < daysInYear year then (year, day)
      else yearOfDay years (year + 1) (day - daysInYear year)

/-- The month, from `month` on, that holds the day `day` days after its first, and the number
of that day within it, given the lengths of the months. -/
def monthOfDay : List Nat → Nat → Nat → Nat × Nat
  | [], month, day => (month, day)
  | length :: lengths, month, day =>
      if day < length then (month, day) else monthOfDay lengths (month + 1) (day - length)

/-- The date of a day number. -/
def ofDayNumber (number : Nat) : CalendarDate :=
  let firstYear := 400 * (number / daysPerCycle) + 1
  let (year, dayOfYear) := yearOfDay 399 firstYear (number % daysPerCycle)
  let (month, day) := monthOfDay (monthLengths year) 1 dayOfYear
  { year, month, day := day + 1 }

/-- The day of the week of a day number: zero for Monday, six for Sunday. -/
def weekday (number : Nat) : Nat :=
  number % 7

/-- The day number of the Monday of the first week of a year. -/
def firstMonday (year : Nat) : Nat :=
  let newYear := daysBeforeYear year
  let monday := newYear - weekday newYear
  if weekday newYear ≤ 3 then monday else monday + 7

/-- The number of weeks of a year: one more than usual if it begins on a Thursday, or is a leap
year and begins on a Wednesday. -/
def weeksInYear (year : Nat) : Nat :=
  let first := weekday (daysBeforeYear year)
  if first = 3 ∨ (first = 2 ∧ isLeapYear year) then 53 else 52

/-- The date of a day of a week, given the year that the week belongs to, the number of the
week and the day within it from 1 for Monday; none outside the calendar. -/
def ofWeek? (year week day : Nat) : Option CalendarDate :=
  if 1 ≤ year ∧ year ≤ maxYear ∧ 1 ≤ week ∧ week ≤ weeksInYear year ∧ 1 ≤ day ∧ day ≤ 7 then
    some (ofDayNumber (firstMonday year + (week - 1) * 7 + (day - 1)))
  else none

end CalendarDate

end TypedRecords
