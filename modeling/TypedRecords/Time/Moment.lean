import TypedRecords.Time.Calendar

/-!
# Moments

A moment is an instant, counted in microseconds from the beginning of the calendar in
universal time, together with the offset of the local time in which it was given. Moments are
compared by their instants. `Moment.timestamp?` is the form in which moments leave the library:
universal time to the millisecond, rounded down.
-/

namespace TypedRecords

/-- An instant with the offset of the local time in which it was given, in microseconds. -/
structure Moment where
  instant : Int
  offset : Int
deriving DecidableEq

/-- A time within a day, to the microsecond. -/
structure TimeOfDay where
  hour : Nat
  minute : Nat
  second : Nat
  microsecond : Nat
deriving DecidableEq

namespace TimeOfDay

/-- The number of microseconds of a day. -/
def microsPerDay : Nat :=
  86400000000

/-- Whether the time exists; there are no leap seconds. -/
def isValid (time : TimeOfDay) : Bool :=
  time.hour < 24 && time.minute < 60 && time.second < 60 && time.microsecond < 1000000

/-- The number of microseconds from midnight to the time. -/
def micros (time : TimeOfDay) : Nat :=
  ((time.hour * 60 + time.minute) * 60 + time.second) * 1000000 + time.microsecond

/-- The time that many microseconds after midnight. -/
def ofMicros (micros : Nat) : TimeOfDay :=
  { hour := micros / 3600000000
    minute := micros / 60000000 % 60
    second := micros / 1000000 % 60
    microsecond := micros % 1000000 }

end TimeOfDay

namespace Moment

/-- The moment at which a clock with the given offset shows a date and time. -/
def ofLocal (date : CalendarDate) (time : TimeOfDay) (offset : Int) : Moment :=
  { instant := (date.dayNumber * TimeOfDay.microsPerDay + time.micros : Nat) - offset
    offset }

/-- The date and time of a count of microseconds from the beginning of the calendar. -/
def partsOf (micros : Nat) : CalendarDate × TimeOfDay :=
  (CalendarDate.ofDayNumber (micros / TimeOfDay.microsPerDay),
    TimeOfDay.ofMicros (micros % TimeOfDay.microsPerDay))

/-- The date and time that the local clock shows. -/
def localParts (moment : Moment) : CalendarDate × TimeOfDay :=
  partsOf (moment.instant + moment.offset).toNat

/-- Whether the instant lies in the calendar in universal time. -/
def isWritable (moment : Moment) : Bool :=
  0 ≤ moment.instant &&
    moment.instant < (CalendarDate.dayCount * TimeOfDay.microsPerDay : Nat)

/-- The same instant rounded down to the millisecond, in universal time. -/
def truncated (moment : Moment) : Moment :=
  { instant := moment.instant / 1000 * 1000, offset := 0 }

/-- The last `width` decimal digits of a number, with leading zeros. -/
def paddedDigits : Nat → Nat → List Char
  | 0, _ => []
  | width + 1, number =>
      paddedDigits width (number / 10) ++ [Char.ofNat ('0'.toNat + number % 10)]

/-- A date as year, month and day. -/
def dateDigits (date : CalendarDate) : List Char :=
  paddedDigits 4 date.year ++ '-' :: paddedDigits 2 date.month ++
    '-' :: paddedDigits 2 date.day

/-- A time as hours, minutes and seconds. -/
def clockDigits (time : TimeOfDay) : List Char :=
  paddedDigits 2 time.hour ++ ':' :: paddedDigits 2 time.minute ++
    ':' :: paddedDigits 2 time.second

/-- The timestamp of an instant of the calendar. -/
def timestampOf (micros : Nat) : String :=
  let (date, time) := partsOf micros
  String.ofList (dateDigits date ++ 'T' :: clockDigits time ++
    '.' :: paddedDigits 3 (time.microsecond / 1000) ++ ['Z'])

/-- The timestamp of a moment, unless it lies outside the calendar in universal time. -/
def timestamp? (moment : Moment) : Option String :=
  if moment.isWritable then some (timestampOf moment.instant.toNat) else none

/-- The date and time of the local clock to the microsecond. -/
def localText (moment : Moment) : String :=
  let (date, time) := moment.localParts
  String.ofList (dateDigits date ++ 'T' :: clockDigits time ++
    '.' :: paddedDigits 6 time.microsecond)

end Moment

end TypedRecords
