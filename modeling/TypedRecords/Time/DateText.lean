import TypedRecords.Time.Moment

/-!
# Reading dates

The text of a date is a calendar date or a week date, with or without dashes, optionally
followed by one separating character, a time and an offset. Positions count the bytes of the
text; past its end lies a byte that is zero.

A time has one to three components of two digits, with colons or without, and a fraction of a
second, of which six digits are kept. The offset is `Z`, or a sign and a time. A text without
an offset is in universal time.
-/

namespace TypedRecords.DateText

/-- The byte at a position, zero past the end. -/
def byteAt (bytes : List Nat) (position : Nat) : Nat :=
  bytes.getD position 0

/-- Whether the byte at a position is the given character. -/
def isAt (bytes : List Nat) (position : Nat) (character : Char) : Bool :=
  byteAt bytes position == character.toNat

/-- Whether a byte is a decimal digit. -/
def isDigit (byte : Nat) : Bool :=
  '0'.toNat ≤ byte && byte ≤ '9'.toNat

/-- The number spelled by `count` digits at a position, after the number read so far. -/
def digitsFrom? (bytes : List Nat) (position read : Nat) : Nat → Option Nat
  | 0 => some read
  | count + 1 =>
      let byte := byteAt bytes position
      if isDigit byte then
        digitsFrom? bytes (position + 1) (10 * read + (byte - '0'.toNat)) count
      else none

/-- The number spelled by exactly `count` digits at a position. -/
def digits? (bytes : List Nat) (position count : Nat) : Option Nat :=
  digitsFrom? bytes position 0 count

/-- The first position from `position` on, among the next `count`, that holds no digit. -/
def skipDigits (bytes : List Nat) (position : Nat) : Nat → Nat
  | 0 => position
  | count + 1 =>
      if isDigit (byteAt bytes position) then skipDigits bytes (position + 1) count
      else position

/-- The position at which the date ends. Seven bytes are a date alone; otherwise the first
bytes tell which of the forms of a date is used. -/
def dateEnd? (bytes : List Nat) : Option Nat :=
  let length := bytes.length
  if length < 7 then none
  else if length = 7 then some 7
  else if isAt bytes 4 '-' then
    if !isAt bytes 5 'W' then some 10
    else if 8 < length && isAt bytes 8 '-' then
      if length = 9 then none
      else if 10 < length && isDigit (byteAt bytes 10) then some 8
      else some 10
    else some 8
  else if isAt bytes 4 'W' then
    let stop := skipDigits bytes 7 (length - 7)
    if stop < 9 then some stop
    else if stop % 2 = 0 then some 7
    else some 8
  else some 8

/-- The position after the dash that a date with dashes requires. -/
def afterDash? (bytes : List Nat) (dashes : Bool) (position : Nat) : Option Nat :=
  if !dashes then some position
  else if isAt bytes position '-' then some (position + 1)
  else none

/-- The date of a week, given as its number and optionally the day within it. -/
def weekDate? (bytes : List Nat) (year : Nat) (dashes : Bool) (position stop : Nat) :
    Option CalendarDate := do
  let week ← digits? bytes position 2
  let day ←
    if position + 2 < stop then do
      let position ← afterDash? bytes dashes (position + 2)
      digits? bytes position 1
    else some 1
  CalendarDate.ofWeek? year week day

/-- The date given as month and day; it must end where the date does. -/
def monthDate? (bytes : List Nat) (year : Nat) (dashes : Bool) (position stop : Nat) :
    Option CalendarDate := do
  let month ← digits? bytes position 2
  let position ← afterDash? bytes dashes (position + 2)
  let day ← digits? bytes position 2
  if position + 2 = stop then some { year, month, day } else none

/-- The date that ends at a position. -/
def date? (bytes : List Nat) (stop : Nat) : Option CalendarDate := do
  let year ← digits? bytes 0 4
  let dashes := isAt bytes 4 '-'
  let position := if dashes then 5 else 4
  let date ←
    if isAt bytes position 'W' then weekDate? bytes year dashes (position + 1) stop
    else monthDate? bytes year dashes position stop
  if date.isValid then some date else none

/-- What follows the components of a time. -/
inductive AfterComponents where
  /-- The time ends here; the flag tells whether other bytes follow. -/
  | finished (junk : Bool)
  /-- A fraction of a second begins at the position. -/
  | fraction (position : Nat)

/-- Up to `remaining` components of a time at a position, and what follows them. -/
def components? (bytes : List Nat) (stop : Nat) (colons : Bool) :
    Nat → Nat → Option (List Nat × AfterComponents)
  | 0, position => some ([], .fraction position)
  | remaining + 1, position => do
      let value ← digits? bytes position 2
      let separator := byteAt bytes (position + 2)
      if stop ≤ position + 3 then some ([value], .finished (separator != 0))
      else if colons && separator == ':'.toNat then do
        let (values, after) ← components? bytes stop colons remaining (position + 3)
        some (value :: values, after)
      else if separator == '.'.toNat || separator == ','.toNat then
        some ([value], .fraction (position + 3))
      else if !colons then do
        let (values, after) ← components? bytes stop colons remaining (position + 2)
        some (value :: values, after)
      else none

/-- A time or offset as it is spelled, before its ranges are checked, and whether other bytes
follow it. -/
structure Clock where
  time : TimeOfDay
  junk : Bool

/-- The time spelled between two positions. -/
def clock? (bytes : List Nat) (start stop : Nat) : Option Clock := do
  let colons := isAt bytes (start + 2) ':'
  let (values, after) ← components? bytes stop colons 3 start
  let hour := values.getD 0 0
  let minute := values.getD 1 0
  let second := values.getD 2 0
  match after with
  | .finished junk => some { time := { hour, minute, second, microsecond := 0 }, junk }
  | .fraction position =>
      let count := min 6 (stop - position)
      let fraction ← digits? bytes position count
      let rest := skipDigits bytes (position + count) bytes.length
      some {
        time := { hour, minute, second, microsecond := fraction * Nat.pow 10 (6 - count) }
        junk := byteAt bytes rest != 0 }

/-- Whether a byte begins an offset. -/
def isOffsetMark (byte : Nat) : Bool :=
  byte == '+'.toNat || byte == '-'.toNat || byte == 'Z'.toNat

/-- The first position from `position` on that begins an offset, or the end. -/
def offsetStart (bytes : List Nat) (position : Nat) : Nat :=
  position + ((bytes.drop position).takeWhile (!isOffsetMark ·)).length

/-- The signed offset that a clock spells, in microseconds. The fraction counts only beside
whole seconds, and an offset stays below one day. -/
def offset? (clock : Clock) (negative : Bool) : Option Int :=
  let time := clock.time
  let seconds := time.hour * 3600 + time.minute * 60 + time.second
  let micros : Nat := if seconds = 0 then 0 else seconds * 1000000 + time.microsecond
  if clock.junk || TimeOfDay.microsPerDay ≤ micros then none
  else some (if negative then -(micros : Int) else micros)

/-- The time and the offset spelled from a position to the end. -/
def timeAndOffset? (bytes : List Nat) (start : Nat) : Option (TimeOfDay × Int) := do
  let mark := offsetStart bytes start
  let clock ← clock? bytes start mark
  let offset ←
    if mark = bytes.length then (if clock.junk then none else some 0)
    else if isAt bytes mark 'Z' then (if byteAt bytes (mark + 1) == 0 then some 0 else none)
    else do
      let spelled ← clock? bytes (mark + 1) bytes.length
      offset? spelled (isAt bytes mark '-')
  if clock.time.isValid then some (clock.time, offset) else none

/-- The number of bytes of the character whose first byte is given. -/
def characterWidth (byte : Nat) : Nat :=
  if byte < 0x80 then 1
  else if byte < 0xe0 then 2
  else if byte < 0xf0 then 3
  else 4

/-- The bytes of a text in its encoding, of which the grammar of dates speaks. -/
def bytesOf (text : String) : List Nat :=
  text.toList.flatMap fun character => (String.utf8EncodeChar character).map UInt8.toNat

/-- The moment that bytes denote. -/
def ofBytes? (bytes : List Nat) : Option Moment := do
  let stop ← dateEnd? bytes
  let date ← date? bytes stop
  if bytes.length ≤ stop then
    some (Moment.ofLocal date { hour := 0, minute := 0, second := 0, microsecond := 0 } 0)
  else do
    let start := stop + characterWidth (byteAt bytes stop)
    let (time, offset) ← timeAndOffset? bytes start
    some (Moment.ofLocal date time offset)

end TypedRecords.DateText

namespace TypedRecords

/-- The moment that a text denotes, if it is the text of a date. -/
def Moment.ofText? (text : String) : Option Moment :=
  DateText.ofBytes? (DateText.bytesOf text)

end TypedRecords
