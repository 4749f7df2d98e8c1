import TypedRecords.Proofs.Timestamp

/-!
# Timestamps in the order of time

Every number in a timestamp is printed with all the digits of its place, so two timestamps compare
as texts by the first number in which they differ. Year, month and day come first and the time of
the day follows, from hours down to milliseconds: this is the order of the instants themselves,
rounded down to the millisecond. Only one direction is counted out here, that an earlier instant
has a smaller text. The other one follows, for instants and texts are both ordered in a line.
-/

namespace TypedRecords

namespace CalendarDate

theorem totalDays_take_succ (lengths : List Nat) (count : Nat) :
    totalDays (lengths.take (count + 1)) =
      totalDays (lengths.take count) + lengths.getD count 0 := by
  induction lengths generalizing count with
  | nil => simp [totalDays]
  | cons length rest ih =>
      cases count with
      | zero => simp [totalDays]
      | succ count =>
          rw [List.take_succ_cons, List.take_succ_cons, totalDays, totalDays, ih]
          simp [Nat.add_assoc]

theorem totalDays_take_mono (lengths : List Nat) {count more : Nat} (ordered : count ≤ more) :
    totalDays (lengths.take count) ≤ totalDays (lengths.take more) := by
  induction ordered with
  | refl => exact Nat.le_refl _
  | step _ ih =>
      rw [totalDays_take_succ]
      exact Nat.le_trans ih (Nat.le_add_right _ _)

/-- A day of a month lies before every later month of the year. -/
theorem daysBeforeMonth_add_le {year month day later : Nat} (positive : 1 ≤ day)
    (inMonth : day ≤ daysInMonth year month) (ordered : month < later) :
    daysBeforeMonth year month + day ≤ daysBeforeMonth year later := by
  have counted : month ≠ 0 := by
    rintro rfl
    rw [daysInMonth, if_pos rfl] at inMonth
    omega
  rw [daysInMonth, if_neg counted] at inMonth
  have next := totalDays_take_succ (monthLengths year) (month - 1)
  have rest := totalDays_take_mono (monthLengths year) (show month - 1 + 1 ≤ later - 1 by omega)
  simp only [daysBeforeMonth]
  omega

/-- A date lies before every later year. -/
theorem dayNumber_lt_daysBeforeYear {date : CalendarDate} {later : Nat}
    (valid : date.isValid = true) (ordered : date.year < later) :
    date.dayNumber < daysBeforeYear later := by
  have month := (bounds_of_isValid valid).2.1
  simp only [isValid, Bool.and_eq_true, decide_eq_true_eq] at valid
  rcases valid with ⟨⟨⟨first, _⟩, positive⟩, inMonth⟩
  have inYear : daysBeforeMonth date.year date.month + date.day ≤ daysInYear date.year := by
    rw [← totalDays_monthLengths]
    exact daysBeforeMonth_add_le positive inMonth (Nat.lt_succ_of_le month)
  have next := daysBeforeYear_succ first
  have rest := daysBeforeYear_mono (show date.year + 1 ≤ later from ordered)
  rw [dayNumber]
  omega

/-- One date comes before another by its year, its month in the same year, or its day in the
same month. -/
def Before (date other : CalendarDate) : Prop :=
  date.year < other.year ∨ date.year = other.year ∧
    (date.month < other.month ∨ date.month = other.month ∧ date.day < other.day)

theorem before_of_dayNumber_lt {date other : CalendarDate} (valid : other.isValid = true)
    (less : date.dayNumber < other.dayNumber) : date.Before other := by
  rcases Nat.lt_trichotomy date.year other.year with earlier | sameYear | later
  · exact Or.inl earlier
  · refine Or.inr ⟨sameYear, ?_⟩
    simp only [dayNumber, sameYear] at less
    rcases Nat.lt_trichotomy date.month other.month with earlier | sameMonth | later
    · exact Or.inl earlier
    · rw [sameMonth] at less
      exact Or.inr ⟨sameMonth, by omega⟩
    · simp only [isValid, Bool.and_eq_true, decide_eq_true_eq] at valid
      have passed := daysBeforeMonth_add_le valid.1.2 valid.2 later
      omega
  · have passed := dayNumber_lt_daysBeforeYear valid later
    rw [dayNumber] at less
    omega

end CalendarDate

namespace TimeOfDay

/-- One time of the day comes before another to the millisecond. -/
def Before (time other : TimeOfDay) : Prop :=
  time.hour < other.hour ∨ time.hour = other.hour ∧
    (time.minute < other.minute ∨ time.minute = other.minute ∧
      (time.second < other.second ∨ time.second = other.second ∧
        time.microsecond / 1000 < other.microsecond / 1000))

theorem before_of_lt {micros other : Nat} (less : micros / 1000 < other / 1000) :
    (ofMicros micros).Before (ofMicros other) := by
  simp only [Before, ofMicros]
  omega

end TimeOfDay

namespace DateText

open Moment

theorem length_paddedDigits (width number : Nat) : (paddedDigits width number).length = width := by
  simpa only [codes, List.length_map] using length_codes_paddedDigits width number

theorem append_lt_append {front other : List Char} (rest more : List Char)
    (aligned : front.length = other.length) (less : front < other) :
    front ++ rest < other ++ more := by
  induction front generalizing other with
  | nil =>
      rw [List.eq_nil_of_length_eq_zero aligned.symm] at less
      exact absurd less (List.lt_irrefl [])
  | cons character front ih =>
      cases other with
      | nil => exact absurd less (List.not_lt_nil _)
      | cons first other =>
          rw [List.cons_lt_cons_iff] at less
          rw [List.cons_append, List.cons_append, List.cons_lt_cons_iff]
          rcases less with smaller | ⟨same, less⟩
          · exact Or.inl smaller
          · exact Or.inr ⟨same, ih (Nat.succ.inj aligned) less⟩

theorem digit_lt_digit {small large : Nat} (less : small < large) (digit : large < 10) :
    Char.ofNat ('0'.toNat + small) < Char.ofNat ('0'.toNat + large) := by
  rw [Char.lt_def, UInt32.lt_iff_toNat_lt]
  change (Char.ofNat ('0'.toNat + small)).toNat < (Char.ofNat ('0'.toNat + large)).toNat
  rw [toNat_digit _ (Nat.lt_trans less digit), toNat_digit _ digit]
  exact Nat.add_lt_add_left less _

/-- Numbers that fit the width are ordered as their digits are: either the quotients by ten are, or
these are equal and only the last digit is left to differ. -/
theorem paddedDigits_lt {width small large : Nat} (less : small < large)
    (fits : large < Nat.pow 10 width) : paddedDigits width small < paddedDigits width large := by
  induction width generalizing small large with
  | zero =>
      have none : large < 1 := fits
      omega
  | succ width ih =>
      have power : Nat.pow 10 (width + 1) = 10 * Nat.pow 10 width := Nat.pow_succ'
      rw [power] at fits
      rw [paddedDigits, paddedDigits]
      rcases Nat.lt_or_ge (small / 10) (large / 10) with front | front
      · refine append_lt_append _ _ ?_ (ih front (Nat.div_lt_of_lt_mul fits))
        rw [length_paddedDigits, length_paddedDigits]
      · have same : small / 10 = large / 10 := by omega
        have last : small % 10 < large % 10 := by omega
        rw [same]
        refine List.append_left_lt (List.cons_lt_cons_iff.mpr (Or.inl ?_))
        exact digit_lt_digit last (Nat.mod_lt _ (by decide))

theorem paddedDigits_append_lt {width small large : Nat} {rest more : List Char}
    (fits : large < Nat.pow 10 width) (before : small < large ∨ small = large ∧ rest < more) :
    paddedDigits width small ++ rest < paddedDigits width large ++ more := by
  rcases before with less | ⟨rfl, less⟩
  · refine append_lt_append rest more ?_ (paddedDigits_lt less fits)
    rw [length_paddedDigits, length_paddedDigits]
  · exact List.append_left_lt less

theorem paddedDigits_cons_lt {width small large : Nat} {rest more : List Char} (separator : Char)
    (fits : large < Nat.pow 10 width) (before : small < large ∨ small = large ∧ rest < more) :
    paddedDigits width small ++ separator :: rest <
      paddedDigits width large ++ separator :: more :=
  paddedDigits_append_lt fits (before.imp_right (And.imp_right List.cons_lt_cons_self.mpr))

theorem dateDigits_lt {date other : CalendarDate} (valid : other.isValid = true)
    (before : date.Before other) : dateDigits date < dateDigits other := by
  have bounds := CalendarDate.bounds_of_isValid valid
  rw [CalendarDate.maxYear] at bounds
  rcases bounds with ⟨year, month, day⟩
  simp only [dateDigits, List.append_assoc, List.cons_append]
  refine paddedDigits_cons_lt '-' (Nat.lt_succ_of_le year) (before.imp_right (And.imp_right ?_))
  intro inYear
  refine paddedDigits_cons_lt '-' (Nat.lt_of_le_of_lt month (by decide))
    (inYear.imp_right (And.imp_right ?_))
  exact fun inMonth => paddedDigits_lt inMonth (Nat.lt_of_le_of_lt day (by decide))

theorem timeDigits_lt {time other : TimeOfDay} (valid : other.isValid = true)
    (before : time.Before other) :
    clockDigits time ++ '.' :: paddedDigits 3 (time.microsecond / 1000) <
      clockDigits other ++ '.' :: paddedDigits 3 (other.microsecond / 1000) := by
  simp only [TimeOfDay.isValid, Bool.and_eq_true, decide_eq_true_eq] at valid
  rcases valid with ⟨⟨⟨hour, minute⟩, second⟩, microsecond⟩
  simp only [clockDigits, List.append_assoc, List.cons_append]
  refine paddedDigits_cons_lt ':' (Nat.lt_trans hour (by decide))
    (before.imp_right (And.imp_right ?_))
  intro inHour
  refine paddedDigits_cons_lt ':' (Nat.lt_trans minute (by decide))
    (inHour.imp_right (And.imp_right ?_))
  intro inMinute
  refine paddedDigits_cons_lt '.' (Nat.lt_trans second (by decide))
    (inMinute.imp_right (And.imp_right ?_))
  exact fun inSecond => paddedDigits_lt inSecond (Nat.div_lt_of_lt_mul microsecond)

/-- The texts are ordered by their dates, and by their times on one day. -/
theorem timestampText_lt {date day : CalendarDate} {time other : TimeOfDay}
    (dayValid : day.isValid = true) (timeValid : other.isValid = true)
    (before : date.Before day ∨ date = day ∧ time.Before other) :
    timestampText date time < timestampText day other := by
  simp only [timestampText, List.append_assoc, List.cons_append]
  rcases before with earlier | ⟨rfl, earlier⟩
  · refine append_lt_append _ _ ?_ (dateDigits_lt dayValid earlier)
    simp [dateDigits, length_paddedDigits]
  · refine List.append_left_lt (List.cons_lt_cons_self.mpr ?_)
    have aligned : (clockDigits time ++ '.' :: paddedDigits 3 (time.microsecond / 1000)).length =
        (clockDigits other ++ '.' :: paddedDigits 3 (other.microsecond / 1000)).length := by
      simp [clockDigits, length_paddedDigits]
    simpa using append_lt_append ['Z'] ['Z'] aligned (timeDigits_lt timeValid earlier)

end DateText

namespace Moment

theorem timestampOf_lt {micros later : Nat}
    (inside : later < CalendarDate.dayCount * TimeOfDay.microsPerDay)
    (less : micros / 1000 < later / 1000) : timestampOf micros < timestampOf later := by
  have day : (partsOf later).1.isValid = true :=
    CalendarDate.isValid_ofDayNumber (Nat.div_lt_of_lt_mul (by rwa [Nat.mul_comm]))
  have time : (partsOf later).2.isValid = true :=
    TimeOfDay.isValid_ofMicros (Nat.mod_lt _ (by decide))
  rw [timestampOf_eq, timestampOf_eq, String.lt_iff, String.toList_ofList,
    String.toList_ofList]
  refine DateText.timestampText_lt day time ?_
  rcases Nat.lt_or_ge (micros / TimeOfDay.microsPerDay) (later / TimeOfDay.microsPerDay) with
    earlier | sameDay
  · refine Or.inl (CalendarDate.before_of_dayNumber_lt day ?_)
    simpa only [partsOf, CalendarDate.dayNumber_ofDayNumber] using earlier
  · rw [TimeOfDay.microsPerDay] at sameDay
    have same : micros / 86400000000 = later / 86400000000 := by omega
    refine Or.inr ⟨congrArg CalendarDate.ofDayNumber same, TimeOfDay.before_of_lt ?_⟩
    rw [TimeOfDay.microsPerDay]
    omega

variable {first second : Moment} {text other : String}

theorem timestamp_lt_of_lt (printed : first.timestamp? = some text)
    (alsoPrinted : second.timestamp? = some other)
    (less : first.truncated.instant < second.truncated.instant) : text < other := by
  rw [timestamp?] at printed alsoPrinted
  split at printed
  · rename_i writable
    split at alsoPrinted
    · rename_i alsoWritable
      cases printed
      cases alsoPrinted
      simp only [isWritable, Bool.and_eq_true, decide_eq_true_eq] at writable alsoWritable
      simp only [truncated] at less
      exact timestampOf_lt (by omega) (by omega)
    · cases alsoPrinted
  · cases printed

theorem timestamp_eq_of_eq (printed : first.timestamp? = some text)
    (alsoPrinted : second.timestamp? = some other)
    (same : first.truncated.instant = second.truncated.instant) : text = other := by
  have rounded : first.truncated = second.truncated := by simpa [truncated] using same
  have again := (ofText?_of_timestamp? printed).2
  rw [rounded, (ofText?_of_timestamp? alsoPrinted).2] at again
  exact (Option.some.inj again).symm

/-- Two timestamps are ordered as the instants that they show. -/
theorem timestamp_lt_iff (printed : first.timestamp? = some text)
    (alsoPrinted : second.timestamp? = some other) :
    text < other ↔ first.truncated.instant < second.truncated.instant := by
  refine ⟨fun less => ?_, timestamp_lt_of_lt printed alsoPrinted⟩
  rcases Int.lt_trichotomy first.truncated.instant second.truncated.instant with
    earlier | same | later
  · exact earlier
  · rw [timestamp_eq_of_eq printed alsoPrinted same] at less
    exact absurd less (String.lt_irrefl other)
  · exact absurd (timestamp_lt_of_lt alsoPrinted printed later) (String.lt_asymm less)

/-- Two timestamps are the same text if they show the same instant, and only then. -/
theorem timestamp_eq_iff (printed : first.timestamp? = some text)
    (alsoPrinted : second.timestamp? = some other) :
    text = other ↔ first.truncated.instant = second.truncated.instant := by
  refine ⟨?_, timestamp_eq_of_eq printed alsoPrinted⟩
  rintro rfl
  have one := (ofText?_of_timestamp? printed).1
  rw [(ofText?_of_timestamp? alsoPrinted).1] at one
  exact congrArg instant (Option.some.inj one).symm

theorem timestamp?_of_isWritable {moment : Moment} (writable : moment.isWritable = true) :
    moment.timestamp? = some (timestampOf moment.instant.toNat) :=
  if_pos writable

/-- Timestamps sort as time passes: of two moments that lie in the calendar in universal time, the
one whose instant is not after the other's, rounded down to the millisecond, has the text that does
not come after the other's; and the texts are equal exactly if the rounded instants are. -/
theorem timestamps_sorted (first second : Moment) (inside : first.isWritable = true)
    (alsoInside : second.isWritable = true) :
    ∃ text other, first.timestamp? = some text ∧ second.timestamp? = some other ∧
      (text ≤ other ↔ first.truncated.instant ≤ second.truncated.instant) ∧
      (text = other ↔ first.truncated.instant = second.truncated.instant) := by
  have printed := timestamp?_of_isWritable inside
  have alsoPrinted := timestamp?_of_isWritable alsoInside
  refine ⟨_, _, printed, alsoPrinted, ?_, timestamp_eq_iff printed alsoPrinted⟩
  rw [← String.not_lt, ← Int.not_lt]
  exact not_congr (timestamp_lt_iff alsoPrinted printed)

/-- Half past midnight on the first of March of a leap year, one hour east, lies before a quarter to
midnight of the day before in universal time, and so does its text. -/
theorem leapDay_sorted :
    let early := ofLocal { year := 2024, month := 3, day := 1 }
      { hour := 0, minute := 30, second := 0, microsecond := 1 } 3600000000
    let late := ofLocal { year := 2024, month := 2, day := 29 }
      { hour := 23, minute := 45, second := 0, microsecond := 0 } 0
    early.isWritable = true ∧ late.isWritable = true ∧
      ∃ text other, early.timestamp? = some text ∧ late.timestamp? = some other ∧
        (text ≤ other ↔ early.truncated.instant ≤ late.truncated.instant) ∧
        (text = other ↔ early.truncated.instant = late.truncated.instant) :=
  ⟨by decide +kernel, by decide +kernel,
    timestamps_sorted _ _ (by decide +kernel) (by decide +kernel)⟩

end Moment

end TypedRecords
