import TypedRecords.Proofs.DateText

/-!
# Timestamps and their readings

The timestamp of a moment of the calendar is read as the same instant in universal time, rounded
down to the millisecond; and the moment that is read has the same timestamp.
-/

namespace TypedRecords

namespace TimeOfDay

theorem isValid_ofMicros {micros : Nat} (inDay : micros < microsPerDay) :
    (ofMicros micros).isValid = true := by
  rw [microsPerDay] at inDay
  have hour : micros / 3600000000 < 24 := by omega
  have minute : micros / 60000000 % 60 < 60 := Nat.mod_lt _ (by decide)
  have second : micros / 1000000 % 60 < 60 := Nat.mod_lt _ (by decide)
  have microsecond : micros % 1000000 < 1000000 := Nat.mod_lt _ (by decide)
  simp [isValid, ofMicros, hour, minute, second, microsecond]

/-- Rounding a time down to the millisecond is rounding down its microseconds. -/
theorem ofMicros_rounded (micros : Nat) :
    ofMicros (micros / 1000 * 1000) = DateText.shown (ofMicros micros) := by
  simp only [ofMicros, DateText.shown, mk.injEq]
  omega

theorem micros_ofMicros (micros : Nat) : (ofMicros micros).micros = micros := by
  simp only [ofMicros, TimeOfDay.micros]
  omega

end TimeOfDay

namespace DateText

variable {date : CalendarDate} {time : TimeOfDay}

theorem timestampText_shown (date : CalendarDate) (time : TimeOfDay) :
    timestampText date (shown time) = timestampText date time := by
  have millis : time.microsecond / 1000 * 1000 / 1000 = time.microsecond / 1000 :=
    Nat.mul_div_cancel _ (by decide)
  simp only [timestampText, shown, Moment.clockDigits, millis]

theorem narrow_of_isDigit {byte : Nat} (digit : isDigit byte = true) : byte < 128 := by
  simp only [isDigit, Bool.and_eq_true, decide_eq_true_eq] at digit
  have nine : '9'.toNat = 57 := rfl
  omega

theorem narrow_timestampText {byte : Nat} (member : byte ∈ codes (timestampText date time)) :
    byte < 128 := by
  simp only [timestampText, Moment.dateDigits, Moment.clockDigits, codes_append, codes_cons,
    codes_nil, List.mem_append, List.mem_cons, List.not_mem_nil, or_false] at member
  rcases member with ((((year | rfl | month) | rfl | day) | rfl | (hour | rfl | minute) | rfl |
    second) | rfl | millis) | rfl
  · exact narrow_of_isDigit (isDigit_of_mem year)
  · decide
  · exact narrow_of_isDigit (isDigit_of_mem month)
  · decide
  · exact narrow_of_isDigit (isDigit_of_mem day)
  · decide
  · exact narrow_of_isDigit (isDigit_of_mem hour)
  · decide
  · exact narrow_of_isDigit (isDigit_of_mem minute)
  · decide
  · exact narrow_of_isDigit (isDigit_of_mem second)
  · decide
  · exact narrow_of_isDigit (isDigit_of_mem millis)
  · decide

end DateText

namespace Moment

theorem timestampOf_eq (micros : Nat) :
    timestampOf micros =
      String.ofList (DateText.timestampText (partsOf micros).1 (partsOf micros).2) :=
  rfl

theorem partsOf_rounded (micros : Nat) :
    partsOf (micros / 1000 * 1000) = ((partsOf micros).1, DateText.shown (partsOf micros).2) := by
  have day : micros / 1000 * 1000 / TimeOfDay.microsPerDay = micros / TimeOfDay.microsPerDay := by
    simp only [TimeOfDay.microsPerDay]
    omega
  have inDay : micros / 1000 * 1000 % TimeOfDay.microsPerDay =
      micros % TimeOfDay.microsPerDay / 1000 * 1000 := by
    simp only [TimeOfDay.microsPerDay]
    omega
  simp only [partsOf, day, inDay, TimeOfDay.ofMicros_rounded]

theorem timestampOf_rounded (micros : Nat) :
    timestampOf (micros / 1000 * 1000) = timestampOf micros := by
  rw [timestampOf_eq, timestampOf_eq, partsOf_rounded, DateText.timestampText_shown]

/-- A count of microseconds is that of its date and time. -/
theorem ofLocal_partsOf (micros : Nat) :
    ofLocal (partsOf micros).1 (partsOf micros).2 0 = { instant := micros, offset := 0 } := by
  have whole := Nat.div_add_mod' micros TimeOfDay.microsPerDay
  simp only [ofLocal, partsOf, CalendarDate.dayNumber_ofDayNumber, TimeOfDay.micros_ofMicros, whole]
  simp

theorem ofText?_timestampOf {micros : Nat}
    (inside : micros < CalendarDate.dayCount * TimeOfDay.microsPerDay) :
    ofText? (timestampOf micros) =
      some { instant := (micros / 1000 * 1000 : Nat), offset := 0 } := by
  have date : (partsOf micros).1.isValid = true :=
    CalendarDate.isValid_ofDayNumber (Nat.div_lt_of_lt_mul (by rwa [Nat.mul_comm]))
  have time : (partsOf micros).2.isValid = true :=
    TimeOfDay.isValid_ofMicros (Nat.mod_lt _ (by decide))
  rw [ofText?, timestampOf_eq, DateText.bytesOf_ofList
    fun _ member => DateText.narrow_timestampText (List.mem_map_of_mem member),
    DateText.ofBytes?_timestampText date time]
  have rounded := ofLocal_partsOf (micros / 1000 * 1000)
  rw [partsOf_rounded] at rounded
  rw [rounded]

/-- The timestamp of a moment is read as the moment rounded down, and is its timestamp as well. -/
theorem ofText?_of_timestamp? {moment : Moment} {text : String}
    (printed : moment.timestamp? = some text) :
    ofText? text = some moment.truncated ∧ moment.truncated.timestamp? = some text := by
  rw [timestamp?] at printed
  split at printed
  · rename_i writable
    cases printed
    simp only [isWritable, Bool.and_eq_true, decide_eq_true_eq] at writable
    rcases writable with ⟨positive, inside⟩
    rcases Int.eq_ofNat_of_zero_le positive with ⟨micros, counted⟩
    have rounded : moment.truncated = { instant := (micros / 1000 * 1000 : Nat), offset := 0 } := by
      rw [truncated, counted]
      simp
    have before : micros < CalendarDate.dayCount * TimeOfDay.microsPerDay := by
      rw [counted] at inside
      exact Int.ofNat_lt.mp inside
    have roundedWritable : moment.truncated.isWritable = true := by
      have less : micros / 1000 * 1000 ≤ micros := Nat.div_mul_le_self micros 1000
      rw [rounded]
      simp only [isWritable, Bool.and_eq_true, decide_eq_true_eq]
      omega
    rw [timestamp?, if_pos roundedWritable, rounded, counted]
    simp only [Int.toNat_natCast, timestampOf_rounded]
    exact ⟨ofText?_timestampOf before, trivial⟩
  · cases printed

end Moment

end TypedRecords
