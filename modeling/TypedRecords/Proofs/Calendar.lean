import TypedRecords.Time.Calendar

/-!
# Dates and day numbers

Counting years from the first one of a cycle, and then months from January, finds the date whose
day number is given: the days before the year, the days before the month and the day within the
month add up to the number. Inside the calendar this date exists.
-/

namespace TypedRecords.CalendarDate

/-- Of the quotients by 4, 100 and 400 those grow from one year to the next that make a leap year;
beyond that they are only added up. -/
theorem daysBeforeYear_succ {year : Nat} (positive : 1 ≤ year) :
    daysBeforeYear (year + 1) = daysBeforeYear year + daysInYear year := by
  rcases Nat.exists_eq_add_of_le' positive with ⟨past, rfl⟩
  have fours : (past + 1) / 4 = past / 4 + if 4 ∣ past + 1 then 1 else 0 := Nat.succ_div
  have hundreds : (past + 1) / 100 = past / 100 + if 100 ∣ past + 1 then 1 else 0 :=
    Nat.succ_div
  have cycles : (past + 1) / 400 = past / 400 + if 400 ∣ past + 1 then 1 else 0 :=
    Nat.succ_div
  have fewer : past / 100 ≤ past / 4 := Nat.div_le_div_left (by decide) (by decide)
  have length : daysInYear (past + 1) =
      if 4 ∣ past + 1 ∧ (¬ 100 ∣ past + 1 ∨ 400 ∣ past + 1) then 366 else 365 := by
    simp [daysInYear, isLeapYear, Nat.dvd_iff_mod_eq_zero]
  simp only [daysBeforeYear, length, Nat.add_sub_cancel, fours, hundreds, cycles]
  generalize past / 4 = quarters at *
  generalize past / 100 = centuries at *
  generalize past / 400 = eras at *
  by_cases four : 4 ∣ past + 1
  · by_cases hundred : 100 ∣ past + 1
    · by_cases cycle : 400 ∣ past + 1
      · simp only [four, hundred, cycle, ↓reduceIte, not_true, or_true, and_true]
        omega
      · simp only [four, hundred, cycle, ↓reduceIte, not_true, or_false, and_false]
        omega
    · have uneven : ¬ 400 ∣ past + 1 := fun cycle => hundred (Nat.dvd_trans (by decide) cycle)
      simp only [four, hundred, uneven, ↓reduceIte, not_false_eq_true, or_false, and_true]
      omega
  · have odd : ¬ 100 ∣ past + 1 := fun hundred => four (Nat.dvd_trans (by decide) hundred)
    have uneven : ¬ 400 ∣ past + 1 := fun cycle => four (Nat.dvd_trans (by decide) cycle)
    simp only [four, odd, uneven, ↓reduceIte, not_false_eq_true, or_false, and_true]
    omega

theorem daysBeforeYear_mono {first later : Nat} (ordered : first ≤ later) :
    daysBeforeYear first ≤ daysBeforeYear later := by
  induction ordered with
  | refl => exact Nat.le_refl _
  | @step year _ ih =>
      refine Nat.le_trans ih ?_
      cases year with
      | zero => decide
      | succ year =>
          rw [daysBeforeYear_succ (Nat.le_add_left 1 year)]
          exact Nat.le_add_right _ _

theorem daysBeforeYear_cycle (cycles : Nat) :
    daysBeforeYear (400 * cycles + 1) = daysPerCycle * cycles := by
  simp only [daysBeforeYear, daysPerCycle]
  omega

theorem totalDays_monthLengths (year : Nat) : totalDays (monthLengths year) = daysInYear year := by
  cases leap : isLeapYear year <;> simp [monthLengths, totalDays, daysInYear, leap]

theorem daysInMonth_le (year month : Nat) : daysInMonth year month ≤ 31 := by
  have bounded : ∀ length ∈ monthLengths year, length ≤ 31 := by
    cases leap : isLeapYear year <;> simp [monthLengths, leap]
  rw [daysInMonth]
  split
  · exact Nat.zero_le 31
  · rw [List.getD_eq_getElem?_getD]
    rcases found : (monthLengths year)[month - 1]? with _ | length
    · exact Nat.zero_le 31
    · exact bounded length (List.mem_of_getElem? found)

theorem daysInMonth_of_lt {month : Nat} (year : Nat) (late : 12 < month) :
    daysInMonth year month = 0 := by
  have past : (monthLengths year)[month - 1]? = none := by
    rw [List.getElem?_eq_none_iff, monthLengths]
    simp only [List.length_cons, List.length_nil]
    omega
  simp [daysInMonth, past]

/-- The year that is found holds the day, and no more years are passed than allowed. -/
theorem yearOfDay_spec (years : Nat) {year : Nat} (day : Nat) (positive : 1 ≤ year)
    (within : daysBeforeYear year + day < daysBeforeYear (year + years + 1)) :
    daysBeforeYear (yearOfDay years year day).1 + (yearOfDay years year day).2 =
        daysBeforeYear year + day ∧
      (yearOfDay years year day).2 < daysInYear (yearOfDay years year day).1 ∧
      year ≤ (yearOfDay years year day).1 := by
  induction years generalizing year day with
  | zero =>
      have next := daysBeforeYear_succ positive
      refine ⟨rfl, ?_, Nat.le_refl year⟩
      simp only [yearOfDay]
      simp only [Nat.add_zero] at within
      omega
  | succ years ih =>
      rw [yearOfDay]
      by_cases here : day < daysInYear year
      · rw [if_pos here]
        exact ⟨rfl, here, Nat.le_refl year⟩
      · have next := daysBeforeYear_succ positive
        have same : year + 1 + years + 1 = year + (years + 1) + 1 := by omega
        have later := ih (day - daysInYear year) (Nat.le_add_left 1 year) (by rw [same]; omega)
        rw [if_neg here]
        refine ⟨?_, later.2.1, ?_⟩
        · omega
        · omega

theorem monthOfDay_spec {lengths : List Nat} (month : Nat) {day : Nat}
    (within : day < totalDays lengths) :
    ∃ passed rest, (monthOfDay lengths month day) = (month + passed, rest) ∧
      totalDays (lengths.take passed) + rest = day ∧ rest < lengths.getD passed 0 ∧
      passed < lengths.length := by
  induction lengths generalizing month day with
  | nil => simp [totalDays] at within
  | cons length others ih =>
      rw [monthOfDay]
      by_cases here : day < length
      · exact ⟨0, day, by simp [here], by simp [totalDays], by simpa using here, by simp⟩
      · rw [totalDays] at within
        have fewer : day - length < totalDays others := by omega
        rcases ih (month + 1) fewer with ⟨passed, rest, found, total, inside, bounded⟩
        refine ⟨passed + 1, rest, ?_, ?_, ?_, ?_⟩
        · rw [if_neg here, found]
          congr 1
          omega
        · rw [List.take_succ_cons, totalDays]
          omega
        · simpa using inside
        · simpa using bounded

/-- The year, month and day that are found add up to the day number. -/
theorem ofDayNumber_spec (number : Nat) :
    ∃ year passed rest, ofDayNumber number = { year, month := 1 + passed, day := rest + 1 } ∧
      daysBeforeYear year + totalDays ((monthLengths year).take passed) + rest = number ∧
      1 ≤ year ∧ rest < (monthLengths year).getD passed 0 ∧ passed < 12 := by
  have cycle := daysBeforeYear_cycle (number / daysPerCycle)
  have nextCycle := daysBeforeYear_cycle (number / daysPerCycle + 1)
  have divided := Nat.div_add_mod number daysPerCycle
  have inCycle : number % daysPerCycle < daysPerCycle := Nat.mod_lt _ (by decide)
  have same : 400 * (number / daysPerCycle) + 1 + 399 + 1 =
      400 * (number / daysPerCycle + 1) + 1 := by omega
  have found := yearOfDay_spec 399 (number % daysPerCycle)
    (Nat.le_add_left 1 (400 * (number / daysPerCycle)))
    (by rw [same, cycle, nextCycle, Nat.mul_add]; omega)
  rcases inYear : yearOfDay 399 (400 * (number / daysPerCycle) + 1) (number % daysPerCycle) with
    ⟨year, dayOfYear⟩
  rw [inYear, cycle] at found
  simp only at found
  rcases found with ⟨total, inside, first⟩
  rw [← totalDays_monthLengths] at inside
  rcases monthOfDay_spec 1 inside with ⟨passed, rest, inMonth, days, bounded, month⟩
  refine ⟨year, passed, rest, ?_, ?_, ?_, bounded, month⟩
  · simp only [ofDayNumber, inYear, inMonth]
  · omega
  · omega

theorem dayNumber_ofDayNumber (number : Nat) : (ofDayNumber number).dayNumber = number := by
  rcases ofDayNumber_spec number with ⟨year, passed, rest, found, total, _⟩
  rw [found, dayNumber, daysBeforeMonth]
  simpa using total

theorem isValid_ofDayNumber {number : Nat} (inside : number < dayCount) :
    (ofDayNumber number).isValid = true := by
  rcases ofDayNumber_spec number with ⟨year, passed, rest, found, total, first, bounded, month⟩
  have last : year ≤ maxYear := by
    apply Nat.le_of_not_lt
    intro later
    have after : daysBeforeYear (maxYear + 1) ≤ daysBeforeYear year := daysBeforeYear_mono later
    rw [dayCount] at inside
    omega
  have length : daysInMonth year (1 + passed) = (monthLengths year).getD passed 0 := by
    simp [daysInMonth]
  simp only [found, isValid, Bool.and_eq_true, decide_eq_true_eq, length]
  omega

theorem bounds_of_isValid {date : CalendarDate} (valid : date.isValid = true) :
    date.year ≤ maxYear ∧ date.month ≤ 12 ∧ date.day ≤ 31 := by
  simp only [isValid, Bool.and_eq_true, decide_eq_true_eq] at valid
  rcases valid with ⟨⟨⟨_, year⟩, positive⟩, day⟩
  refine ⟨year, ?_, Nat.le_trans day (daysInMonth_le _ _)⟩
  apply Nat.le_of_not_lt
  intro late
  rw [daysInMonth_of_lt _ late] at day
  omega

end TypedRecords.CalendarDate
