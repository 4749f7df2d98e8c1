import TypedRecords.Proofs.Calendar
import TypedRecords.Time.DateText

/-!
# Reading what was printed

A timestamp is printed with all its digits, dashes and colons, so its reading takes one path
through the branches of the reader. The text is followed from its beginning: what is left of it at
a position tells which number is read there, or which separator stands there, and what is left
after it.
-/

namespace TypedRecords.DateText

open Moment

/-- The codes of characters. -/
def codes (text : List Char) : List Nat :=
  text.map Char.toNat

@[simp]
theorem codes_append (first rest : List Char) : codes (first ++ rest) = codes first ++ codes rest :=
  List.map_append

@[simp]
theorem codes_cons (character : Char) (rest : List Char) :
    codes (character :: rest) = character.toNat :: codes rest :=
  rfl

@[simp]
theorem codes_nil : codes [] = [] :=
  rfl

/-- Characters below 128 are one byte each. -/
theorem bytesOf_ofList {text : List Char} (narrow : ∀ character ∈ text, character.toNat < 128) :
    bytesOf (String.ofList text) = codes text := by
  rw [bytesOf, String.toList_ofList]
  induction text with
  | nil => rfl
  | cons character rest ih =>
      have small := narrow character List.mem_cons_self
      have single : (String.utf8EncodeChar character).map UInt8.toNat = [character.toNat] := by
        have encoded : character.val.toNat ≤ 127 := Nat.le_of_lt_succ small
        simp only [String.utf8EncodeChar, encoded, ↓reduceIte, List.map_cons, List.map_nil]
        congr 1
        have wrapped : character.val.toNat % 256 = character.toNat := Nat.mod_eq_of_lt (by omega)
        simpa using wrapped
      have others := ih fun other member => narrow other (List.mem_cons_of_mem _ member)
      rw [List.flatMap_cons, single, others]
      rfl

theorem toNat_digit : ∀ digit < 10, (Char.ofNat ('0'.toNat + digit)).toNat = '0'.toNat + digit := by
  decide

section Digits

variable {bytes rest : List Nat} {position : Nat}

@[simp]
theorem length_codes_paddedDigits (width number : Nat) :
    (codes (paddedDigits width number)).length = width := by
  induction width generalizing number with
  | zero => rfl
  | succ width ih => simp [paddedDigits, ih]

theorem isDigit_of_mem {width number byte : Nat}
    (member : byte ∈ codes (paddedDigits width number)) : isDigit byte = true := by
  induction width generalizing number with
  | zero => simp [paddedDigits] at member
  | succ width ih =>
      rw [paddedDigits, codes_append, List.mem_append] at member
      rcases member with earlier | last
      · exact ih earlier
      · have small : number % 10 < 10 := Nat.mod_lt _ (by decide)
        simp only [codes_cons, codes_nil, List.mem_singleton, toNat_digit _ small] at last
        simp only [isDigit, last, Bool.and_eq_true, decide_eq_true_eq]
        have nine : '9'.toNat = '0'.toNat + 9 := rfl
        omega

theorem drop_of_append {text : List Nat} (left : bytes.drop position = text ++ rest) :
    bytes.drop (position + text.length) = rest := by
  rw [← List.drop_drop, left, List.drop_left]

theorem drop_of_cons {byte : Nat} (left : bytes.drop position = byte :: rest) :
    bytes.drop (position + 1) = rest := by
  rw [← List.drop_drop, left]
  rfl

theorem byteAt_of_drop {byte : Nat} (left : bytes.drop position = byte :: rest) :
    byteAt bytes position = byte := by
  have head : (bytes.drop position)[0]? = some byte := by rw [left]; rfl
  rw [List.getElem?_drop, Nat.add_zero] at head
  rw [byteAt, List.getD_eq_getElem?_getD, head]
  rfl

theorem digitsFrom?_succ (bytes : List Nat) (position read count : Nat) :
    digitsFrom? bytes position read (count + 1) =
      (digitsFrom? bytes position read count).bind fun value =>
        if isDigit (byteAt bytes (position + count)) then
          some (10 * value + (byteAt bytes (position + count) - '0'.toNat))
        else none := by
  induction count generalizing position read with
  | zero => simp [digitsFrom?]
  | succ count ih =>
      have step : ∀ more, digitsFrom? bytes position read (more + 1) =
          if isDigit (byteAt bytes position) then
            digitsFrom? bytes (position + 1)
              (10 * read + (byteAt bytes position - '0'.toNat)) more
          else none := fun _ => rfl
      rw [step (count + 1), step count]
      by_cases digit : isDigit (byteAt bytes position) = true
      · have next : position + 1 + count = position + (count + 1) := by omega
        rw [if_pos digit, if_pos digit, ih, next]
      · rw [if_neg digit, if_neg digit, Option.bind_none]

/-- The number printed at a position is read there, as far as it fits the width: the last digit
comes after all others, and those spell the quotient by ten. -/
theorem digits?_of_drop {width number : Nat}
    (left : bytes.drop position = codes (paddedDigits width number) ++ rest) :
    digits? bytes position width = some (number % Nat.pow 10 width) := by
  induction width generalizing number rest with
  | zero => simp [digits?, digitsFrom?, Nat.mod_one]
  | succ width ih =>
      have small : number % 10 < 10 := Nat.mod_lt _ (by decide)
      simp only [paddedDigits, codes_append, codes_cons, codes_nil, toNat_digit _ small,
        List.append_assoc, List.singleton_append] at left
      have last := byteAt_of_drop (drop_of_append left)
      rw [length_codes_paddedDigits] at last
      have digit : isDigit ('0'.toNat + number % 10) = true := by
        simp only [isDigit, Bool.and_eq_true, decide_eq_true_eq]
        have nine : '9'.toNat = '0'.toNat + 9 := rfl
        omega
      have before := ih left
      rw [digits?] at before ⊢
      rw [digitsFrom?_succ, before, Option.bind_some, last, if_pos digit]
      have power : Nat.pow 10 (width + 1) = 10 * Nat.pow 10 width := Nat.pow_succ'
      have split := Nat.mod_mul (x := number) (a := 10) (b := Nat.pow 10 width)
      rw [power, split, Nat.add_sub_cancel_left, Nat.add_comm]

theorem isDigit_of_drop {width number : Nat}
    (left : bytes.drop position = codes (paddedDigits (width + 1) number) ++ rest) :
    isDigit (byteAt bytes position) = true := by
  have read := digits?_of_drop left
  rw [digits?, digitsFrom?] at read
  split at read
  · assumption
  · cases read

theorem isAt_of_drop {character : Char} (left : bytes.drop position = character.toNat :: rest) :
    isAt bytes position character = true := by
  rw [isAt, byteAt_of_drop left, beq_self_eq_true]

theorem isAt_of_isDigit {character : Char} (digit : isDigit (byteAt bytes position) = true)
    (other : isDigit character.toNat = false) : isAt bytes position character = false := by
  rw [isAt, beq_eq_false_iff_ne]
  intro same
  rw [same, other] at digit
  cases digit

end Digits

section Reading

variable {bytes : List Nat} {date : CalendarDate} {time : TimeOfDay}

/-- The bytes show a date and a time as a timestamp does: each number and each separator stands at
its position. -/
structure Shows (bytes : List Nat) (date : CalendarDate) (time : TimeOfDay) : Prop where
  length : bytes.length = 24
  year : digits? bytes 0 4 = some date.year
  dash : isAt bytes 4 '-' = true
  digit : isDigit (byteAt bytes 5) = true
  month : digits? bytes 5 2 = some date.month
  secondDash : isAt bytes 7 '-' = true
  day : digits? bytes 8 2 = some date.day
  letter : byteAt bytes 10 = 'T'.toNat
  hour : digits? bytes 11 2 = some time.hour
  colon : isAt bytes 13 ':' = true
  minute : digits? bytes 14 2 = some time.minute
  secondColon : isAt bytes 16 ':' = true
  second : digits? bytes 17 2 = some time.second
  point : isAt bytes 19 '.' = true
  millis : digits? bytes 20 3 = some (time.microsecond / 1000)
  zone : isAt bytes 23 'Z' = true
  mark : offsetStart bytes 11 = 23

/-- The time as a timestamp shows it, to the millisecond. -/
def shown (time : TimeOfDay) : TimeOfDay :=
  { time with microsecond := time.microsecond / 1000 * 1000 }

theorem isValid_shown (valid : time.isValid = true) : (shown time).isValid = true := by
  simp only [TimeOfDay.isValid, Bool.and_eq_true, decide_eq_true_eq] at valid ⊢
  have rounded : (shown time).microsecond ≤ time.microsecond :=
    Nat.div_mul_le_self time.microsecond 1000
  exact ⟨valid.1, Nat.lt_of_le_of_lt rounded valid.2⟩

namespace Shows

theorem noWeek (shows : Shows bytes date time) : isAt bytes 5 'W' = false :=
  isAt_of_isDigit shows.digit (by decide)

theorem dateEnd?_eq (shows : Shows bytes date time) : dateEnd? bytes = some 10 := by
  simp [dateEnd?, shows.length, shows.dash, shows.noWeek]

theorem date?_eq (shows : Shows bytes date time) (valid : date.isValid = true) :
    date? bytes 10 = some date := by
  have read : monthDate? bytes date.year true 5 10 = some date := by
    simp [monthDate?, shows.month, afterDash?, shows.secondDash, shows.day]
  simp [date?, shows.year, shows.dash, shows.noWeek, read, valid]

/-- The clock is read up to the mark of the zone, which is junk to it. -/
theorem clock?_eq (shows : Shows bytes date time) :
    ∃ junk, clock? bytes 11 23 = some { time := shown time, junk } := by
  have components : components? bytes 23 true 3 11 =
      some ([time.hour, time.minute, time.second], .fraction 20) := by
    have colon := shows.colon
    have secondColon := shows.secondColon
    have point := shows.point
    simp only [isAt, beq_iff_eq] at colon secondColon point
    simp [components?, shows.hour, shows.minute, shows.second, colon, secondColon, point]
  refine ⟨byteAt bytes (skipDigits bytes 23 bytes.length) != 0, ?_⟩
  simp [clock?, shows.colon, components, shows.millis, shown]

theorem timeAndOffset?_eq (shows : Shows bytes date time) (valid : time.isValid = true) :
    timeAndOffset? bytes 11 = some (shown time, 0) := by
  have past : byteAt bytes 24 = 0 := by
    have length := shows.length
    rw [byteAt, List.getD_eq_getElem?_getD, List.getElem?_eq_none (by omega)]
    rfl
  rcases shows.clock?_eq with ⟨junk, clock⟩
  simp [timeAndOffset?, shows.mark, clock, shows.length, shows.zone, past, isValid_shown valid]

theorem ofBytes?_eq (shows : Shows bytes date time) (dateValid : date.isValid = true)
    (timeValid : time.isValid = true) :
    ofBytes? bytes = some (Moment.ofLocal date (shown time) 0) := by
  simp [ofBytes?, shows.dateEnd?_eq, shows.date?_eq dateValid, shows.length, shows.letter,
    characterWidth, shows.timeAndOffset?_eq timeValid]

end Shows

theorem not_isOffsetMark_of_isDigit {byte : Nat} (digit : isDigit byte = true) :
    isOffsetMark byte = false := by
  simp only [isDigit, Bool.and_eq_true, decide_eq_true_eq] at digit
  simp only [isOffsetMark, Bool.or_eq_false_iff, beq_eq_false_iff_ne]
  have plus : '+'.toNat = 43 := rfl
  have minus : '-'.toNat = 45 := rfl
  have zone : 'Z'.toNat = 90 := rfl
  have zero : '0'.toNat = 48 := rfl
  have nine : '9'.toNat = 57 := rfl
  omega

theorem offsetStart_of_drop {position mark : Nat} {front rest : List Nat}
    (left : bytes.drop position = front ++ mark :: rest)
    (plain : ∀ byte ∈ front, isOffsetMark byte = false) (marked : isOffsetMark mark = true) :
    offsetStart bytes position = position + front.length := by
  rw [offsetStart, left, List.takeWhile_append_of_pos (by simpa using plain),
    List.takeWhile_cons_of_neg (by simp [marked]), List.append_nil]

theorem plain_clock {byte : Nat} {millis : Nat}
    (member : byte ∈ codes (clockDigits time ++ '.' :: paddedDigits 3 millis)) :
    isOffsetMark byte = false := by
  simp only [clockDigits, codes_append, codes_cons, List.mem_append, List.mem_cons] at member
  rcases member with ((hour | rfl | minute) | rfl | second) | rfl | fraction
  · exact not_isOffsetMark_of_isDigit (isDigit_of_mem hour)
  · rfl
  · exact not_isOffsetMark_of_isDigit (isDigit_of_mem minute)
  · rfl
  · exact not_isOffsetMark_of_isDigit (isDigit_of_mem second)
  · rfl
  · exact not_isOffsetMark_of_isDigit (isDigit_of_mem fraction)

/-- The characters of a timestamp. -/
def timestampText (date : CalendarDate) (time : TimeOfDay) : List Char :=
  dateDigits date ++ 'T' :: clockDigits time ++ '.' :: paddedDigits 3 (time.microsecond / 1000) ++
    ['Z']

theorem digits?_of_small {position width number : Nat} {rest : List Nat}
    (left : bytes.drop position = codes (paddedDigits width number) ++ rest)
    (small : number < Nat.pow 10 width) : digits? bytes position width = some number := by
  rw [digits?_of_drop left, Nat.mod_eq_of_lt small]

/-- A printed timestamp shows its date and its time: each number and each separator stands at the
front of what is left of the text at its position. -/
theorem shows_timestampText (dateValid : date.isValid = true) (timeValid : time.isValid = true) :
    Shows (codes (timestampText date time)) date time := by
  rcases CalendarDate.bounds_of_isValid dateValid with ⟨yearFits, monthFits, dayFits⟩
  rw [CalendarDate.maxYear] at yearFits
  simp only [TimeOfDay.isValid, Bool.and_eq_true, decide_eq_true_eq] at timeValid
  rcases timeValid with ⟨⟨⟨hourFits, minuteFits⟩, secondFits⟩, microFits⟩
  generalize text : codes (timestampText date time) = bytes
  have length : bytes.length = 24 := by
    rw [← text]
    simp [timestampText, dateDigits, clockDigits]
  have atYear : bytes.drop 0 = codes (timestampText date time) := text.symm
  simp only [timestampText, dateDigits, clockDigits, codes_append, codes_cons, codes_nil,
    List.append_assoc, List.cons_append] at atYear
  have atDash := drop_of_append atYear
  have atMonth := drop_of_cons atDash
  have atSecondDash := drop_of_append atMonth
  have atDay := drop_of_cons atSecondDash
  have atLetter := drop_of_append atDay
  have atHour := drop_of_cons atLetter
  have atColon := drop_of_append atHour
  have atMinute := drop_of_cons atColon
  have atSecondColon := drop_of_append atMinute
  have atSecond := drop_of_cons atSecondColon
  have atPoint := drop_of_append atSecond
  have atMillis := drop_of_cons atPoint
  have atZone := drop_of_append atMillis
  simp only [length_codes_paddedDigits, Nat.zero_add, Nat.reduceAdd] at *
  have front : bytes.drop 11 =
      codes (clockDigits time ++ '.' :: paddedDigits 3 (time.microsecond / 1000)) ++
        ['Z'.toNat] := by
    simpa [clockDigits] using atHour
  have mark := offsetStart_of_drop front (fun _ => plain_clock) rfl
  have twoDigits : Nat.pow 10 2 = 100 := rfl
  have threeDigits : Nat.pow 10 3 = 1000 := rfl
  have fourDigits : Nat.pow 10 4 = 10000 := rfl
  exact {
    length := length
    year := digits?_of_small atYear (by omega)
    dash := isAt_of_drop atDash
    digit := isDigit_of_drop atMonth
    month := digits?_of_small atMonth (by omega)
    secondDash := isAt_of_drop atSecondDash
    day := digits?_of_small atDay (by omega)
    letter := byteAt_of_drop atLetter
    hour := digits?_of_small atHour (by omega)
    colon := isAt_of_drop atColon
    minute := digits?_of_small atMinute (by omega)
    secondColon := isAt_of_drop atSecondColon
    second := digits?_of_small atSecond (by omega)
    point := isAt_of_drop atPoint
    millis := digits?_of_small atMillis (by omega)
    zone := isAt_of_drop atZone
    mark := by simpa [clockDigits] using mark }

/-- A timestamp is read as the date and the time that it shows, in universal time. -/
theorem ofBytes?_timestampText (dateValid : date.isValid = true) (timeValid : time.isValid = true) :
    ofBytes? (codes (timestampText date time)) = some (Moment.ofLocal date (shown time) 0) :=
  (shows_timestampText dateValid timeValid).ofBytes?_eq dateValid timeValid

end Reading

end TypedRecords.DateText
