import ShuleHub.Lib.Calendar

/-! The text that `toISOString` writes is read back as the moment it was written for. -/

namespace JsDate

variable (days : Int)

def maxTime : Int := 8640000000000000

def IsTime (time : Int) : Prop := -maxTime ≤ time ∧ time ≤ maxTime
deriving Decidable

def readNumber (width : Nat) (chars : List Char) : Option (Nat × List Char) :=
  if (chars.take width).length = width ∧ (chars.take width).all Char.isDigit = true then
    some (JsText.decimalValue (String.ofList (chars.take width)), chars.drop width)
  else none

def readMark (mark : Char) : List Char → Option (List Char)
  | [] => none
  | c :: rest => if c = mark then some rest else none

def readYear : List Char → Option (Int × List Char)
  | [] => none
  | c :: rest =>
    if c = '+' then (readNumber 6 rest).map fun read => ((read.1 : Int), read.2)
    else if c = '-' then ((readNumber 6 rest).filter (·.1 ≠ 0)).map fun read => (-(read.1 : Int), read.2)
    else (readNumber 4 (c :: rest)).map fun read => ((read.1 : Int), read.2)

def parseISOString (text : String) : Option Int := do
  let (year, chars) ← readYear text.toList
  let (month, chars) ← readMark '-' chars >>= readNumber 2
  let (day, chars) ← readMark '-' chars >>= readNumber 2
  let (hours, chars) ← readMark 'T' chars >>= readNumber 2
  let (minutes, chars) ← readMark ':' chars >>= readNumber 2
  let (seconds, chars) ← readMark ':' chars >>= readNumber 2
  let (milliseconds, chars) ← readMark '.' chars >>= readNumber 3
  let chars ← readMark 'Z' chars
  let time := (daysToMonth year (month - 1) + day - 1) * 86400000 + hours * 3600000 + minutes * 60000 +
    seconds * 1000 + milliseconds
  if chars = [] ∧ CivilDate.IsValid ⟨year, month, day⟩ ∧ hours < 24 ∧ minutes < 60 ∧ seconds < 60 ∧ IsTime time then
    some time
  else none

example : parseISOString "2000-02-29T00:00:00.000Z" = some 951782400000 := by decide +kernel

theorem readNumber_pad {width n : Nat} (positive : 0 < width) (fits : n < 10 ^ width) (rest : List Char) :
    readNumber width ((pad width n).toList ++ rest) = some (n, rest) := by
  have long := pad_length positive fits
  have taken : ((pad width n).toList ++ rest).take width = (pad width n).toList := by
    rw [List.take_append_of_le_length long.ge, List.take_of_length_le long.le]
  have dropped : ((pad width n).toList ++ rest).drop width = rest := by
    rw [List.drop_append_of_le_length long.ge, List.drop_of_length_le long.le, List.nil_append]
  have digits : (pad width n).toList.all Char.isDigit = true :=
    List.all_eq_true.mpr fun c member => isDigit_of_mem_pad member
  rw [readNumber, taken, dropped, if_pos ⟨long, digits⟩, String.ofList_toList, decimalValue_pad]

theorem readMark_cons (mark : Char) (rest : List Char) : readMark mark (mark :: rest) = some rest := if_pos rfl

theorem readMarked {mark : Char} {width n : Nat} {rest : List Char} (positive : 0 < width) (fits : n < 10 ^ width) :
    (readMark mark (mark :: ((pad width n).toList ++ rest))).bind (readNumber width) = some (n, rest) := by
  rw [readMark_cons, Option.bind_some, readNumber_pad positive fits]

theorem readYear_yearText {year : Int} (lower : -999999 ≤ year) (upper : year ≤ 999999) (rest : List Char) :
    readYear ((yearText year).toList ++ rest) = some (year, rest) := by
  rw [yearText]
  split
  · next four =>
    have long := @pad_length 4 year.toNat (by decide) (by omega)
    have read := @readNumber_pad 4 year.toNat (by decide) (by omega) rest
    cases digits : (pad 4 year.toNat).toList with
    | nil => simp [digits] at long
    | cons c others =>
      have digit : c.isDigit = true := isDigit_of_mem_pad (digits ▸ List.mem_cons_self)
      have unsigned : c ≠ '+' ∧ c ≠ '-' := by
        constructor
        · rintro rfl
          exact absurd digit (by decide)
        · rintro rfl
          exact absurd digit (by decide)
      rw [digits, List.cons_append] at read
      rw [List.cons_append, readYear, if_neg unsigned.1, if_neg unsigned.2, read]
      simp only [Option.map_some, Int.toNat_of_nonneg four.1]
  · next long =>
    split
    · next positive =>
      have read := @readNumber_pad 6 year.toNat (by decide) (by omega) rest
      simp only [String.toList_append, String.reduceToList, List.cons_append, List.nil_append]
      rw [readYear, if_pos rfl, read]
      simp only [Option.map_some, Int.toNat_of_nonneg positive]
    · next negative =>
      have read := @readNumber_pad 6 (-year).toNat (by decide) (by omega) rest
      simp only [String.toList_append, String.reduceToList, List.cons_append, List.nil_append]
      have back : -((-year).toNat : Int) = year := by omega
      have some : (-year).toNat ≠ 0 := by omega
      rw [readYear, if_neg (by decide), if_pos rfl, read, Option.filter_some, if_pos (by simpa using some)]
      simp only [Option.map_some, back]

theorem year_of_isTime {time : Int} (dated : IsTime time) :
    -999999 ≤ (civilFromDays (time / 86400000)).year ∧ (civilFromDays (time / 86400000)).year ≤ 999999 := by
  obtain ⟨era, dayOfEra, year, dayInYear, month, total, inEra, inYear, inMonths, begun, ended, date⟩ :=
    civilFromDays_parts (time / 86400000)
  unfold IsTime maxTime at dated
  unfold daysBefore at inYear
  rw [date]
  constructor
  · simp only
    split <;> omega
  · simp only
    split <;> omega

/-- The characters of the text, of which `rest` is the end after the date. -/
def dateChars (date : CivilDate) (rest : List Char) : List Char :=
  (yearText date.year).toList ++ '-' :: ((pad 2 date.month).toList ++ '-' :: ((pad 2 date.day).toList ++ rest))

def timeChars (milliseconds : Nat) : List Char :=
  'T' :: ((pad 2 (milliseconds / 3600000)).toList ++ ':' :: ((pad 2 (milliseconds / 60000 % 60)).toList ++
    ':' :: ((pad 2 (milliseconds / 1000 % 60)).toList ++ '.' :: ((pad 3 (milliseconds % 1000)).toList ++ ['Z']))))

theorem toList_toISOString (time : Int) : (toISOString time).toList =
    dateChars (civilFromDays (time / 86400000)) (timeChars (time % 86400000).toNat) := by
  rw [toISOString, dateChars, timeChars]
  simp only [String.toList_append, String.reduceToList, List.append_assoc, List.cons_append, List.nil_append]

theorem parseISOString_toISOString {time : Int} (dated : IsTime time) :
    parseISOString (toISOString time) = some time := by
  obtain ⟨lower, upper⟩ := year_of_isTime dated
  have valid := civilFromDays_isValid (time / 86400000)
  have back := daysToMonth_civilFromDays (time / 86400000)
  have ranges := civilFromDays_ranges (time / 86400000)
  rw [parseISOString, toList_toISOString]
  generalize civilFromDays (time / 86400000) = date at *
  generalize timeOfDay : (time % 86400000).toNat = milliseconds
  rw [dateChars, timeChars, readYear_yearText lower upper]
  simp only [Option.bind_eq_bind, Option.bind_some]
  rw [readMarked (by decide) (by omega), Option.bind_some, readMarked (by decide) (by omega), Option.bind_some,
    readMarked (by decide) (by omega), Option.bind_some, readMarked (by decide) (by omega), Option.bind_some,
    readMarked (by decide) (by omega), Option.bind_some, readMarked (by decide) (by omega), Option.bind_some]
  simp only [readMark_cons, Option.bind_some]
  have whole : (daysToMonth date.year (date.month - 1) + date.day - 1) * 86400000 +
      (milliseconds / 3600000 : Nat) * 3600000 + (milliseconds / 60000 % 60 : Nat) * 60000 +
      (milliseconds / 1000 % 60 : Nat) * 1000 + (milliseconds % 1000 : Nat) = time := by
    rw [back]
    omega
  rw [whole, if_pos ⟨trivial, valid, by omega, by omega, by omega, dated⟩]

def dayText : String :=
  yearText (civilFromDays days).year ++ "-" ++ pad 2 (civilFromDays days).month ++ "-" ++ pad 2 (civilFromDays days).day

def isDateOnly (text : String) : Bool :=
  ((readNumber 4 text.toList).bind fun year => (readMark '-' year.2).bind fun chars =>
    (readNumber 2 chars).bind fun month => (readMark '-' month.2).bind (readNumber 2)).any (·.2 = [])

def startOfDay : Int := days * 86400000

def endOfDay : Int := days * 86400000 + 86399999

theorem toISOString_startOfDay (days : Int) : toISOString (startOfDay days) = dayText days ++ "T00:00:00.000Z" := by
  have date : startOfDay days / 86400000 = days := by
    unfold startOfDay
    omega
  have time : (startOfDay days % 86400000).toNat = 0 := by
    unfold startOfDay
    omega
  simp only [toISOString, date, time, dayText, String.append_assoc]
  rfl

theorem toISOString_endOfDay (days : Int) : toISOString (endOfDay days) = dayText days ++ "T23:59:59.999Z" := by
  have date : endOfDay days / 86400000 = days := by
    unfold endOfDay
    omega
  have time : (endOfDay days % 86400000).toNat = 86399999 := by
    unfold endOfDay
    omega
  simp only [toISOString, date, time, dayText, String.append_assoc]
  rfl

/-- The days from 0000-01-01 to 9999-12-31, whose years have four digits. -/
def HasFourDigits : Prop := -719528 ≤ days ∧ days ≤ 2932896
deriving Decidable

section FourDigits

variable {days : Int}

theorem year_of_hasFourDigits (four : HasFourDigits days) :
    0 ≤ (civilFromDays days).year ∧ (civilFromDays days).year ≤ 9999 := by
  obtain ⟨era, dayOfEra, year, dayInYear, month, total, inEra, inYear, inMonths, begun, ended, date⟩ :=
    civilFromDays_parts days
  unfold HasFourDigits at four
  unfold daysBefore at inYear
  rw [date]
  constructor
  · have eras : -1 ≤ era := by omega
    have early : era = -1 → year = 399 := by omega
    have march : era = -1 → 10 ≤ month := by omega
    simp only
    split <;> omega
  · have eras : era ≤ 24 := by omega
    have late : era = 24 → year = 399 → month < 10 := by omega
    simp only
    split <;> omega

theorem year_of_later (late : 2932896 < days) : 10000 ≤ (civilFromDays days).year := by
  obtain ⟨era, dayOfEra, year, dayInYear, month, total, inEra, inYear, inMonths, begun, ended, date⟩ :=
    civilFromDays_parts days
  unfold daysBefore at inYear
  rw [date]
  have eras : 24 ≤ era := by omega
  have last : era = 24 → 399 ≤ year := by omega
  have march : era = 24 → year = 399 → 10 ≤ month := by omega
  simp only
  split <;> omega

theorem isTime_of_hasFourDigits (four : HasFourDigits days) : IsTime (startOfDay days) ∧ IsTime (endOfDay days) := by
  unfold HasFourDigits at four
  unfold IsTime maxTime startOfDay endOfDay
  omega

theorem toList_dayText (four : HasFourDigits days) : (dayText days).toList =
    (pad 4 (civilFromDays days).year.toNat).toList ++ '-' :: ((pad 2 (civilFromDays days).month).toList ++
      '-' :: ((pad 2 (civilFromDays days).day).toList ++ [])) := by
  rw [dayText, yearText, if_pos (year_of_hasFourDigits four), List.append_nil]
  simp only [String.toList_append, String.reduceToList, List.append_assoc, List.cons_append, List.nil_append]

theorem isDateOnly_dayText (four : HasFourDigits days) : isDateOnly (dayText days) = true := by
  have years := year_of_hasFourDigits four
  have ranges := civilFromDays_ranges days
  rw [isDateOnly, toList_dayText four, readNumber_pad (by decide) (by omega), Option.bind_some, readMark_cons,
    Option.bind_some, readNumber_pad (by decide) (by omega), Option.bind_some, readMark_cons, Option.bind_some,
    readNumber_pad (by decide) (by omega)]
  rfl

theorem trim_dayText (four : HasFourDigits days) : JsText.trim (dayText days) = dayText days := by
  have years := year_of_hasFourDigits four
  have ranges := civilFromDays_ranges days
  have chars := toList_dayText four
  have yearLong := @pad_length 4 (civilFromDays days).year.toNat (by decide) (by omega)
  have dayLong := @pad_length 2 (civilFromDays days).day (by decide) (by omega)
  have yearDigits := fun c => @isDigit_of_mem_pad 4 (civilFromDays days).year.toNat c
  have dayDigits := fun c => @isDigit_of_mem_pad 2 (civilFromDays days).day c
  generalize (pad 4 (civilFromDays days).year.toNat).toList = yearChars at *
  generalize (pad 2 (civilFromDays days).day).toList = dayChars at *
  cases yearChars with
  | nil => cases yearLong
  | cons first others =>
    obtain ⟨tens, last, rfl⟩ := List.length_eq_two.mp dayLong
    apply @JsText.trim_of_visible _ first last
    · rw [chars]
      rfl
    · rw [chars, List.getLast?_eq_some_iff]
      exact ⟨first :: others ++ '-' :: ((pad 2 (civilFromDays days).month).toList ++ ['-', tens]), by simp⟩
    · exact JsText.not_isSpace_of_isDigit (yearDigits first List.mem_cons_self)
    · exact JsText.not_isSpace_of_isDigit (dayDigits last (by simp))

end FourDigits

end JsDate
