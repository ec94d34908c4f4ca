import ShuleHub.Lib.JsDate
import ShuleHub.Lib.JsText
import Mathlib.Tactic.IntervalCases

/-! Days and dates: the date of a day leads back to the day, and its text back to its numbers. -/

namespace JsDate

open JsText

variable {year : Int} {c : Char}

def yearOfEra (dayOfEra : Nat) : Nat :=
  (dayOfEra - dayOfEra / 1460 + dayOfEra / 36524 - dayOfEra / 146096) / 365

def daysBefore (yearOfEra : Nat) : Nat := 365 * yearOfEra + yearOfEra / 4 - yearOfEra / 100

section Eras

variable {dayOfEra : Nat}

theorem yearOfEra_le (inEra : dayOfEra < 146097) : yearOfEra dayOfEra ≤ 399 := by
  unfold yearOfEra
  omega

theorem yearOfEra_parts (inEra : dayOfEra < 146097) :
    yearOfEra dayOfEra / 100 = dayOfEra / 36524 - dayOfEra / 146096 ∧ yearOfEra dayOfEra / 4 ≤ dayOfEra / 1460 ∧
      dayOfEra / 1460 ≤ (yearOfEra dayOfEra + 1) / 4 := by
  have centuries : dayOfEra / 36524 ≤ 4 := by omega
  have last : dayOfEra / 146096 ≤ 1 := by omega
  unfold yearOfEra
  generalize century : dayOfEra / 36524 = centuryOfEra at *
  generalize final : dayOfEra / 146096 = lastDay at *
  refine ⟨?_, ?_, ?_⟩
  · interval_cases centuryOfEra <;> interval_cases lastDay <;> omega
  · omega
  · interval_cases centuryOfEra <;> interval_cases lastDay <;> omega

theorem daysBefore_yearOfEra (inEra : dayOfEra < 146097) :
    daysBefore (yearOfEra dayOfEra) ≤ dayOfEra ∧ dayOfEra ≤ daysBefore (yearOfEra dayOfEra) + 365 := by
  obtain ⟨centuries, leapYears, nextLeapYear⟩ := yearOfEra_parts inEra
  let common := dayOfEra - dayOfEra / 1460 + dayOfEra / 36524 - dayOfEra / 146096
  have lower : 365 * yearOfEra dayOfEra ≤ common := by
    unfold yearOfEra
    omega
  have upper : common < 365 * yearOfEra dayOfEra + 365 := by
    unfold yearOfEra
    omega
  have fewer : dayOfEra / 146096 ≤ dayOfEra / 36524 := by omega
  unfold daysBefore
  generalize yearOfEra dayOfEra = year at *
  omega

end Eras

def dayOfYear (dayOfEra : Nat) : Nat := dayOfEra - daysBefore (yearOfEra dayOfEra)

theorem civilFromDays_eq (days : Int) :
    let dayOfEra := ((days + 719468) % 146097).toNat
    let shiftedMonth := (5 * dayOfYear dayOfEra + 2) / 153
    let month := if shiftedMonth < 10 then shiftedMonth + 3 else shiftedMonth - 9
    civilFromDays days = {
      year := yearOfEra dayOfEra + (days + 719468) / 146097 * 400 + if month ≤ 2 then 1 else 0
      month
      day := dayOfYear dayOfEra - (153 * shiftedMonth + 2) / 5 + 1 } := rfl

theorem civilFromDays_parts (days : Int) : ∃ (era : Int) (dayOfEra year dayInYear month : Nat),
    days + 719468 = era * 146097 + dayOfEra ∧ year ≤ 399 ∧ dayOfEra = daysBefore year + dayInYear ∧
      month ≤ 11 ∧ (153 * month + 2) / 5 ≤ dayInYear ∧ dayInYear ≤ (153 * month + 2) / 5 + 30 ∧
      civilFromDays days = {
        year := year + era * 400 + if month < 10 then 0 else 1
        month := if month < 10 then month + 3 else month - 9
        day := dayInYear - (153 * month + 2) / 5 + 1 } := by
  let dayOfEra := ((days + 719468) % 146097).toNat
  have inEra : dayOfEra < 146097 := by omega
  obtain ⟨lower, upper⟩ := daysBefore_yearOfEra inEra
  have inYear : dayOfYear dayOfEra ≤ 365 := by
    unfold dayOfYear
    omega
  let month := (5 * dayOfYear dayOfEra + 2) / 153
  refine ⟨(days + 719468) / 146097, dayOfEra, yearOfEra dayOfEra, dayOfYear dayOfEra, month, ?_, yearOfEra_le inEra, ?_,
    ?_, ?_, ?_, ?_⟩
  · omega
  · unfold dayOfYear
    omega
  · omega
  · omega
  · omega
  · rw [civilFromDays_eq]
    have late : (if (if month < 10 then month + 3 else month - 9) ≤ 2 then (1 : Int) else 0) =
        if month < 10 then 0 else 1 := by
      split <;> split <;> omega
    congr 2

theorem daysToMonth_civilFromDays (days : Int) :
    daysToMonth (civilFromDays days).year ((civilFromDays days).month - 1) + (civilFromDays days).day - 1 = days := by
  obtain ⟨era, dayOfEra, year, dayInYear, month, total, inEra, inYear, inMonths, begun, ended, date⟩ :=
    civilFromDays_parts days
  rw [date]
  simp only [daysToMonth]
  have months : ((year : Int) + era * 400 + if month < 10 then 0 else 1) * 12 +
      (((if month < 10 then month + 3 else month - 9 : Nat) : Int) - 1) - 2 = (year + era * 400) * 12 + month := by
    split <;> omega
  rw [months]
  have shiftedYear : (((year : Int) + era * 400) * 12 + month) / 12 = year + era * 400 := by omega
  have monthOfYear : (((year : Int) + era * 400) * 12 + month) % 12 = month := by omega
  have eraOf : ((year : Int) + era * 400) / 400 = era := by omega
  have yearOf : ((year : Int) + era * 400) % 400 = year := by omega
  rw [shiftedYear, monthOfYear, eraOf, yearOf]
  unfold daysBefore at inYear
  omega

theorem civilFromDays_ranges (days : Int) : 1 ≤ (civilFromDays days).month ∧ (civilFromDays days).month ≤ 12 ∧
    1 ≤ (civilFromDays days).day ∧ (civilFromDays days).day ≤ 31 := by
  obtain ⟨era, dayOfEra, year, dayInYear, month, -, -, -, inMonths, begun, ended, date⟩ := civilFromDays_parts days
  rw [date]
  refine ⟨?_, ?_, ?_, ?_⟩
  · change 1 ≤ if month < 10 then month + 3 else month - 9
    split <;> omega
  · change (if month < 10 then month + 3 else month - 9) ≤ 12
    split <;> omega
  · exact Nat.le_add_left 1 _
  · change dayInYear - (153 * month + 2) / 5 + 1 ≤ 31
    omega

theorem days_of_early_year {days : Int} (early : (civilFromDays days).year ≤ 99) : days < -600000 := by
  obtain ⟨era, dayOfEra, year, dayInYear, month, total, inEra, inYear, inMonths, begun, ended, date⟩ :=
    civilFromDays_parts days
  rw [date] at early
  have early : (year : Int) + era * 400 ≤ 99 := by
    simp only at early
    split at early <;> omega
  unfold daysBefore at inYear
  have eras : era ≤ 0 := by omega
  rcases Int.lt_or_eq_of_le eras with before | rfl
  · omega
  · omega

theorem daysToMonth_of_recent_year {month : Int} (recent : 1900 ≤ year) (month_ge : -1 ≤ month) :
    -30000 ≤ daysToMonth year month := by
  unfold daysToMonth
  simp only
  generalize months : year * 12 + month - 2 = monthsFromMarch at *
  omega

theorem utc_noon (month day : Int) (full : ¬ (0 ≤ year ∧ year ≤ 99)) :
    utc year month day 12 0 0 / 86400000 = daysToMonth year month + day - 1 := by
  unfold utc
  simp only [if_neg full]
  omega

section Padding

variable {width n : Nat}

theorem pad_toList : (pad width n).toList = List.replicate (width - (Nat.toDigits 10 n).length) '0' ++ Nat.toDigits 10 n :=
  String.toList_ofList

theorem pad_length (positive : 0 < width) (fits : n < 10 ^ width) : (pad width n).toList.length = width := by
  have short : (Nat.toDigits 10 n).length ≤ width := (Nat.length_toDigits_le_iff (by decide) positive).mpr fits
  rw [pad_toList, List.length_append, List.length_replicate]
  omega

theorem isDigit_of_mem_pad {c : Char} (member : c ∈ (pad width n).toList) : c.isDigit = true := by
  rw [pad_toList] at member
  rcases List.mem_append.mp member with zero | digit
  · rw [(List.mem_replicate.mp zero).2]
    rfl
  · exact Nat.isDigit_of_mem_toDigits (by decide) (by decide) digit

theorem decimalValue_pad : decimalValue (pad width n) = n := by
  have zeros (count : Nat) : (List.replicate count '0').foldl (fun value c => 10 * value + digitValue c) 0 = 0 := by
    induction count with
    | zero => rfl
    | succ count ih =>
      rw [List.replicate_succ, List.foldl_cons]
      exact ih
  rw [decimalValue, pad_toList, List.foldl_append, zeros]
  exact Nat.ofDigitChars_ten_toDigits

end Padding

theorem decimalValue_lt (digits : List Char) (numeric : ∀ c ∈ digits, c.isDigit = true) :
    decimalValue (String.ofList digits) < 10 ^ digits.length := by
  have bound (digits : List Char) (numeric : ∀ c ∈ digits, c.isDigit = true) (value : Nat) :
      digits.foldl (fun value c => 10 * value + digitValue c) value < (value + 1) * 10 ^ digits.length := by
    induction digits generalizing value with
    | nil => simp
    | cons c rest ih =>
      obtain ⟨head, tail⟩ := List.forall_mem_cons.mp numeric
      have small : digitValue c ≤ 9 := by
        simp only [Char.isDigit, Bool.and_eq_true, decide_eq_true_eq, ge_iff_le, UInt32.le_iff_toNat_le] at head
        have upper : c.toNat ≤ 57 := head.2
        unfold digitValue
        change c.toNat - 48 ≤ 9
        omega
      rw [List.foldl_cons, List.length_cons, Nat.pow_succ, Nat.mul_comm (10 ^ rest.length), ← Nat.mul_assoc]
      apply lt_of_lt_of_le (ih tail _)
      apply Nat.mul_le_mul_right
      omega
  have start := bound digits numeric 0
  rwa [decimalValue, String.toList_ofList, ← Nat.one_mul (10 ^ digits.length)]

theorem digitValue_injective {first second : Char} (firstDigit : first.isDigit = true)
    (secondDigit : second.isDigit = true) (same : digitValue first = digitValue second) :
    first = second := by
  simp only [Char.isDigit, Bool.and_eq_true, decide_eq_true_eq, ge_iff_le, UInt32.le_iff_toNat_le]
    at firstDigit secondDigit
  have firstLower : 48 ≤ first.toNat := firstDigit.1
  have secondLower : 48 ≤ second.toNat := secondDigit.1
  have codes : first.toNat - 48 = second.toNat - 48 := same
  exact Char.toNat_inj.mp (by omega)

theorem digitValue_le (digit : c.isDigit = true) : digitValue c ≤ 9 := by
  simp only [Char.isDigit, Bool.and_eq_true, decide_eq_true_eq, ge_iff_le, UInt32.le_iff_toNat_le] at digit
  have upper : c.toNat ≤ 57 := digit.2
  change c.toNat - 48 ≤ 9
  omega

theorem eq_of_decimalValue {first second : List Char} (firstNumeric : ∀ c ∈ first, c.isDigit = true)
    (secondNumeric : ∀ c ∈ second, c.isDigit = true) (long : first.length = second.length)
    (same : decimalValue (String.ofList first) = decimalValue (String.ofList second)) :
    first = second := by
  have step (first second : List Char) (firstNumeric : ∀ c ∈ first, c.isDigit = true)
      (secondNumeric : ∀ c ∈ second, c.isDigit = true) (long : first.length = second.length) (left right : Nat)
      (same : first.foldl (fun value c => 10 * value + digitValue c) left =
        second.foldl (fun value c => 10 * value + digitValue c) right) : left = right ∧ first = second := by
    induction first generalizing second left right with
    | nil =>
      rw [List.length_nil] at long
      rw [List.length_eq_zero_iff.mp long.symm] at same ⊢
      exact ⟨same, rfl⟩
    | cons c rest ih =>
      cases second with
      | nil => cases long
      | cons d others =>
        obtain ⟨cDigit, restNumeric⟩ := List.forall_mem_cons.mp firstNumeric
        obtain ⟨dDigit, othersNumeric⟩ := List.forall_mem_cons.mp secondNumeric
        obtain ⟨heads, tails⟩ := ih others restNumeric othersNumeric (Nat.succ.inj long) _ _ same
        change 10 * left + digitValue c = 10 * right + digitValue d at heads
        have cSmall := digitValue_le cDigit
        have dSmall := digitValue_le dDigit
        have values : digitValue c = digitValue d := by omega
        refine ⟨by omega, ?_⟩
        rw [digitValue_injective cDigit dDigit values, tails]
  simp only [decimalValue, String.toList_ofList] at same
  exact (step first second firstNumeric secondNumeric long 0 0 same).2

theorem decimalValue_append (first second : List Char) : decimalValue (String.ofList (first ++ second)) =
    decimalValue (String.ofList first) * 10 ^ second.length + decimalValue (String.ofList second) := by
  have shifted (chars : List Char) (value : Nat) :
      chars.foldl (fun value c => 10 * value + digitValue c) value =
        value * 10 ^ chars.length + chars.foldl (fun value c => 10 * value + digitValue c) 0 := by
    induction chars generalizing value with
    | nil => simp
    | cons c rest ih =>
      have tens : 10 * value * 10 ^ rest.length = value * 10 ^ (rest.length + 1) := by
        rw [Nat.mul_comm 10 value, Nat.mul_assoc, Nat.pow_succ, Nat.mul_comm 10]
      rw [List.foldl_cons, ih, List.foldl_cons, ih (10 * 0 + digitValue c), List.length_cons, Nat.mul_zero,
        Nat.zero_add, Nat.add_mul, tens, Nat.add_assoc]
  simp only [decimalValue, String.toList_ofList, List.foldl_append]
  exact shifted second _

def lastDigits (count n : Nat) : List Char := (Nat.toDigits 10 n).drop ((Nat.toDigits 10 n).length - count)

theorem isDigit_of_mem_lastDigits {count n : Nat} (member : c ∈ lastDigits count n) : c.isDigit = true :=
  Nat.isDigit_of_mem_toDigits (by decide) (by decide) (List.mem_of_mem_drop member)

theorem decimalValue_lastDigits (count n : Nat) :
    decimalValue (String.ofList (lastDigits count n)) = n % 10 ^ count := by
  have whole : decimalValue (String.ofList (Nat.toDigits 10 n)) = n := by
    rw [decimalValue, String.toList_ofList]
    exact Nat.ofDigitChars_ten_toDigits
  have split := List.take_append_drop ((Nat.toDigits 10 n).length - count) (Nat.toDigits 10 n)
  have below := decimalValue_lt (lastDigits count n) fun c => isDigit_of_mem_lastDigits
  by_cases long : count ≤ (Nat.toDigits 10 n).length
  · have length : (lastDigits count n).length = count := by
      rw [lastDigits, List.length_drop]
      omega
    rw [← split, decimalValue_append] at whole
    change _ * 10 ^ (lastDigits count n).length + decimalValue (String.ofList (lastDigits count n)) = n at whole
    rw [length] at whole below
    rw [← Nat.mod_eq_of_lt below]
    conv_rhs => rw [← whole, Nat.mul_add_mod_self_right]
  · have all : lastDigits count n = Nat.toDigits 10 n := by
      rw [lastDigits, Nat.sub_eq_zero_of_le (by omega), List.drop_zero]
    rw [all] at below ⊢
    rw [whole] at below ⊢
    apply (Nat.mod_eq_of_lt _).symm
    exact below.trans_le (Nat.pow_le_pow_right (by decide) (by omega))

theorem pad_decimalValue {digits : List Char} (positive : 0 < digits.length)
    (numeric : ∀ c ∈ digits, c.isDigit = true) :
    pad digits.length (decimalValue (String.ofList digits)) = String.ofList digits := by
  apply String.toList_inj.mp
  rw [String.toList_ofList]
  apply eq_of_decimalValue (fun c => isDigit_of_mem_pad) numeric
  · exact pad_length positive (decimalValue_lt digits numeric)
  · rw [String.ofList_toList, decimalValue_pad]

end JsDate

/-! The dates of the Gregorian calendar: which there are, and that each is the date of one day. -/

namespace JsDate

variable {first second : CivilDate}

def IsLeapYear (year : Int) : Prop := year % 4 = 0 ∧ (year % 100 ≠ 0 ∨ year % 400 = 0)
deriving Decidable

def daysInMonth (year : Int) (month : Nat) : Nat :=
  if month = 2 then if IsLeapYear year then 29 else 28
  else if month = 4 ∨ month = 6 ∨ month = 9 ∨ month = 11 then 30
  else 31

def CivilDate.IsValid (date : CivilDate) : Prop :=
  1 ≤ date.month ∧ date.month ≤ 12 ∧ 1 ≤ date.day ∧ date.day ≤ daysInMonth date.year date.month
deriving Decidable

theorem daysInMonth_ge (year : Int) (month : Nat) : 28 ≤ daysInMonth year month := by
  unfold daysInMonth
  split
  · split <;> omega
  · split <;> omega

theorem dayOfYear_lt {dayOfEra : Nat} (inEra : dayOfEra < 146097) :
    dayOfYear dayOfEra < if IsLeapYear (yearOfEra dayOfEra + 1) then 366 else 365 := by
  obtain ⟨centuries, leapYears, nextLeapYear⟩ := yearOfEra_parts inEra
  obtain ⟨lower, last⟩ := daysBefore_yearOfEra inEra
  have bounded := yearOfEra_le inEra
  have upper : dayOfEra - dayOfEra / 1460 + dayOfEra / 36524 - dayOfEra / 146096 <
      365 * yearOfEra dayOfEra + 365 := by
    unfold yearOfEra
    omega
  unfold dayOfYear daysBefore
  unfold daysBefore at lower last
  generalize yearOfEra dayOfEra = year at *
  by_cases leap : IsLeapYear (year + 1)
  · rw [if_pos leap]
    omega
  · rw [if_neg leap]
    unfold IsLeapYear at leap
    have closed : (year + 1) % 4 ≠ 0 ∨ (year + 1) % 100 = 0 ∧ (year + 1) % 400 ≠ 0 := by omega
    have fewer : dayOfEra / 146096 ≤ dayOfEra / 36524 := by omega
    have counted : dayOfEra + year / 100 < 365 * year + 365 + dayOfEra / 1460 := by
      rw [centuries]
      omega
    rcases closed with common | ⟨century, short⟩
    · have quarter : (year + 1) / 4 = year / 4 := by omega
      omega
    · omega

theorem civilFromDays_isValid (days : Int) : (civilFromDays days).IsValid := by
  have inEra : ((days + 719468) % 146097).toNat < 146097 := by omega
  have short := dayOfYear_lt inEra
  rw [civilFromDays_eq]
  generalize dayOfYear ((days + 719468) % 146097).toNat = dayInYear at *
  generalize yearOfEra ((days + 719468) % 146097).toNat = year at *
  generalize (days + 719468) / 146097 = era at *
  have leapAlike : IsLeapYear (year + era * 400 + 1) ↔ IsLeapYear (year + 1) := by
    unfold IsLeapYear
    omega
  have inYear : dayInYear ≤ 365 := by split at short <;> omega
  have months : (5 * dayInYear + 2) / 153 ≤ 11 := by omega
  unfold CivilDate.IsValid
  simp only
  generalize shifted : (5 * dayInYear + 2) / 153 = shiftedMonth at *
  refine ⟨?_, ?_, ?_, ?_⟩
  · split <;> omega
  · split <;> omega
  · omega
  · by_cases february : shiftedMonth = 11
    · have longest : dayInYear - 337 + 1 ≤ if IsLeapYear (year + 1) then 29 else 28 := by
        by_cases leap : IsLeapYear (year + 1)
        · rw [if_pos leap] at short ⊢
          omega
        · rw [if_neg leap] at short ⊢
          omega
      have sameLength : daysInMonth (year + era * 400 + 1) 2 = if IsLeapYear (year + 1) then 29 else 28 := by
        simp [daysInMonth, leapAlike]
      simpa [february, sameLength] using longest
    · interval_cases shiftedMonth
      all_goals simp [daysInMonth]
      all_goals omega

theorem daysToMonth_march (year : Int) :
    daysToMonth (year + 1) 2 = daysToMonth year 2 + if IsLeapYear (year + 1) then 366 else 365 := by
  unfold daysToMonth
  simp only
  have here : (year * 12 + 2 - 2) / 12 = year := by omega
  have next : ((year + 1) * 12 + 2 - 2) / 12 = year + 1 := by omega
  have begins : (year * 12 + 2 - 2) % 12 = 0 := by omega
  have beginsNext : ((year + 1) * 12 + 2 - 2) % 12 = 0 := by omega
  rw [here, next, begins, beginsNext]
  by_cases leap : IsLeapYear (year + 1)
  · rw [if_pos leap]
    unfold IsLeapYear at leap
    omega
  · rw [if_neg leap]
    unfold IsLeapYear at leap
    omega

theorem daysToMonth_of_march (year : Int) {month : Int} (lower : 0 ≤ month) (upper : month ≤ 11) :
    daysToMonth year (month + 2) = daysToMonth year 2 + (153 * month + 2) / 5 := by
  unfold daysToMonth
  simp only
  have here : (year * 12 + 2 - 2) / 12 = year := by omega
  have same : (year * 12 + (month + 2) - 2) / 12 = year := by omega
  have begins : (year * 12 + 2 - 2) % 12 = 0 := by omega
  have monthOf : (year * 12 + (month + 2) - 2) % 12 = month := by omega
  rw [here, same, begins, monthOf]
  omega

theorem daysToMonth_carry (year month : Int) : daysToMonth (year + 1) month = daysToMonth year (month + 12) := by
  unfold daysToMonth
  simp only
  have same : (year + 1) * 12 + month - 2 = year * 12 + (month + 12) - 2 := by omega
  rw [same]

theorem daysToMonth_next (year : Int) {month : Nat} (first : 1 ≤ month) (last : month ≤ 12) :
    daysToMonth year month = daysToMonth year (month - 1) + daysInMonth year month := by
  have carry (counted : Int) : daysToMonth year counted = daysToMonth (year - 1) (counted + 12) := by
    have carried := daysToMonth_carry (year - 1) counted
    rwa [Int.sub_add_cancel] at carried
  have cases : month = 1 ∨ month = 2 ∨ 3 ≤ month := by omega
  rcases cases with rfl | rfl | spring
  · have january := daysToMonth_of_march (year - 1) (show (0 : Int) ≤ 10 by decide) (by decide)
    have february := daysToMonth_of_march (year - 1) (show (0 : Int) ≤ 11 by decide) (by decide)
    have length : daysInMonth year 1 = 31 := rfl
    have next : daysToMonth year 1 = daysToMonth (year - 1) (11 + 2) := carry 1
    have this : daysToMonth year 0 = daysToMonth (year - 1) (10 + 2) := carry 0
    change daysToMonth year 1 = daysToMonth year 0 + daysInMonth year 1
    omega
  · have february := daysToMonth_of_march (year - 1) (show (0 : Int) ≤ 11 by decide) (by decide)
    have march := daysToMonth_march (year - 1)
    rw [Int.sub_add_cancel] at march
    have this : daysToMonth year 1 = daysToMonth (year - 1) (11 + 2) := carry 1
    have length : ((daysInMonth year 2 : Nat) : Int) = (if IsLeapYear year then 366 else 365) - 337 := by
      by_cases leap : IsLeapYear year <;> simp [daysInMonth, leap]
    change daysToMonth year 2 = daysToMonth year 1 + daysInMonth year 2
    omega
  · have this := daysToMonth_of_march year (show (0 : Int) ≤ month - 3 by omega) (by omega)
    have next := daysToMonth_of_march year (show (0 : Int) ≤ month - 2 by omega) (by omega)
    have thisMonth : (month : Int) - 3 + 2 = month - 1 := by omega
    have nextMonth : (month : Int) - 2 + 2 = month := by omega
    rw [thisMonth] at this
    rw [nextMonth] at next
    rw [this, next]
    interval_cases month
    all_goals simp [daysInMonth]
    all_goals omega

theorem daysToMonth_eq (year month : Int) : daysToMonth year month = daysToMonth 0 (year * 12 + month) := by
  unfold daysToMonth
  simp only [Int.zero_mul, Int.zero_add]

theorem daysToMonth_lt_succ (month : Int) : daysToMonth 0 month < daysToMonth 0 (month + 1) := by
  have year : 1 ≤ month % 12 + 1 ∧ month % 12 + 1 ≤ 12 := by omega
  have next := @daysToMonth_next (month / 12) (month % 12 + 1).toNat (by omega) (by omega)
  have long := daysInMonth_ge (month / 12) (month % 12 + 1).toNat
  rw [daysToMonth_eq (month / 12), daysToMonth_eq (month / 12)] at next
  have this : month / 12 * 12 + (((month % 12 + 1).toNat : Int) - 1) = month := by omega
  have after : month / 12 * 12 + ((month % 12 + 1).toNat : Int) = month + 1 := by omega
  rw [this, after] at next
  omega

def CivilDate.monthIndex (date : CivilDate) : Int := date.year * 12 + (date.month - 1)

theorem CivilDate.IsValid.le_of_monthIndex_lt (valid : first.IsValid)
    (earlier : first.monthIndex < second.monthIndex) :
    daysToMonth 0 first.monthIndex + first.day ≤ daysToMonth 0 second.monthIndex := by
  obtain ⟨monthStart, monthEnd, -, dayEnd⟩ := valid
  have next := daysToMonth_next first.year monthStart monthEnd
  rw [daysToMonth_eq, daysToMonth_eq first.year (first.month - 1)] at next
  have following : first.year * 12 + (first.month : Int) = first.monthIndex + 1 := by
    unfold monthIndex
    omega
  have here : first.year * 12 + ((first.month : Int) - 1) = first.monthIndex := rfl
  rw [following, here] at next
  have later : daysToMonth 0 (first.monthIndex + 1) ≤ daysToMonth 0 second.monthIndex := by
    apply (strictMono_int_of_lt_succ daysToMonth_lt_succ).monotone
    omega
  omega

theorem CivilDate.IsValid.eq_of_days (firstValid : first.IsValid)
    (secondValid : second.IsValid)
    (same : daysToMonth first.year (first.month - 1) + first.day =
      daysToMonth second.year (second.month - 1) + second.day) : first = second := by
  have firstMonths := daysToMonth_eq first.year (first.month - 1)
  have secondMonths := daysToMonth_eq second.year (second.month - 1)
  change _ = daysToMonth 0 first.monthIndex at firstMonths
  change _ = daysToMonth 0 second.monthIndex at secondMonths
  rw [firstMonths, secondMonths] at same
  have months : first.monthIndex = second.monthIndex := by
    rcases Int.lt_trichotomy first.monthIndex second.monthIndex with earlier | equal | later
    · have apart := firstValid.le_of_monthIndex_lt earlier
      have := secondValid.2.2.1
      omega
    · exact equal
    · have apart := secondValid.le_of_monthIndex_lt later
      have := firstValid.2.2.1
      omega
  rw [months] at same
  obtain ⟨firstStart, firstEnd, -, -⟩ := firstValid
  obtain ⟨secondStart, secondEnd, -, -⟩ := secondValid
  unfold monthIndex at months
  have year : first.year = second.year := by omega
  have month : first.month = second.month := by omega
  have day : first.day = second.day := by omega
  cases first
  cases second
  congr

theorem civilFromDays_of_isValid {date : CivilDate} (valid : date.IsValid) :
    civilFromDays (daysToMonth date.year (date.month - 1) + date.day - 1) = date := by
  apply (civilFromDays_isValid _).eq_of_days valid
  have back := daysToMonth_civilFromDays (daysToMonth date.year (date.month - 1) + date.day - 1)
  omega

end JsDate
