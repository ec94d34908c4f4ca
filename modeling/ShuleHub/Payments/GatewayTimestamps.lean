import ShuleHub.Lib.Calendar
import ShuleHub.Payments.CallbackPayloads

/-! The timestamps of the gateway, `yyyyMMddHHmmss` in the time of Nairobi: which of them are read as the instant
that they name. -/

namespace ShuleHub.Payments

open JsDate Transaction

variable (value : String)

def buildNairobiTimestamp (now : Int) : String :=
  let shifted := now + 10800000
  let date := civilFromDays (shifted / 86400000)
  let milliseconds := (shifted % 86400000).toNat
  String.ofList (Nat.toDigits 10 date.year.toNat) ++ pad 2 date.month ++ pad 2 date.day ++
    pad 2 (milliseconds / 3600000) ++ pad 2 (milliseconds / 60000 % 60) ++ pad 2 (milliseconds / 1000 % 60)

example : buildNairobiTimestamp 1772301645000 = "20260228210045" := by decide +kernel

def IsTimestamp : Prop := value.toList.length = 14 ∧ value.toList.all Char.isDigit = true
deriving Decidable

def partDigits (first last : Nat) : List Char := (value.toList.take last).drop first

def timestampPart (first last : Nat) : Nat :=
  JsText.decimalValue (String.ofList (partDigits value first last))

def timestampDate : CivilDate where
  year := timestampPart value 0 4
  month := timestampPart value 4 6
  day := timestampPart value 6 8

@[simp] theorem timestampDate_year (value : String) : (timestampDate value).year = timestampPart value 0 4 := by
  rw [timestampDate]

@[simp] theorem timestampDate_month (value : String) : (timestampDate value).month = timestampPart value 4 6 := by
  rw [timestampDate]

@[simp] theorem timestampDate_day (value : String) : (timestampDate value).day = timestampPart value 6 8 := by
  rw [timestampDate]

def NamesTime : Prop :=
  1000 ≤ timestampPart value 0 4 ∧ (timestampDate value).IsValid ∧ timestampPart value 8 10 < 24 ∧
    timestampPart value 10 12 < 60 ∧ timestampPart value 12 14 < 60

def RendersBack (parse : String → Except Exception Int) (value : String) : Prop :=
  ∀ time, parse value = .ok time → buildNairobiTimestamp time = value

section Parts

variable {value : String}

theorem parseSafaricomTimestamp_ok {time : Int} : MpesaC2b.parseSafaricomTimestamp value = .ok time ↔
    IsTimestamp value ∧ time = utc (timestampPart value 0 4) (timestampPart value 4 6 - 1) (timestampPart value 6 8)
      (timestampPart value 8 10 - 3) (timestampPart value 10 12) (timestampPart value 12 14) := by
  simp only [MpesaC2b.parseSafaricomTimestamp, Outcome.bind_ok, Outcome.failIf_ok, not_not, Outcome.pure_ok]
  constructor
  · rintro ⟨_, shape, same⟩
    exact ⟨shape, same.symm⟩
  · rintro ⟨shape, same⟩
    exact ⟨(), shape, same.symm⟩

theorem parseTransactionDate_ok {time : Int} :
    parseTransactionDate value = .ok time ↔ MpesaC2b.parseSafaricomTimestamp value = .ok time := by
  rw [parseTransactionDate]
  cases MpesaC2b.parseSafaricomTimestamp value <;> simp [Except.mapError]

theorem length_partDigits (shape : IsTimestamp value) {first last : Nat} (within : last ≤ 14) :
    (partDigits value first last).length = last - first := by
  rw [partDigits, List.length_drop, List.length_take, shape.1]
  omega

theorem isDigit_of_mem_partDigits (shape : IsTimestamp value) {first last : Nat} :
    ∀ c ∈ partDigits value first last, c.isDigit = true := by
  intro c member
  exact List.all_eq_true.mp shape.2 c (List.mem_of_mem_take (List.mem_of_mem_drop member))

theorem toList_eq_parts (shape : IsTimestamp value) : value.toList =
    partDigits value 0 4 ++ (partDigits value 4 6 ++ (partDigits value 6 8 ++ (partDigits value 8 10 ++
      (partDigits value 10 12 ++ partDigits value 12 14)))) := by
  have joins (first middle last : Nat) (ordered : first ≤ middle) (further : middle ≤ last) :
      middle ≤ 14 → partDigits value first middle ++ partDigits value middle last = partDigits value first last := by
    intro within
    have long : first ≤ (value.toList.take middle).length := by
      rw [List.length_take, shape.1]
      omega
    have early : value.toList.take middle = (value.toList.take last).take middle := by
      rw [List.take_take, Nat.min_eq_left further]
    rw [partDigits, partDigits, ← List.drop_append_of_le_length long, early, List.take_append_drop]
    rfl
  rw [joins 10 12 14 (by decide) (by decide) (by decide), joins 8 10 14 (by decide) (by decide) (by decide),
    joins 6 8 14 (by decide) (by decide) (by decide), joins 4 6 14 (by decide) (by decide) (by decide),
    joins 0 4 14 (by decide) (by decide) (by decide), partDigits, List.drop_zero, List.take_of_length_le shape.1.le]

theorem pad_timestampPart (shape : IsTimestamp value) {first last width : Nat} (within : last ≤ 14)
    (apart : first + width = last) (positive : 0 < width) :
    (pad width (timestampPart value first last)).toList = partDigits value first last := by
  have long := @length_partDigits value shape first last within
  have digits := @pad_decimalValue (partDigits value first last) (by omega) (isDigit_of_mem_partDigits shape)
  rw [show (partDigits value first last).length = width by omega] at digits
  rw [timestampPart, digits, String.toList_ofList]

theorem timestampPart_of_pad {first last width n : Nat} (same : (pad width n).toList = partDigits value first last) :
    timestampPart value first last = n := by
  rw [timestampPart, ← same, String.ofList_toList, decimalValue_pad]

theorem toDigits_year {year : Nat} : (Nat.toDigits 10 year).length = 4 ↔ 1000 ≤ year ∧ year < 10000 := by
  have three := @Nat.length_toDigits_le_iff 10 year 3 (by decide) (by decide)
  have four := @Nat.length_toDigits_le_iff 10 year 4 (by decide) (by decide)
  omega

theorem toDigits_eq_pad {year : Nat} (long : (Nat.toDigits 10 year).length = 4) :
    Nat.toDigits 10 year = (pad 4 year).toList := by
  rw [pad_toList, long]
  rfl

theorem buildNairobiTimestamp_toList (now : Int) : ∃ date milliseconds,
    date = civilFromDays ((now + 10800000) / 86400000) ∧ milliseconds = ((now + 10800000) % 86400000).toNat ∧
      (buildNairobiTimestamp now).toList =
        Nat.toDigits 10 date.year.toNat ++ ((pad 2 date.month).toList ++ ((pad 2 date.day).toList ++
          ((pad 2 (milliseconds / 3600000)).toList ++ ((pad 2 (milliseconds / 60000 % 60)).toList ++
            (pad 2 (milliseconds / 1000 % 60)).toList)))) := by
  refine ⟨_, _, rfl, rfl, ?_⟩
  simp only [buildNairobiTimestamp, String.toList_append, String.toList_ofList, List.append_assoc]

theorem namesTime_of_rendered (shape : IsTimestamp value) {time : Int} (renders : buildNairobiTimestamp time = value) :
    NamesTime value := by
  obtain ⟨date, milliseconds, dated, timed, chars⟩ := buildNairobiTimestamp_toList time
  have valid := civilFromDays_isValid ((time + 10800000) / 86400000)
  rw [← dated] at valid
  obtain ⟨monthStart, monthEnd, dayStart, dayEnd⟩ := valid
  have days : date.day ≤ 31 := by
    rw [dated]
    exact (civilFromDays_ranges _).2.2.2
  have two {n : Nat} (small : n < 100) : (pad 2 n).toList.length = 2 := pad_length (by decide) small
  have parts {first last : Nat} (within : last ≤ 14) := @length_partDigits value shape first last within
  have monthLength := two (show date.month < 100 by omega)
  have dayLength := two (show date.day < 100 by omega)
  have hourLength := two (show milliseconds / 3600000 < 100 by omega)
  have minuteLength := two (show milliseconds / 60000 % 60 < 100 by omega)
  have secondLength := two (show milliseconds / 1000 % 60 < 100 by omega)
  rw [renders, toList_eq_parts shape] at chars
  obtain ⟨year, rest⟩ := List.append_inj' chars (by
    simp only [List.length_append, monthLength, dayLength, hourLength, minuteLength, secondLength,
      parts (show 6 ≤ 14 by decide), parts (show 8 ≤ 14 by decide), parts (show 10 ≤ 14 by decide),
      parts (show 12 ≤ 14 by decide), parts (show 14 ≤ 14 by decide)])
  obtain ⟨month, rest⟩ := List.append_inj rest ((parts (by decide)).trans monthLength.symm)
  obtain ⟨day, rest⟩ := List.append_inj rest ((parts (by decide)).trans dayLength.symm)
  obtain ⟨hour, rest⟩ := List.append_inj rest ((parts (by decide)).trans hourLength.symm)
  obtain ⟨minute, second⟩ := List.append_inj rest ((parts (by decide)).trans minuteLength.symm)
  have yearLength : (Nat.toDigits 10 date.year.toNat).length = 4 := by
    rw [← year]
    exact parts (by decide)
  rw [toDigits_eq_pad yearLength] at year
  have yearOf := timestampPart_of_pad year.symm
  have monthOf := timestampPart_of_pad month.symm
  have dayOf := timestampPart_of_pad day.symm
  have full := toDigits_year.mp yearLength
  have sameDate : timestampDate value = date := by
    rw [timestampDate, yearOf, monthOf, dayOf, Int.toNat_of_nonneg (by omega)]
  refine ⟨?_, ?_, ?_, ?_, ?_⟩
  · omega
  · rw [sameDate]
    exact ⟨monthStart, monthEnd, dayStart, dayEnd⟩
  · have := timestampPart_of_pad hour.symm
    omega
  · have := timestampPart_of_pad minute.symm
    omega
  · have := timestampPart_of_pad second.symm
    omega

theorem rendered_of_namesTime (shape : IsTimestamp value) (names : NamesTime value) :
    buildNairobiTimestamp (utc (timestampPart value 0 4) (timestampPart value 4 6 - 1) (timestampPart value 6 8)
      (timestampPart value 8 10 - 3) (timestampPart value 10 12) (timestampPart value 12 14)) = value := by
  obtain ⟨full, valid, hours, minutes, seconds⟩ := names
  have small : timestampPart value 0 4 < 10000 := by
    have bound := decimalValue_lt (partDigits value 0 4) (isDigit_of_mem_partDigits shape)
    rwa [length_partDigits shape (by decide)] at bound
  have date := civilFromDays_of_isValid valid
  rw [timestampDate_year, timestampDate_month, timestampDate_day] at date
  generalize instant : utc (timestampPart value 0 4) (timestampPart value 4 6 - 1) (timestampPart value 6 8)
    (timestampPart value 8 10 - 3) (timestampPart value 10 12) (timestampPart value 12 14) = time
  have shifted : time + 10800000 =
      (daysToMonth (timestampPart value 0 4) (timestampPart value 4 6 - 1) + timestampPart value 6 8 - 1) * 86400000 +
        (timestampPart value 8 10 * 3600000 + timestampPart value 10 12 * 60000 + timestampPart value 12 14 * 1000) := by
    rw [← instant, utc, if_neg (by omega)]
    omega
  have dayOf : (time + 10800000) / 86400000 =
      daysToMonth (timestampPart value 0 4) (timestampPart value 4 6 - 1) + timestampPart value 6 8 - 1 := by omega
  have timeOf : ((time + 10800000) % 86400000).toNat =
      timestampPart value 8 10 * 3600000 + timestampPart value 10 12 * 60000 + timestampPart value 12 14 * 1000 := by
    omega
  obtain ⟨_, milliseconds, dated, timed, chars⟩ := buildNairobiTimestamp_toList time
  rw [dayOf] at dated
  rw [timeOf] at timed
  have sameDate := dated.trans date
  apply String.toList_inj.mp
  rw [chars, sameDate, toList_eq_parts shape]
  have hourOf : milliseconds / 3600000 = timestampPart value 8 10 := by omega
  have minuteOf : milliseconds / 60000 % 60 = timestampPart value 10 12 := by omega
  have secondOf : milliseconds / 1000 % 60 = timestampPart value 12 14 := by omega
  have yearDigits : Nat.toDigits 10 (timestampDate value).year.toNat = partDigits value 0 4 := by
    rw [← pad_timestampPart shape (show 4 ≤ 14 by decide) (show 0 + 4 = 4 by decide) (by decide), timestampDate_year,
      Int.toNat_natCast]
    exact toDigits_eq_pad (toDigits_year.mpr ⟨full, small⟩)
  have two (first last : Nat) (within : last ≤ 14) (apart : first + 2 = last) :=
    @pad_timestampPart value shape first last 2 within apart (by decide)
  rw [hourOf, minuteOf, secondOf, yearDigits, two 8 10 (by decide) rfl, two 10 12 (by decide) rfl,
    two 12 14 (by decide) rfl]
  rw [timestampDate_month, timestampDate_day, two 4 6 (by decide) rfl, two 6 8 (by decide) rfl]

theorem rendersBack_parseSafaricomTimestamp :
    RendersBack MpesaC2b.parseSafaricomTimestamp value ↔ (IsTimestamp value → NamesTime value) := by
  constructor
  · intro renders shape
    exact namesTime_of_rendered shape (renders _ (parseSafaricomTimestamp_ok.mpr ⟨shape, rfl⟩))
  · intro names time parses
    obtain ⟨shape, rfl⟩ := parseSafaricomTimestamp_ok.mp parses
    exact rendered_of_namesTime shape (names shape)

theorem rendersBack_parseTransactionDate :
    RendersBack parseTransactionDate value ↔ RendersBack MpesaC2b.parseSafaricomTimestamp value := by
  unfold RendersBack
  simp only [parseTransactionDate_ok]

end Parts

/-- Both services read a text as the instant that is rendered as it exactly if its parts are those of a time; of the
texts for which they do so no two are the same instant. -/
theorem timestamps_render_back (value : String) :
    (RendersBack parseTransactionDate value ∧ RendersBack MpesaC2b.parseSafaricomTimestamp value ↔
        (IsTimestamp value → NamesTime value)) ∧
      ∀ other time, NamesTime value → NamesTime other → parseTransactionDate value = .ok time →
        parseTransactionDate other = .ok time → other = value := by
  constructor
  · rw [rendersBack_parseTransactionDate, and_self, rendersBack_parseSafaricomTimestamp]
  · intro other time names namesOther parses parsesOther
    have reads {text : String} (named : NamesTime text) : RendersBack parseTransactionDate text :=
      rendersBack_parseTransactionDate.mpr (rendersBack_parseSafaricomTimestamp.mpr fun _ => named)
    exact (reads namesOther time parsesOther).symm.trans (reads names time parses)

/-- The thirteenth month is read as January of the next year. -/
theorem thirteenth_month_is_read_as_january :
    parseTransactionDate "20261301000000" = parseTransactionDate "20270101000000" ∧
      parseTransactionDate "20261301000000" = .ok 1798750800000 ∧
      buildNairobiTimestamp 1798750800000 = "20270101000000" ∧
      ¬ RendersBack parseTransactionDate "20261301000000" ∧
      ¬ RendersBack MpesaC2b.parseSafaricomTimestamp "20261301000000" := by
  have read : MpesaC2b.parseSafaricomTimestamp "20261301000000" = .ok 1798750800000 := by decide +kernel
  have rendered : buildNairobiTimestamp 1798750800000 = "20270101000000" := by decide +kernel
  have differs : ¬ RendersBack MpesaC2b.parseSafaricomTimestamp "20261301000000" := by
    intro renders
    exact absurd ((renders _ read).symm.trans rendered) (by decide)
  refine ⟨by decide +kernel, parseTransactionDate_ok.mpr read, rendered, ?_, differs⟩
  intro renders
  exact differs (rendersBack_parseTransactionDate.mp renders)

end ShuleHub.Payments
