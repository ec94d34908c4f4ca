import ShuleHub.Lib.Calendar
import ShuleHub.Payments.ReconciliationReports

/-! Which pairs of transactions with one receipt a daily report can show: those of one Nairobi day. -/

namespace ShuleHub.Payments.Reconciliation

open Outcome JsDate

variable {day : Int} {year month : Nat}

def nairobiDay (time : Int) : Int := (time + 10800000) / 86400000

def Reportable (day : Int) : Prop :=
  100 ≤ (JsDate.civilFromDays day).year ∧ (JsDate.civilFromDays day).year ≤ 9999
deriving Decidable

def windowOf (day : Int) : ReportWindow where
  windowStart := day * 86400000 - 10800000
  windowEnd := day * 86400000 - 10800000 + 86400000

theorem contains_windowOf {time : Int} : (windowOf day).Contains time ↔ nairobiDay time = day := by
  unfold ReportWindow.Contains windowOf nairobiDay
  simp only
  omega

def dateText (day : Int) : String :=
  let date := JsDate.civilFromDays day
  JsDate.pad 4 date.year.toNat ++ "-" ++ JsDate.pad 2 date.month ++ "-" ++ JsDate.pad 2 date.day

theorem reportDateParts_some {text : String} {day : Nat}
    (parts : reportDateParts text = some (year, month, day)) : year < 10000 ∧ month < 100 ∧ day < 100 := by
  unfold reportDateParts at parts
  split at parts
  · split at parts
    · next y e a r _ m o _ d t _ shape =>
      cases parts
      have numeric : ∀ c ∈ [y, e, a, r, m, o, d, t], c.isDigit = true := List.all_eq_true.mp shape.2.2
      have years := decimalValue_lt [y, e, a, r] fun c member => numeric c (by grind)
      have months := decimalValue_lt [m, o] fun c member => numeric c (by grind)
      have days := decimalValue_lt [d, t] fun c member => numeric c (by grind)
      exact ⟨by simpa using years, by simpa using months, by simpa using days⟩
    · cases parts
  · cases parts

theorem windowOf_startOfDay (year month day : Nat) :
    ReportWindow.mk (startOfDay year month day) (startOfDay year month day + 86400000) =
      windowOf (daysToMonth year (month - 1) + day - 1) := rfl

theorem reportable_of_isCalendarDate {day : Nat} (valid : isCalendarDate year month day)
    (small : year < 10000) : Reportable (daysToMonth year (month - 1) + day - 1) := by
  obtain ⟨yearOf, monthOf, dayOf⟩ := valid
  by_cases full : (0 : Int) ≤ year ∧ (year : Int) ≤ 99
  · -- `Date.UTC` has read the year as one of the twentieth century.
    exfalso
    have early : (civilFromDays (utc year (month - 1) day 12 0 0 / 86400000)).year ≤ 99 := by
      rw [yearOf]
      exact full.2
    have long := days_of_early_year early
    have recent := @daysToMonth_of_recent_year (1900 + year) (month - 1) (by omega) (by omega)
    unfold utc at long
    simp only [if_pos full] at long
    omega
  · rw [utc_noon _ _ full] at yearOf
    unfold Reportable
    rw [yearOf]
    omega

theorem window_of_normalized {value reportDate : String} (normalized : normalizeReportDate value = .ok reportDate) :
    ∃ day, Reportable day ∧ buildReportWindow reportDate = .ok (windowOf day) := by
  simp only [normalizeReportDate] at normalized
  split at normalized
  · cases normalized
  · next year month day parts =>
    simp only [bind_ok, failIf_ok, pure_ok, not_not] at normalized
    obtain ⟨-, valid, rfl⟩ := normalized
    refine ⟨_, reportable_of_isCalendarDate valid (reportDateParts_some parts).1, ?_⟩
    rw [buildReportWindow, parts]
    rfl

theorem dateText_toList (reportable : Reportable day) : ∃ y e a r m o d t,
    (dateText day).toList = [y, e, a, r, '-', m, o, '-', d, t] ∧
      String.ofList [y, e, a, r] = pad 4 (civilFromDays day).year.toNat ∧
      String.ofList [m, o] = pad 2 (civilFromDays day).month ∧
      String.ofList [d, t] = pad 2 (civilFromDays day).day ∧
      ∀ c ∈ [y, e, a, r] ++ [m, o] ++ [d, t], c.isDigit = true := by
  obtain ⟨early, late⟩ := reportable
  obtain ⟨-, months, -, days⟩ := civilFromDays_ranges day
  generalize date : civilFromDays day = civil at *
  have yearLength : (pad 4 civil.year.toNat).toList.length = 4 := pad_length (by decide) (by omega)
  have monthLength : (pad 2 civil.month).toList.length = 2 := pad_length (by decide) (by omega)
  have dayLength : (pad 2 civil.day).toList.length = 2 := pad_length (by decide) (by omega)
  obtain ⟨y, e, a, r, year⟩ := List.length_eq_four.mp yearLength
  obtain ⟨m, o, month⟩ := List.length_eq_two.mp monthLength
  obtain ⟨d, t, dayOf⟩ := List.length_eq_two.mp dayLength
  refine ⟨y, e, a, r, m, o, d, t, ?_, ?_, ?_, ?_, ?_⟩
  · rw [dateText, date]
    simp only [String.toList_append, year, month, dayOf]
    rfl
  · rw [← year, String.ofList_toList]
  · rw [← month, String.ofList_toList]
  · rw [← dayOf, String.ofList_toList]
  · rw [← year, ← month, ← dayOf]
    intro c member
    rcases List.mem_append.mp member with first | inDay
    · rcases List.mem_append.mp first with inYear | inMonth
      · exact isDigit_of_mem_pad inYear
      · exact isDigit_of_mem_pad inMonth
    · exact isDigit_of_mem_pad inDay

theorem reportDateParts_dateText (reportable : Reportable day) :
    reportDateParts (dateText day) = some ((civilFromDays day).year.toNat, (civilFromDays day).month,
      (civilFromDays day).day) := by
  obtain ⟨y, e, a, r, m, o, d, t, chars, year, month, dayOf, digits⟩ := dateText_toList reportable
  have numeric : [y, e, a, r, m, o, d, t].all Char.isDigit = true := List.all_eq_true.mpr digits
  rw [reportDateParts, chars]
  simp only [numeric, year, month, dayOf, decimalValue_pad, and_self, if_true]

theorem trim_dateText (reportable : Reportable day) : JsText.trim (dateText day) = dateText day := by
  obtain ⟨y, e, a, r, m, o, d, t, chars, -, -, -, digits⟩ := dateText_toList reportable
  have begins : (dateText day).toList.head? = some y := by
    rw [chars]
    rfl
  have ends : (dateText day).toList.getLast? = some t := by
    rw [chars]
    rfl
  apply JsText.trim_of_visible begins ends
  · exact JsText.not_isSpace_of_isDigit (digits y (by simp))
  · exact JsText.not_isSpace_of_isDigit (digits t (by simp))

theorem normalized_dateText (reportable : Reportable day) :
    normalizeReportDate (dateText day) = .ok (dateText day) ∧ buildReportWindow (dateText day) = .ok (windowOf day) := by
  have parts := reportDateParts_dateText reportable
  have back := daysToMonth_civilFromDays day
  have trimmed := trim_dateText reportable
  obtain ⟨early, late⟩ := reportable
  have year : (((civilFromDays day).year.toNat : Nat) : Int) = (civilFromDays day).year := by omega
  have valid : isCalendarDate (civilFromDays day).year.toNat (civilFromDays day).month
      (civilFromDays day).day := by
    have same : utc (civilFromDays day).year ((civilFromDays day).month - 1)
        (civilFromDays day).day 12 0 0 / 86400000 = day := by
      rw [utc_noon _ _ (by omega), back]
    unfold isCalendarDate
    simp only
    rw [year, same]
    exact ⟨rfl, rfl, rfl⟩
  constructor
  · simp only [normalizeReportDate, trimmed, parts]
    apply bind_ok.mpr
    exact ⟨(), failIf_ok.mpr (not_not.mpr valid), rfl⟩
  · simp only [buildReportWindow, parts]
    rw [windowOf_startOfDay, year, back]
    rfl

def Carries (receipt : String) (row : MpesaTransactionEntity) : Prop :=
  row.status = .succeeded ∧ row.mpesaReceiptNumber = some receipt
deriving Decidable

def Lists (receipt : String) (report : Report) : Prop :=
  ∃ discrepancy ∈ report.discrepancies, discrepancy.type = .duplicateMpesaReceipt ∧
    discrepancy.mpesaReceiptNumber = some receipt

section Listing

variable {window : ReportWindow} {receipt : String} {db : PaymentsDb}

theorem Tally.type_of_mem {rows : List SuccessfulMpesaRow} {tally : Tally}
    (types : ∀ discrepancy ∈ tally.discrepancies, discrepancy.type ≠ .duplicateMpesaReceipt) :
    ∀ discrepancy ∈ (rows.foldl Tally.add tally).discrepancies, discrepancy.type ≠ .duplicateMpesaReceipt := by
  induction rows generalizing tally with
  | nil => exact types
  | cons row rows ih =>
    apply ih
    have appended {added : Discrepancy} (other : added.type ≠ .duplicateMpesaReceipt) :
        ∀ discrepancy ∈ tally.discrepancies ++ [added], discrepancy.type ≠ .duplicateMpesaReceipt := by
      intro discrepancy member
      rcases List.mem_append.mp member with old | new
      · exact types discrepancy old
      · rw [List.mem_singleton.mp new]
        exact other
    by_cases missing : Unlinked row
    · rw [tally.add_missing missing]
      exact appended nofun
    · by_cases differs : Differs row
      · rw [tally.add_mismatch missing differs]
        exact appended nofun
      · rw [tally.add_matched missing differs]
        exact types

theorem lists_buildReport (runtime : Runtime) (reportDate : String) (window : ReportWindow) (generatedAt : Int)
    (rows : LoadedRows) : Lists receipt (buildReport runtime reportDate window generatedAt rows) ↔
      ∃ row ∈ rows.duplicateReceipts, row.mpesaReceiptNumber = receipt := by
  let tally := rows.successful.foldl Tally.add .empty
  have others : ∀ discrepancy ∈ tally.discrepancies, discrepancy.type ≠ .duplicateMpesaReceipt :=
    Tally.type_of_mem fun _ member => absurd member List.not_mem_nil
  constructor
  · rintro ⟨discrepancy, member, type, named⟩
    have member : discrepancy ∈ collected rows tally := (List.mem_insertionSort _).mp member
    simp only [collected, List.mem_append, List.mem_map] at member
    rcases member with ((known | ⟨row, -, rfl⟩) | ⟨row, loaded, rfl⟩) | ⟨row, -, rfl⟩
    · exact absurd type (others discrepancy known)
    · cases type
    · exact ⟨row, loaded, Option.some.inj named⟩
    · cases type
  · rintro ⟨row, loaded, rfl⟩
    refine ⟨duplicateMpesaReceipt row, (List.mem_insertionSort _).mpr ?_, rfl, rfl⟩
    apply List.mem_append_left
    apply List.mem_append_right
    exact List.mem_map_of_mem loaded

theorem mem_succeededRows {row : MpesaTransactionEntity} :
    row ∈ succeededRows window db ↔ row ∈ db.mpesaTransactions.rows ∧ succeededIn window row := by
  rw [succeededRows, List.mem_insertionSort, List.mem_filter, decide_eq_true_eq]

theorem two_of_nodup {Item : Type} {items : List Item} (distinct : items.Nodup) :
    1 < items.length ↔ ∃ first ∈ items, ∃ second ∈ items, second ≠ first := by
  cases items with
  | nil => simp
  | cons first rest =>
    cases rest with
    | nil => simp
    | cons second rest =>
      obtain ⟨ahead, -⟩ := List.nodup_cons.mp distinct
      simp only [List.length_cons, Nat.lt_add_left_iff_pos, Nat.succ_pos, true_iff]
      refine ⟨first, List.mem_cons_self, second, List.mem_cons_of_mem _ List.mem_cons_self, ?_⟩
      rintro rfl
      exact ahead List.mem_cons_self

theorem loaded_iff : (∃ row ∈ loadDuplicateReceiptRows window db, row.mpesaReceiptNumber = receipt) ↔
    ∃ first ∈ db.mpesaTransactions.rows, ∃ second ∈ db.mpesaTransactions.rows, second ≠ first ∧
      (Carries receipt first ∧ window.Contains (observedAt first)) ∧
      Carries receipt second ∧ window.Contains (observedAt second) := by
  let group := (succeededRows window db).filter (·.mpesaReceiptNumber = some receipt)
  have distinct : group.Nodup := by
    apply List.Nodup.filter
    apply (List.perm_insertionSort _ _).nodup_iff.mpr
    exact (List.Nodup.of_map _ db.mpesaTransactions.distinct).filter _
  have inGroup (row : MpesaTransactionEntity) : row ∈ group ↔
      row ∈ db.mpesaTransactions.rows ∧ Carries receipt row ∧ window.Contains (observedAt row) := by
    rw [List.mem_filter, mem_succeededRows, decide_eq_true_eq]
    exact ⟨fun ⟨⟨known, succeeded, inside⟩, named⟩ => ⟨known, ⟨succeeded, named⟩, inside⟩,
      fun ⟨known, ⟨succeeded, named⟩, inside⟩ => ⟨⟨known, succeeded, inside⟩, named⟩⟩
  have loaded : (∃ row ∈ loadDuplicateReceiptRows window db, row.mpesaReceiptNumber = receipt) ↔ 1 < group.length := by
    simp only [loadDuplicateReceiptRows, List.mem_insertionSort, List.mem_filter, List.mem_map, List.mem_eraseDups,
      List.mem_filterMap, decide_eq_true_eq]
    constructor
    · rintro ⟨_, ⟨⟨other, -, rfl⟩, counted⟩, rfl⟩
      exact counted
    · intro counted
      obtain ⟨first, member, -⟩ := (two_of_nodup distinct).mp counted
      obtain ⟨known, named⟩ := List.mem_filter.mp member
      exact ⟨_, ⟨⟨receipt, ⟨first, known, of_decide_eq_true named⟩, rfl⟩, counted⟩, rfl⟩
  rw [loaded, two_of_nodup distinct]
  simp only [inGroup]
  constructor
  · rintro ⟨first, ⟨known, own⟩, second, ⟨present, other⟩, differs⟩
    exact ⟨first, known, second, present, differs, own, other⟩
  · rintro ⟨first, known, second, present, differs, own, other⟩
    exact ⟨first, ⟨known, own⟩, second, ⟨present, other⟩, differs⟩

end Listing

/-- Another successful transaction with the receipt has its time on the day of this one, which a report date can name. -/
def SharesDay (db : PaymentsDb) (receipt : String) (row : MpesaTransactionEntity) : Prop :=
  Reportable (nairobiDay (observedAt row)) ∧ ∃ other ∈ db.mpesaTransactions.rows, other ≠ row ∧ Carries receipt other ∧
    nairobiDay (observedAt other) = nairobiDay (observedAt row)

def ReportedOver (runtime : Runtime) (call : ReportCall) (db : TenantDb) (receipt : String) (times : List Int) : Prop :=
  ∃ input report window, generateDailyReport runtime call input db = .ok report ∧
    (normalizeReportDate input.reportDate >>= buildReportWindow) = .ok window ∧ (∃ time ∈ times, window.Contains time) ∧
    Lists receipt report

section Reporting

variable {runtime : Runtime} {call : ReportCall} {db : TenantDb} {receipt : String} {row first second : MpesaTransactionEntity}

theorem lists_generateDailyReport {input : GenerateMpesaReconciliationReportInput} {report : Report}
    {window : ReportWindow} (generated : generateDailyReport runtime call input db = .ok report)
    (windowed : (normalizeReportDate input.reportDate >>= buildReportWindow) = .ok window) :
    Lists receipt report ↔ ∃ row ∈ loadDuplicateReceiptRows window db.payments, row.mpesaReceiptNumber = receipt := by
  obtain ⟨reportDate, own, graceMinutes, normalized, built, rfl⟩ := generateDailyReport_ok generated
  obtain ⟨_, known, windowed⟩ := bind_ok.mp windowed
  obtain rfl := Except.ok.inj (normalized.symm.trans known)
  obtain rfl := Except.ok.inj (built.symm.trans windowed)
  exact lists_buildReport runtime reportDate own call.generatedAt _

theorem day_of_reported {times : List Int} (reported : ReportedOver runtime call db receipt times) :
    ∃ day, Reportable day ∧ (∃ time ∈ times, nairobiDay time = day) ∧
      ∀ row, ∃ other ∈ db.payments.mpesaTransactions.rows, other ≠ row ∧ Carries receipt other ∧
        nairobiDay (observedAt other) = day := by
  obtain ⟨input, report, window, generated, windowed, ⟨time, member, contains⟩, lists⟩ := reported
  obtain ⟨reportDate, normalized, built⟩ := bind_ok.mp windowed
  obtain ⟨day, reportable, own⟩ := window_of_normalized normalized
  obtain rfl := Except.ok.inj (built.symm.trans own)
  have loaded := (lists_generateDailyReport generated windowed).mp lists
  obtain ⟨first, known, second, other, differs, ⟨firstCarries, firstIn⟩, secondCarries, secondIn⟩ := loaded_iff.mp loaded
  refine ⟨day, reportable, ⟨time, member, contains_windowOf.mp contains⟩, ?_⟩
  intro row
  by_cases same : first = row
  · exact ⟨second, other, same ▸ differs, secondCarries, contains_windowOf.mp secondIn⟩
  · exact ⟨first, known, same, firstCarries, contains_windowOf.mp firstIn⟩

theorem reported_of_sharesDay (tenant : runtime.tenantId ≠ "") (present : row ∈ db.payments.mpesaTransactions.rows)
    (carries : Carries receipt row) (shares : SharesDay db.payments receipt row) :
    ReportedOver runtime call db receipt [observedAt row] := by
  obtain ⟨reportable, other, known, differs, also, sameDay⟩ := shares
  obtain ⟨normalized, built⟩ := normalized_dateText reportable
  let day := nairobiDay (observedAt row)
  let input : GenerateMpesaReconciliationReportInput := ⟨dateText day, none⟩
  have windowed : (normalizeReportDate input.reportDate >>= buildReportWindow) = .ok (windowOf day) :=
    bind_ok.mpr ⟨_, normalized, built⟩
  have generated : generateDailyReport runtime call input db =
      .ok (buildReport runtime (dateText day) (windowOf day) call.generatedAt (loadRows runtime call (windowOf day) 15 db)) := by
    apply bind_ok.mpr
    refine ⟨(), failIf_ok.mpr tenant, ?_⟩
    apply bind_ok.mpr
    refine ⟨_, normalized, ?_⟩
    apply bind_ok.mpr
    exact ⟨_, built, rfl⟩
  refine ⟨input, _, windowOf day, generated, windowed, ⟨_, List.mem_singleton_self _, contains_windowOf.mpr rfl⟩, ?_⟩
  apply (lists_generateDailyReport generated windowed).mpr
  apply loaded_iff.mpr
  exact ⟨row, present, other, known, differs, ⟨carries, contains_windowOf.mpr rfl⟩, also, contains_windowOf.mpr sameDay⟩

end Reporting

/-- Two transactions with one receipt: some report over their days lists it exactly when one of them shares its day
with another transaction that carries it. -/
theorem duplicates_reported_iff (runtime : Runtime) (call : ReportCall) (db : TenantDb) (receipt : String)
    {first second : MpesaTransactionEntity} (tenant : runtime.tenantId ≠ "")
    (firstPresent : first ∈ db.payments.mpesaTransactions.rows)
    (secondPresent : second ∈ db.payments.mpesaTransactions.rows) (firstCarries : Carries receipt first)
    (secondCarries : Carries receipt second) :
    ReportedOver runtime call db receipt [observedAt first, observedAt second] ↔
      SharesDay db.payments receipt first ∨ SharesDay db.payments receipt second := by
  constructor
  · intro reported
    obtain ⟨day, reportable, ⟨time, member, rfl⟩, others⟩ := day_of_reported reported
    rcases List.mem_pair.mp member with rfl | rfl
    · exact .inl ⟨reportable, others first⟩
    · exact .inr ⟨reportable, others second⟩
  · have wider {row : MpesaTransactionEntity} (member : observedAt row ∈ [observedAt first, observedAt second])
        (reported : ReportedOver runtime call db receipt [observedAt row]) :
        ReportedOver runtime call db receipt [observedAt first, observedAt second] := by
      obtain ⟨input, report, window, generated, windowed, ⟨time, only, contains⟩, lists⟩ := reported
      rw [List.mem_singleton.mp only] at contains
      exact ⟨input, report, window, generated, windowed, ⟨_, member, contains⟩, lists⟩
    rintro (shares | shares)
    · exact wider (by simp) (reported_of_sharesDay tenant firstPresent firstCarries shares)
    · exact wider (by simp) (reported_of_sharesDay tenant secondPresent secondCarries shares)

def sampleRow (ids : String) (occurredAt : Int) : MpesaTransactionEntity where
  id := ids
  paymentIntentId := ids
  callbackLogId := ids
  checkoutRequestId := "checkout-" ++ ids
  merchantRequestId := "merchant-" ++ ids
  resultCode := 0
  resultDesc := "Processed"
  status := .succeeded
  transactionId := some ids
  mpesaReceiptNumber := some "SFF6XYZ123"
  amountMinor := some 500
  phoneNumber := none
  transactionOccurredAt := some occurredAt
  ledgerTransactionId := none
  processedAt := none
  metadata := .obj []
  createdAt := occurredAt

def withRows (rows : List MpesaTransactionEntity) (distinct : (rows.map (·.checkoutRequestId)).Nodup) : TenantDb :=
  { sampleTenant [] List.nodup_nil with payments := ⟨.empty, ⟨rows, distinct⟩, []⟩ }

def sampleReportCall : ReportCall where
  settings := ⟨some "cash", some "fees", none, none, none⟩
  tenantFinance := none
  now := 0
  generatedAt := 0

def lastMoment : Int := 1781038799999

def midnightRows : TenantDb :=
  withRows [sampleRow "a" lastMoment, sampleRow "b" (lastMoment + 1)] (by decide)

def eveningRows : TenantDb :=
  withRows [sampleRow "a" (lastMoment - 1), sampleRow "b" lastMoment] (by decide)

theorem midnight_hides_duplicates :
    (∀ row ∈ midnightRows.payments.mpesaTransactions.rows, Carries "SFF6XYZ123" row) ∧
      ¬ ReportedOver samplePaymentsRuntime.toRuntime sampleReportCall midnightRows "SFF6XYZ123"
        (midnightRows.payments.mpesaTransactions.rows.map observedAt) := by
  refine ⟨by decide +kernel, fun reported => ?_⟩
  obtain ⟨day, -, ⟨time, member, own⟩, others⟩ := day_of_reported reported
  have apart : ∀ row ∈ midnightRows.payments.mpesaTransactions.rows,
      ∀ other ∈ midnightRows.payments.mpesaTransactions.rows, other ≠ row →
        nairobiDay (observedAt other) ≠ nairobiDay (observedAt row) := by
    decide +kernel
  obtain ⟨row, present, rfl⟩ := List.mem_map.mp member
  obtain ⟨other, known, differs, -, sameDay⟩ := others row
  exact apart row present other known differs (sameDay.trans own.symm)

theorem evening_duplicates_are_reported :
    ReportedOver samplePaymentsRuntime.toRuntime sampleReportCall eveningRows "SFF6XYZ123"
        [observedAt (sampleRow "a" (lastMoment - 1)), observedAt (sampleRow "b" lastMoment)] ↔
      SharesDay eveningRows.payments "SFF6XYZ123" (sampleRow "a" (lastMoment - 1)) ∨
        SharesDay eveningRows.payments "SFF6XYZ123" (sampleRow "b" lastMoment) := by
  apply duplicates_reported_iff
  · decide +kernel
  · decide +kernel
  · decide +kernel
  · decide +kernel
  · decide +kernel

end ShuleHub.Payments.Reconciliation
