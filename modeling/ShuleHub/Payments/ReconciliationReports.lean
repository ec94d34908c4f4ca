import ShuleHub.Lib.Sorting
import ShuleHub.Payments.CompletedIntents
import ShuleHub.Payments.Reconciliation

/-! The figures of a reconciliation report add up, whatever rows it is made of. -/

namespace ShuleHub.Payments.Reconciliation

/-- What `localeCompare` promises: an order of all texts that tells different timestamps apart. -/
structure Collates (localeLe : String → String → Bool) : Prop where
  total : ∀ first second, localeLe first second ∨ localeLe second first
  trans : ∀ first second third, localeLe first second → localeLe second third → localeLe first third
  timestamps : ∀ first second : Int, localeLe (JsDate.toISOString first) (JsDate.toISOString second) →
    localeLe (JsDate.toISOString second) (JsDate.toISOString first) →
    JsDate.toISOString first = JsDate.toISOString second

/-- Every successful row is in exactly one class, and the figures follow the classes. -/
structure Consistent (runtime : Runtime) (report : Report) : Prop where
  classified : report.summary.successfulMpesaTransactionCount = report.summary.matchedTransactionCount +
    report.summary.missingLedgerTransactionCount + report.summary.amountMismatchCount
  matched_le_linked : report.summary.matchedAmountMinor ≤ report.summary.linkedLedgerAmountMinor
  counted : report.summary.discrepancyCount = report.summary.missingCallbackCount +
    report.summary.missingLedgerTransactionCount + report.summary.amountMismatchCount +
    report.summary.duplicateReceiptGroupCount + report.summary.unmatchedLedgerTransactionCount
  listed : report.summary.discrepancyCount = report.discrepancies.length
  ordered : report.discrepancies.Pairwise (precedes runtime)
  balanced_counts : report.isBalanced = true →
    report.summary.successfulMpesaTransactionCount = report.summary.linkedLedgerTransactionCount ∧
      report.summary.linkedLedgerTransactionCount = report.summary.matchedTransactionCount
  balanced_amounts : report.isBalanced = true →
    report.summary.successfulMpesaAmountMinor = report.summary.linkedLedgerAmountMinor ∧
      report.summary.linkedLedgerAmountMinor = report.summary.matchedAmountMinor

def Stamped (discrepancy : Discrepancy) : Prop := ∃ time, discrepancy.occurredAt = JsDate.toISOString time

structure Tally.Sound (rows : List SuccessfulMpesaRow) (tally : Tally) : Prop where
  classified : rows.length =
    tally.matchedTransactionCount + tally.missingLedgerTransactionCount + tally.amountMismatchCount
  matched_le_linked : tally.matchedAmountMinor ≤ tally.linkedLedgerAmountMinor
  listed : tally.discrepancies.length = tally.missingLedgerTransactionCount + tally.amountMismatchCount
  stamped : ∀ discrepancy ∈ tally.discrepancies, Stamped discrepancy
  balanced_count : tally.discrepancies = [] → tally.linkedLedgerTransactionCount = tally.matchedTransactionCount
  balanced_amounts : tally.discrepancies = [] →
    tally.successfulMpesaAmountMinor = tally.matchedAmountMinor ∧
      tally.linkedLedgerAmountMinor = tally.matchedAmountMinor

section Tallies

variable {rows : List SuccessfulMpesaRow} {tally : Tally} {row : SuccessfulMpesaRow}

theorem Tally.Sound.reported (sound : tally.Sound rows) {discrepancy : Discrepancy} (stamped : Stamped discrepancy)
    {next : Tally} (matched : next.matchedTransactionCount = tally.matchedTransactionCount)
    (amount : next.matchedAmountMinor = tally.matchedAmountMinor)
    (linked : tally.linkedLedgerAmountMinor ≤ next.linkedLedgerAmountMinor)
    (counted : next.missingLedgerTransactionCount + next.amountMismatchCount =
      tally.missingLedgerTransactionCount + tally.amountMismatchCount + 1)
    (listed : next.discrepancies = tally.discrepancies ++ [discrepancy]) : next.Sound (rows ++ [row]) where
  classified := by
    have before := sound.classified
    rw [List.length_append, List.length_singleton, matched]
    omega
  matched_le_linked := by
    rw [amount]
    exact le_trans sound.matched_le_linked linked
  listed := by
    rw [listed, List.length_append, List.length_singleton, sound.listed, counted]
  stamped := by
    rw [listed]
    intro other member
    rcases List.mem_append.mp member with old | new
    · exact sound.stamped other old
    · rw [List.mem_singleton.mp new]
      exact stamped
  balanced_count := by
    intro empty
    simp [listed] at empty
  balanced_amounts := by
    intro empty
    simp [listed] at empty

abbrev Unlinked (row : SuccessfulMpesaRow) : Prop := ¬ truthy row.ledgerTransactionId ∨ ¬ truthy row.linkedTransactionId

abbrev Differs (row : SuccessfulMpesaRow) : Prop :=
  row.mpesaAmountMinor = none ∨ row.linkedTransactionAmountMinor = none ∨
    row.mpesaAmountMinor ≠ row.linkedTransactionAmountMinor

theorem stamped_missingLedgerTransaction (row : SuccessfulMpesaRow) : Stamped (missingLedgerTransaction row) :=
  ⟨_, rfl⟩

theorem stamped_amountMismatch (row : SuccessfulMpesaRow) : Stamped (amountMismatch row) := ⟨_, rfl⟩

theorem Tally.add_missing (tally : Tally) (missing : Unlinked row) :
    tally.add row = { tally.receive row with
      missingLedgerTransactionCount := tally.missingLedgerTransactionCount + 1
      discrepancies := tally.discrepancies ++ [missingLedgerTransaction row] } :=
  if_pos missing

theorem Tally.add_mismatch (tally : Tally) (linked : ¬ Unlinked row) (differs : Differs row) :
    tally.add row = { tally.receive row with
      amountMismatchCount := tally.amountMismatchCount + 1
      discrepancies := tally.discrepancies ++ [amountMismatch row] } :=
  (if_neg linked).trans (if_pos differs)

theorem Tally.add_matched (tally : Tally) (linked : ¬ Unlinked row) (same : ¬ Differs row) :
    tally.add row = { tally.receive row with
      matchedTransactionCount := tally.matchedTransactionCount + 1
      matchedAmountMinor := tally.matchedAmountMinor + parseMinorAmount row.mpesaAmountMinor } :=
  (if_neg linked).trans (if_neg same)

theorem Tally.receive_matched (tally : Tally) (linked : ¬ Unlinked row) (same : ¬ Differs row) :
    (tally.receive row).linkedLedgerTransactionCount = tally.linkedLedgerTransactionCount + 1 ∧
      (tally.receive row).linkedLedgerAmountMinor =
        tally.linkedLedgerAmountMinor + parseMinorAmount row.mpesaAmountMinor := by
  obtain ⟨-, identified⟩ := not_or.mp linked
  obtain ⟨-, rest⟩ := not_or.mp same
  obtain ⟨present, equal⟩ := not_or.mp rest
  have both : truthy row.linkedTransactionId ∧ row.linkedTransactionAmountMinor ≠ none :=
    ⟨not_not.mp identified, present⟩
  have amount : row.mpesaAmountMinor = row.linkedTransactionAmountMinor := not_not.mp equal
  simp only [Tally.receive, if_pos both, amount, and_self]

theorem Tally.Sound.add (sound : tally.Sound rows) (row : SuccessfulMpesaRow) :
    (tally.add row).Sound (rows ++ [row]) := by
  by_cases missing : Unlinked row
  · rw [tally.add_missing missing]
    have counted : tally.missingLedgerTransactionCount + 1 + tally.amountMismatchCount =
        tally.missingLedgerTransactionCount + tally.amountMismatchCount + 1 := Nat.add_right_comm _ 1 _
    exact sound.reported (stamped_missingLedgerTransaction row) rfl rfl (Nat.le_add_right _ _) counted rfl
  · by_cases differs : Differs row
    · rw [tally.add_mismatch missing differs]
      exact sound.reported (stamped_amountMismatch row) rfl rfl (Nat.le_add_right _ _) rfl rfl
    · rw [tally.add_matched missing differs]
      obtain ⟨count, amount⟩ := tally.receive_matched missing differs
      constructor
      case classified =>
        have before := sound.classified
        rw [List.length_append, List.length_singleton, before]
        exact (Nat.add_right_comm _ _ 1).trans (congrArg (· + _) (Nat.add_right_comm _ _ 1))
      case matched_le_linked =>
        rw [amount]
        exact Nat.add_le_add_right sound.matched_le_linked _
      case listed => exact sound.listed
      case stamped => exact sound.stamped
      case balanced_count =>
        intro empty
        rw [count, sound.balanced_count empty]
      case balanced_amounts =>
        intro empty
        obtain ⟨successful, linked⟩ := sound.balanced_amounts empty
        rw [amount, linked]
        exact ⟨congrArg (· + _) successful, rfl⟩

theorem Tally.sound_foldl {rest : List SuccessfulMpesaRow} (sound : tally.Sound rows) :
    (rest.foldl Tally.add tally).Sound (rows ++ rest) := by
  induction rest generalizing rows tally with
  | nil => rwa [List.append_nil]
  | cons row rest ih =>
    rw [List.append_cons]
    exact ih (sound.add row)

theorem Tally.sound_empty : Tally.empty.Sound [] :=
  ⟨rfl, le_rfl, rfl, fun _ member => absurd member List.not_mem_nil, fun _ => rfl, fun _ => ⟨rfl, rfl⟩⟩

end Tallies

section Reports

variable {runtime : Runtime}

theorem precedes_orders (collates : Collates runtime.localeLe) : Sorting.OrdersOn (precedes runtime) Stamped where
  total := by
    intro first second _ _
    unfold precedes
    by_cases same : first.occurredAt = second.occurredAt
    · rw [if_pos same, if_pos same.symm]
      exact collates.total _ _
    · rw [if_neg same, if_neg (Ne.symm same)]
      exact collates.total _ _
  trans := by
    intro first second third stampedFirst stampedSecond stampedThird
    obtain ⟨firstTime, firstAt⟩ := stampedFirst
    obtain ⟨secondTime, secondAt⟩ := stampedSecond
    obtain ⟨thirdTime, thirdAt⟩ := stampedThird
    unfold precedes
    intro early late
    by_cases start : first.occurredAt = second.occurredAt
    · rw [if_pos start] at early
      by_cases stop : second.occurredAt = third.occurredAt
      · rw [if_pos stop] at late
        rw [if_pos (start.trans stop)]
        exact collates.trans _ _ _ early late
      · rw [if_neg stop] at late
        rw [start, if_neg stop]
        exact late
    · rw [if_neg start] at early
      by_cases stop : second.occurredAt = third.occurredAt
      · rw [if_neg (stop ▸ start), ← stop]
        exact early
      · rw [if_neg stop] at late
        by_cases same : first.occurredAt = third.occurredAt
        · -- Both orders between the first and the second would make their times one.
          rw [← same] at late
          rw [firstAt, secondAt] at early late start
          exact absurd (collates.timestamps _ _ early late) start
        · rw [if_neg same]
          exact collates.trans _ _ _ early late

theorem collected_stamped {rows : LoadedRows} {tally : Tally} (stamped : ∀ discrepancy ∈ tally.discrepancies,
    Stamped discrepancy) : ∀ discrepancy ∈ collected rows tally, Stamped discrepancy := by
  intro discrepancy member
  simp only [collected, List.mem_append, List.mem_map] at member
  rcases member with ((known | ⟨row, -, rfl⟩) | ⟨row, -, rfl⟩) | ⟨row, -, rfl⟩
  · exact stamped discrepancy known
  · exact ⟨row.observedAt, rfl⟩
  · exact ⟨row.firstSeenAt, rfl⟩
  · exact ⟨row.postedAt, rfl⟩

theorem consistent_buildReport (collates : Collates runtime.localeLe) (reportDate : String) (window : ReportWindow)
    (generatedAt : Int) (rows : LoadedRows) :
    Consistent runtime (buildReport runtime reportDate window generatedAt rows) := by
  let tally := rows.successful.foldl Tally.add .empty
  have sound : tally.Sound rows.successful := Tally.sound_foldl Tally.sound_empty
  have length : (collected rows tally).length = tally.discrepancies.length + rows.missingCallbacks.length +
      rows.duplicateReceipts.length + rows.unmatchedLedger.length := by
    simp only [collected, List.length_append, List.length_map]
  have clean : (buildReport runtime reportDate window generatedAt rows).isBalanced = true →
      tally.discrepancies = [] := by
    intro balanced
    have empty : ((collected rows tally).insertionSort (precedes runtime)).length = 0 := of_decide_eq_true balanced
    rw [List.length_insertionSort, length] at empty
    apply List.length_eq_zero_iff.mp
    omega
  refine ⟨sound.classified, sound.matched_le_linked, ?_, rfl, ?_, ?_, ?_⟩
  · have listed := sound.listed
    change ((collected rows tally).insertionSort (precedes runtime)).length = _
    rw [List.length_insertionSort, length]
    change _ = rows.missingCallbacks.length + tally.missingLedgerTransactionCount + tally.amountMismatchCount +
      rows.duplicateReceipts.length + rows.unmatchedLedger.length
    omega
  · exact Sorting.pairwise_insertionSort (precedes_orders collates) (collected_stamped sound.stamped)
  · intro balanced
    have none := clean balanced
    have counted := sound.balanced_count none
    have listed := sound.listed
    have classified := sound.classified
    change rows.successful.length = tally.linkedLedgerTransactionCount ∧
      tally.linkedLedgerTransactionCount = tally.matchedTransactionCount
    rw [none, List.length_nil] at listed
    refine ⟨?_, counted⟩
    rw [counted]
    omega
  · intro balanced
    obtain ⟨successful, linked⟩ := sound.balanced_amounts (clean balanced)
    exact ⟨successful.trans linked.symm, linked⟩

theorem generateDailyReport_ok {call : ReportCall} {input : GenerateMpesaReconciliationReportInput} {db : TenantDb}
    {report : Report} (generated : generateDailyReport runtime call input db = .ok report) :
    ∃ reportDate window graceMinutes, normalizeReportDate input.reportDate = .ok reportDate ∧
      buildReportWindow reportDate = .ok window ∧
      report = buildReport runtime reportDate window call.generatedAt (loadRows runtime call window graceMinutes db) := by
  simp only [generateDailyReport, Outcome.bind_ok, Outcome.pure_ok] at generated
  obtain ⟨-, -, reportDate, normalized, window, windowed, graceMinutes, -, rfl⟩ := generated
  exact ⟨reportDate, window, graceMinutes, normalized, windowed, rfl⟩

end Reports

/-- A report adds up for any rows, and so does every report that is generated. -/
theorem reports_add_up (runtime : Runtime) (collates : Collates runtime.localeLe) :
    (∀ reportDate window generatedAt rows,
        Consistent runtime (buildReport runtime reportDate window generatedAt rows)) ∧
      ∀ call input db report, generateDailyReport runtime call input db = .ok report → Consistent runtime report := by
  constructor
  · exact consistent_buildReport collates
  · intro call input db report generated
    obtain ⟨reportDate, window, graceMinutes, -, -, rfl⟩ := generateDailyReport_ok generated
    exact consistent_buildReport collates reportDate window call.generatedAt _

/-- The order of code units, which is that of the locale on timestamps and on the types. -/
def sortingRuntime : Runtime := { Finance.sampleRuntime with localeLe := fun first second => first ≤ second }

theorem sortingRuntime_localeLe {first second : String} :
    sortingRuntime.localeLe first second = true ↔ first ≤ second := decide_eq_true_iff

theorem sample_reports_add_up :
    (∀ reportDate window generatedAt rows,
        Consistent sortingRuntime (buildReport sortingRuntime reportDate window generatedAt rows)) ∧
      ∀ call input db report, generateDailyReport sortingRuntime call input db = .ok report →
        Consistent sortingRuntime report := by
  apply reports_add_up sortingRuntime
  constructor
  · intro first second
    rw [sortingRuntime_localeLe, sortingRuntime_localeLe]
    exact le_total first second
  · intro first second third early late
    rw [sortingRuntime_localeLe] at *
    exact le_trans early late
  · intro first second early late
    rw [sortingRuntime_localeLe] at *
    exact le_antisymm early late

end ShuleHub.Payments.Reconciliation
