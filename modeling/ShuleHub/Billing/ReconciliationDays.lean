import ShuleHub.Billing.FinanceReconciliation
import ShuleHub.Lib.Totals

/-! The reconciliation of a period is that of its days, put together. -/

namespace ShuleHub.Billing

open Transaction JsDate Totals Outcome

namespace FinanceReconciliationAccumulator

instance : Add FinanceReconciliationAccumulator where
  add first second := {
    transactionCount := first.transactionCount + second.transactionCount
    totalAmountMinor := first.totalAmountMinor + second.totalAmountMinor
    clearedCount := first.clearedCount + second.clearedCount
    clearedAmountMinor := first.clearedAmountMinor + second.clearedAmountMinor
    pendingCount := first.pendingCount + second.pendingCount
    pendingAmountMinor := first.pendingAmountMinor + second.pendingAmountMinor
    exceptionCount := first.exceptionCount + second.exceptionCount
    exceptionAmountMinor := first.exceptionAmountMinor + second.exceptionAmountMinor }

theorem add_eq (first second : FinanceReconciliationAccumulator) : first + second = {
    transactionCount := first.transactionCount + second.transactionCount
    totalAmountMinor := first.totalAmountMinor + second.totalAmountMinor
    clearedCount := first.clearedCount + second.clearedCount
    clearedAmountMinor := first.clearedAmountMinor + second.clearedAmountMinor
    pendingCount := first.pendingCount + second.pendingCount
    pendingAmountMinor := first.pendingAmountMinor + second.pendingAmountMinor
    exceptionCount := first.exceptionCount + second.exceptionCount
    exceptionAmountMinor := first.exceptionAmountMinor + second.exceptionAmountMinor } := rfl

instance : Zero FinanceReconciliationAccumulator where
  zero := createFinanceReconciliationAccumulator

instance : AddCommMonoid FinanceReconciliationAccumulator where
  add_assoc first second third := FinanceReconciliationAccumulator.ext (Nat.add_assoc ..) (Nat.add_assoc ..)
    (Nat.add_assoc ..) (Nat.add_assoc ..) (Nat.add_assoc ..) (Nat.add_assoc ..) (Nat.add_assoc ..) (Nat.add_assoc ..)
  zero_add first := FinanceReconciliationAccumulator.ext (Nat.zero_add _) (Nat.zero_add _) (Nat.zero_add _)
    (Nat.zero_add _) (Nat.zero_add _) (Nat.zero_add _) (Nat.zero_add _) (Nat.zero_add _)
  add_zero first := rfl
  add_comm first second := FinanceReconciliationAccumulator.ext (Nat.add_comm ..) (Nat.add_comm ..)
    (Nat.add_comm ..) (Nat.add_comm ..) (Nat.add_comm ..) (Nat.add_comm ..) (Nat.add_comm ..) (Nat.add_comm ..)
  nsmul := nsmulRec

structure Additive (figure : FinanceReconciliationAccumulator → Nat) : Prop where
  zero : figure 0 = 0
  add : ∀ first second, figure (first + second) = figure first + figure second

theorem Additive.sum {figure : FinanceReconciliationAccumulator → Nat} (additive : Additive figure)
    (accumulators : List FinanceReconciliationAccumulator) :
    figure accumulators.sum = (accumulators.map figure).sum := by
  induction accumulators with
  | nil => exact additive.zero
  | cons accumulator rest ih => rw [List.sum_cons, additive.add, ih, List.map_cons, List.sum_cons]

structure Classified (accumulator : FinanceReconciliationAccumulator) : Prop where
  counts : accumulator.transactionCount =
    accumulator.clearedCount + accumulator.pendingCount + accumulator.exceptionCount
  amounts : accumulator.totalAmountMinor =
    accumulator.clearedAmountMinor + accumulator.pendingAmountMinor + accumulator.exceptionAmountMinor

theorem Classified.add {first second : FinanceReconciliationAccumulator} (one : first.Classified)
    (other : second.Classified) : (first + second).Classified := by
  have counts := one.counts
  have amounts := one.amounts
  have otherCounts := other.counts
  have otherAmounts := other.amounts
  constructor
  · change first.transactionCount + second.transactionCount = first.clearedCount + second.clearedCount +
      (first.pendingCount + second.pendingCount) + (first.exceptionCount + second.exceptionCount)
    omega
  · change first.totalAmountMinor + second.totalAmountMinor = first.clearedAmountMinor + second.clearedAmountMinor +
      (first.pendingAmountMinor + second.pendingAmountMinor) +
        (first.exceptionAmountMinor + second.exceptionAmountMinor)
    omega

end FinanceReconciliationAccumulator

def weigh (row : FinanceReconciliationRow) : FinanceReconciliationAccumulator :=
  addFinanceReconciliationAmount createFinanceReconciliationAccumulator row

def tally (rows : List FinanceReconciliationRow) : FinanceReconciliationAccumulator := (rows.map weigh).sum

theorem addFinanceReconciliationAmount_eq (accumulator : FinanceReconciliationAccumulator)
    (row : FinanceReconciliationRow) : addFinanceReconciliationAmount accumulator row = accumulator + weigh row := by
  rw [weigh, addFinanceReconciliationAmount, addFinanceReconciliationAmount, FinanceReconciliationAccumulator.add_eq,
    createFinanceReconciliationAccumulator]
  cases row.reconciliationBucket <;> simp only [Nat.zero_add, Nat.add_zero]

theorem classified_tally (rows : List FinanceReconciliationRow) : (tally rows).Classified := by
  induction rows with
  | nil => exact ⟨rfl, rfl⟩
  | cons row rows ih =>
    have one : (weigh row).Classified := by
      rw [weigh, addFinanceReconciliationAmount, createFinanceReconciliationAccumulator]
      cases row.reconciliationBucket <;> exact ⟨rfl, by simp⟩
    rw [tally, List.map_cons, List.sum_cons]
    exact one.add ih

theorem tally_perm {rows others : List FinanceReconciliationRow} (same : rows.Perm others) :
    tally rows = tally others :=
  (same.map weigh).sum_eq

theorem foldl_addRow (rows : List FinanceReconciliationRow) (figures : FinanceReconciliationFigures)
    (complete : ∀ method, (figures.methodTotals.get? method).isSome) :
    (rows.foldl addRow figures).totals = figures.totals + tally rows ∧
      ∀ method, (rows.foldl addRow figures).methodTotals.get? method =
        (figures.methodTotals.get? method).map (· + tally (rows.filter (·.paymentMethod = method))) := by
  induction rows generalizing figures with
  | nil => simp [tally]
  | cons row rows ih =>
    obtain ⟨accumulator, own⟩ := Option.isSome_iff_exists.mp (complete row.paymentMethod)
    have added : addRow figures row = {
        totals := figures.totals + weigh row
        methodTotals := figures.methodTotals.set row.paymentMethod (accumulator + weigh row) } := by
      simp only [addRow, own, addFinanceReconciliationAmount_eq]
    have still : ∀ method, ((addRow figures row).methodTotals.get? method).isSome := by
      intro method
      rw [added, JsMap.get?_set]
      split
      · rfl
      · exact complete method
    obtain ⟨totals, methods⟩ := ih (addRow figures row) still
    rw [List.foldl_cons]
    constructor
    · rw [totals, added, tally, tally, List.map_cons, List.sum_cons, add_assoc]
    · intro method
      rw [methods, added, JsMap.get?_set, List.filter_cons]
      by_cases same : row.paymentMethod = method
      · subst same
        simp only [own, if_true, Option.map_some, decide_true, tally, List.map_cons, List.sum_cons, add_assoc]
      · simp only [same, if_false, decide_false, Bool.false_eq_true]

theorem get?_initialFigures (method : ManualFeePaymentMethod) : initialFigures.methodTotals.get? method = some 0 := by
  cases method <;> rfl

def reportOn (runtime : Runtime) (period : FinanceReconciliationPeriod) (all : List FinanceReconciliationRow) :
    FinanceReconciliationResponse where
  fromText := toISOString period.fromTime
  toText := toISOString period.toTime
  paymentMethod := period.paymentMethod
  totals := tally (all.filter (inPeriod runtime period))
  methodSummaries := manualFeePaymentMethods.map fun method => toFinanceReconciliationMethodSummary method
    (tally ((all.filter (inPeriod runtime period)).filter (·.paymentMethod = method)))
  rows := sortRows runtime (all.filter (inPeriod runtime period))

section Reports

variable {runtime : Runtime} {payments : ReconciledPayments} {now : Int} {input : FinanceReconciliationInput}

theorem dateISOString_ok {time : Int} {text : String} :
    dateISOString time = .ok text ↔ IsTime time ∧ text = toISOString time := by
  rw [dateISOString]
  split <;> simp [*, eq_comm]

theorem sortRows_perm (rows : List FinanceReconciliationRow) : (sortRows runtime rows).Perm rows :=
  List.perm_insertionSort _ rows

theorem figures_sortRows (rows : List FinanceReconciliationRow) :
    ((sortRows runtime rows).foldl addRow initialFigures).totals = tally rows ∧
      ∀ method, (((sortRows runtime rows).foldl addRow initialFigures).methodTotals.get? method).getD
        createFinanceReconciliationAccumulator = tally (rows.filter (·.paymentMethod = method)) := by
  have perm := @sortRows_perm runtime rows
  obtain ⟨totals, methods⟩ := foldl_addRow (sortRows runtime rows) initialFigures fun method => by
    rw [get?_initialFigures]
    rfl
  constructor
  · rw [totals, tally_perm perm]
    exact zero_add _
  · intro method
    rw [methods, get?_initialFigures, Option.map_some, Option.getD_some, zero_add]
    exact tally_perm (perm.filter _)

theorem listFinanceReconciliation_ok {report : FinanceReconciliationResponse} :
    listFinanceReconciliation runtime payments now input = .ok report ↔
      ∃ period all, resolveFinanceReconciliationPeriod runtime now input = .ok period ∧
        payments.listManualFeePayments.mapM toFinanceReconciliationRow = .ok all ∧ IsTime period.fromTime ∧
          IsTime period.toTime ∧ report = reportOn runtime period all := by
  simp only [listFinanceReconciliation, bind_ok, dateISOString_ok, pure_ok]
  constructor
  · rintro ⟨period, resolved, all, listed, _, ⟨began, rfl⟩, _, ⟨ended, rfl⟩, rfl⟩
    obtain ⟨totals, methods⟩ := @figures_sortRows runtime (all.filter (inPeriod runtime period))
    refine ⟨period, all, resolved, listed, began, ended, ?_⟩
    simp only [reportOn, totals, methods]
  · rintro ⟨period, all, resolved, listed, began, ended, rfl⟩
    obtain ⟨totals, methods⟩ := @figures_sortRows runtime (all.filter (inPeriod runtime period))
    refine ⟨period, resolved, all, listed, _, ⟨began, rfl⟩, _, ⟨ended, rfl⟩, ?_⟩
    simp only [reportOn, totals, methods]

end Reports

/-- The totals and every summary are split by bucket, and the totals are the sums over the summaries, of which there
is one for each method. -/
structure Balanced (report : FinanceReconciliationResponse) : Prop where
  totals : report.totals.Classified
  summaries : ∀ summary ∈ report.methodSummaries,
    summary.totalAmountMinor = summary.clearedAmountMinor + summary.pendingAmountMinor + summary.exceptionAmountMinor
  methods : report.methodSummaries.map (·.paymentMethod) = manualFeePaymentMethods
  counts : report.totals.transactionCount = (report.methodSummaries.map (·.transactionCount)).sum
  amounts : report.totals.totalAmountMinor = (report.methodSummaries.map (·.totalAmountMinor)).sum
  cleared : report.totals.clearedAmountMinor = (report.methodSummaries.map (·.clearedAmountMinor)).sum
  pending : report.totals.pendingAmountMinor = (report.methodSummaries.map (·.pendingAmountMinor)).sum
  exception : report.totals.exceptionAmountMinor = (report.methodSummaries.map (·.exceptionAmountMinor)).sum

theorem tally_by_method (rows : List FinanceReconciliationRow) :
    (manualFeePaymentMethods.map fun method => tally (rows.filter (·.paymentMethod = method))).sum = tally rows := by
  have known : ∀ method, method ∈ manualFeePaymentMethods := by
    intro method
    cases method <;> decide
  have sums := sum_by_key weigh FinanceReconciliationRow.paymentMethod
    (by decide : manualFeePaymentMethods.Nodup) rows
  have all : (rows.filter fun row => row.paymentMethod ∈ manualFeePaymentMethods) = rows :=
    List.filter_eq_self.mpr fun row _ => decide_eq_true (known row.paymentMethod)
  rw [all] at sums
  exact sums

theorem figure_by_method {figure : FinanceReconciliationAccumulator → Nat}
    (additive : FinanceReconciliationAccumulator.Additive figure) (rows : List FinanceReconciliationRow) :
    figure (tally rows) = (manualFeePaymentMethods.map fun method =>
      figure (tally (rows.filter (·.paymentMethod = method)))).sum := by
  rw [← tally_by_method rows, additive.sum, List.map_map]
  rfl

theorem reportOn_balanced (runtime : Runtime) (period : FinanceReconciliationPeriod)
    (all : List FinanceReconciliationRow) : Balanced (reportOn runtime period all) := by
  have figures := fun {figure} additive =>
    @figure_by_method figure additive (all.filter (inPeriod runtime period))
  constructor
  · exact classified_tally _
  · intro summary member
    obtain ⟨method, -, rfl⟩ := List.mem_map.mp member
    exact (classified_tally _).amounts
  · rfl
  · exact figures ⟨rfl, fun _ _ => rfl⟩
  · exact figures ⟨rfl, fun _ _ => rfl⟩
  · exact figures ⟨rfl, fun _ _ => rfl⟩
  · exact figures ⟨rfl, fun _ _ => rfl⟩
  · exact figures ⟨rfl, fun _ _ => rfl⟩

def calendarDays (first : Int) (count : Nat) : List Int := (List.range (count + 1)).map fun place : Nat => first + place

def dayRange (first last : Int) (method : Option String) : FinanceReconciliationInput where
  fromText := some (dayText first)
  toText := some (dayText last)
  method := method

def methodFigure (figure : FinanceReconciliationMethodSummary → Nat) (method : ManualFeePaymentMethod)
    (report : FinanceReconciliationResponse) : Nat :=
  ((report.methodSummaries.filter (·.paymentMethod = method)).map figure).sum

/-- The report is the merge of the others: their rows are its rows, each in one of them, and all its figures are the
sums of theirs. -/
structure Merges (report : FinanceReconciliationResponse) (days : List FinanceReconciliationResponse) : Prop where
  rows : (days.flatMap (·.rows)).Perm report.rows
  once : ∀ row ∈ report.rows, days.countP (row ∈ ·.rows) = 1
  totals : report.totals = (days.map (·.totals)).sum
  summaries : ∀ method, ∀ figure ∈ [FinanceReconciliationMethodSummary.transactionCount,
      FinanceReconciliationMethodSummary.totalAmountMinor, FinanceReconciliationMethodSummary.clearedAmountMinor,
      FinanceReconciliationMethodSummary.pendingAmountMinor, FinanceReconciliationMethodSummary.exceptionAmountMinor],
    methodFigure figure method report = (days.map (methodFigure figure method)).sum

theorem mem_calendarDays {first day : Int} {count : Nat} :
    day ∈ calendarDays first count ↔ first ≤ day ∧ day ≤ first + count := by
  simp only [calendarDays, List.mem_map, List.mem_range]
  constructor
  · rintro ⟨place, small, rfl⟩
    omega
  · intro ⟨lower, upper⟩
    exact ⟨(day - first).toNat, by omega, by omega⟩

theorem nodup_calendarDays (first : Int) (count : Nat) : (calendarDays first count).Nodup := by
  apply List.nodup_range.map
  intro place other same
  simp only at same
  omega

def dayOf (row : FinanceReconciliationRow) : Option Int := (parseISOString row.occurredAt).map (· / 86400000)

section Days

variable {runtime : Runtime} {payments : ReconciledPayments}

theorem newDate_toISOString {time : Int} (dated : IsTime time) : newDate runtime (toISOString time) = some time := by
  rw [newDate, parseISOString_toISOString dated]
  rfl

def sideOfDay (day : Int) : BoundarySide → Int
  | .first => startOfDay day
  | .last => endOfDay day

theorem newDate_normalizeBoundary {day : Int} (four : HasFourDigits day) (side : BoundarySide) :
    newDate runtime (normalizeBoundary (dayText day) side) = some (sideOfDay day side) := by
  obtain ⟨began, ended⟩ := isTime_of_hasFourDigits four
  have normalized : normalizeBoundary (dayText day) side = dayText day ++ side.timeText := by
    rw [normalizeBoundary, trim_dayText four, if_pos (isDateOnly_dayText four)]
  rw [normalized]
  cases side with
  | first =>
    rw [BoundarySide.timeText, ← toISOString_startOfDay]
    exact newDate_toISOString began
  | last =>
    rw [BoundarySide.timeText, ← toISOString_endOfDay]
    exact newDate_toISOString ended

theorem boundary_dayText {day : Int} (four : HasFourDigits day) (side : BoundarySide) (absent : Int) :
    boundary runtime (some (dayText day)) side absent = .ok (sideOfDay day side) := by
  have dates := isDateOnly_dayText four
  have present : dayText day ≠ "" := by
    intro empty
    rw [empty] at dates
    exact absurd dates (by decide)
  have kept : (some (dayText day)).filter (· ≠ "") = some (dayText day) := by
    rw [Option.filter_some, if_pos (by simpa using present)]
  rw [boundary, kept]
  change parseFinanceReconciliationBoundary runtime (dayText day) side = _
  unfold parseFinanceReconciliationBoundary
  split
  · next time read =>
    rw [newDate_normalizeBoundary four] at read
    rw [Option.some.inj read]
  · next unread =>
    rw [newDate_normalizeBoundary four] at unread
    cases unread

theorem resolvePeriod_dayRange {first last : Int} (firstFour : HasFourDigits first) (lastFour : HasFourDigits last)
    (ordered : first ≤ last) {now : Int} {method : Option String} {period : FinanceReconciliationPeriod} :
    resolveFinanceReconciliationPeriod runtime now (dayRange first last method) = .ok period ↔
      ∃ paymentMethod, resolveFinanceReconciliationPaymentMethod method = .ok paymentMethod ∧
        period = ⟨startOfDay first, endOfDay last, paymentMethod⟩ := by
  have forward : ¬ endOfDay last < startOfDay first := by
    unfold endOfDay startOfDay
    omega
  simp only [resolveFinanceReconciliationPeriod, dayRange, boundary_dayText firstFour, boundary_dayText lastFour,
    sideOfDay, bind_ok, failIf_ok, pure_ok, Except.ok.injEq]
  constructor
  · rintro ⟨_, rfl, _, rfl, paymentMethod, known, -, -, rfl⟩
    exact ⟨paymentMethod, known, rfl⟩
  · rintro ⟨paymentMethod, known, rfl⟩
    exact ⟨_, rfl, _, rfl, paymentMethod, known, (), forward, rfl⟩

theorem toFinanceReconciliationRow_dated {payment : ReconciledPayment} {row : FinanceReconciliationRow}
    (converted : toFinanceReconciliationRow payment = .ok row) :
    ∃ time, IsTime time ∧ row.occurredAt = toISOString time := by
  simp only [toFinanceReconciliationRow, bind_ok, dateISOString_ok, pure_ok] at converted
  obtain ⟨_, ⟨dated, rfl⟩, rfl⟩ := converted
  exact ⟨_, dated, rfl⟩

theorem dated_of_listed {listed : List ReconciledPayment} {all : List FinanceReconciliationRow}
    (converted : listed.mapM toFinanceReconciliationRow = .ok all) :
    ∀ row ∈ all, ∃ time, IsTime time ∧ row.occurredAt = toISOString time := by
  have pairs := mapM_ok converted
  clear converted
  induction pairs with
  | nil =>
    intro row member
    exact absurd member List.not_mem_nil
  | cons head tail ih => exact List.forall_mem_cons.mpr ⟨toFinanceReconciliationRow_dated head, ih⟩

def ofDays (first last : Int) (method : Option ManualFeePaymentMethod) (row : FinanceReconciliationRow) : Bool :=
  (dayOf row).any (fun day => first ≤ day ∧ day ≤ last) && method.all (row.paymentMethod = ·)

theorem filter_inPeriod {all : List FinanceReconciliationRow}
    (dated : ∀ row ∈ all, ∃ time, IsTime time ∧ row.occurredAt = toISOString time) (first last : Int)
    (method : Option ManualFeePaymentMethod) :
    all.filter (inPeriod runtime ⟨startOfDay first, endOfDay last, method⟩) =
      all.filter (ofDays first last method) := by
  apply List.filter_congr
  intro row member
  obtain ⟨time, isTime, occurred⟩ := dated row member
  have within : (decide (startOfDay first ≤ time) && decide (time ≤ endOfDay last)) =
      decide (first ≤ time / 86400000 ∧ time / 86400000 ≤ last) := by
    rw [← Bool.decide_and, decide_eq_decide]
    unfold startOfDay endOfDay
    omega
  rw [inPeriod, ofDays, dayOf, occurred, newDate_toISOString isTime, parseISOString_toISOString isTime]
  simp only [Option.any_some, Option.map_some, within]

theorem ofDays_iff {first last : Int} {method : Option ManualFeePaymentMethod} {row : FinanceReconciliationRow} :
    ofDays first last method row = true ↔
      (∃ day, dayOf row = some day ∧ first ≤ day ∧ day ≤ last) ∧ method.all (row.paymentMethod = ·) = true := by
  rw [ofDays, Bool.and_eq_true, Option.any_eq_true]
  simp only [decide_eq_true_eq]

theorem perm_days (first : Int) (count : Nat) (method : Option ManualFeePaymentMethod)
    (all : List FinanceReconciliationRow) :
    ((calendarDays first count).flatMap fun day => all.filter (ofDays day day method)).Perm
      (all.filter (ofDays first (first + count) method)) := by
  have distinct : ((calendarDays first count).map some).Nodup :=
    (nodup_calendarDays first count).map (Option.some_injective _)
  have covers : ∀ row, (dayOf row).any (fun day => first ≤ day ∧ day ≤ first + count) = true ↔
      dayOf row ∈ (calendarDays first count).map some := by
    intro row
    rw [Option.any_eq_true, List.mem_map]
    simp only [decide_eq_true_eq]
    constructor
    · rintro ⟨day, known, within⟩
      exact ⟨day, mem_calendarDays.mpr within, known.symm⟩
    · rintro ⟨day, within, known⟩
      exact ⟨day, known.symm, mem_calendarDays.mp within⟩
  have perm := perm_by_key dayOf distinct covers (all.filter fun row => method.all (row.paymentMethod = ·))
  rw [List.flatMap_map, List.filter_filter] at perm
  have each (day : Int) : all.filter (ofDays day day method) =
      (all.filter fun row => method.all (row.paymentMethod = ·)).filter fun row => dayOf row = some day := by
    rw [List.filter_filter]
    apply List.filter_congr
    intro row _
    rw [Bool.eq_iff_iff, ofDays_iff, Bool.and_eq_true, decide_eq_true_iff]
    apply and_congr_left
    intro _
    constructor
    · rintro ⟨own, known, lower, upper⟩
      rw [known, Int.le_antisymm upper lower]
    · intro known
      exact ⟨day, known, Int.le_refl day, Int.le_refl day⟩
  simp only [each]
  exact perm

theorem tally_flatMap {Item : Type} (rows : Item → List FinanceReconciliationRow) (items : List Item) :
    tally (items.flatMap rows) = (items.map fun item => tally (rows item)).sum := by
  induction items with
  | nil => rfl
  | cons item items ih =>
    rw [List.flatMap_cons, tally, List.map_append, List.sum_append, List.map_cons, List.sum_cons, ← ih]
    rfl

theorem tally_days (first : Int) (count : Nat) (method : Option ManualFeePaymentMethod)
    (all : List FinanceReconciliationRow) (counted : FinanceReconciliationRow → Bool) :
    tally ((all.filter (ofDays first (first + count) method)).filter counted) =
      ((calendarDays first count).map fun day => tally ((all.filter (ofDays day day method)).filter counted)).sum := by
  have perm := (perm_days first count method all).filter counted
  rw [List.filter_flatMap] at perm
  rw [← tally_perm perm]
  exact tally_flatMap _ _

theorem methodFigure_reportOn (figure : FinanceReconciliationMethodSummary → Nat) (method : ManualFeePaymentMethod)
    (period : FinanceReconciliationPeriod) (all : List FinanceReconciliationRow) :
    methodFigure figure method (reportOn runtime period all) = figure (toFinanceReconciliationMethodSummary method
      (tally ((all.filter (inPeriod runtime period)).filter (·.paymentMethod = method)))) := by
  have own (figures : ManualFeePaymentMethod → FinanceReconciliationAccumulator) :
      (manualFeePaymentMethods.map fun method => toFinanceReconciliationMethodSummary method (figures method)).filter
        (·.paymentMethod = method) = [toFinanceReconciliationMethodSummary method (figures method)] := by
    cases method <;> rfl
  simp only [methodFigure, reportOn, own, List.map_cons, List.map_nil, List.sum_singleton]

def reportOfDay (runtime : Runtime) (all : List FinanceReconciliationRow) (method : Option ManualFeePaymentMethod)
    (day : Int) : FinanceReconciliationResponse :=
  reportOn runtime ⟨startOfDay day, endOfDay day, method⟩ all

theorem mem_rows_reportOn {period : FinanceReconciliationPeriod} {all : List FinanceReconciliationRow}
    {row : FinanceReconciliationRow} :
    row ∈ (reportOn runtime period all).rows ↔ row ∈ all.filter (inPeriod runtime period) :=
  (sortRows_perm _).mem_iff

theorem reportOn_merges {all : List FinanceReconciliationRow}
    (dated : ∀ row ∈ all, ∃ time, IsTime time ∧ row.occurredAt = toISOString time) (first : Int) (count : Nat)
    (method : Option ManualFeePaymentMethod) :
    Merges (reportOn runtime ⟨startOfDay first, endOfDay (first + count), method⟩ all)
      ((calendarDays first count).map (reportOfDay runtime all method)) := by
  have whole := @filter_inPeriod runtime all dated first (first + count) method
  have each := fun day => @filter_inPeriod runtime all dated day day method
  constructor
  · rw [List.flatMap_map]
    refine (List.Perm.flatMap_left _ fun day _ => (sortRows_perm _).trans (.of_eq (each day))).trans ?_
    exact (perm_days first count method all).trans ((sortRows_perm _).trans (.of_eq whole)).symm
  · intro row member
    rw [mem_rows_reportOn, whole, List.mem_filter, ofDays_iff] at member
    obtain ⟨listed, ⟨own, known, within⟩, ofMethod⟩ := member
    rw [List.countP_map]
    have one := List.count_eq_one_of_mem (nodup_calendarDays first count) (mem_calendarDays.mpr within)
    rw [List.count] at one
    rw [← one]
    apply List.countP_congr
    intro day _
    simp only [Function.comp_apply, decide_eq_true_eq, beq_iff_eq]
    rw [reportOfDay, mem_rows_reportOn, each, List.mem_filter, ofDays_iff]
    constructor
    · rintro ⟨-, ⟨same, knownToo, lower, upper⟩, -⟩
      rw [known] at knownToo
      have equal := Option.some.inj knownToo
      omega
    · rintro rfl
      exact ⟨listed, ⟨day, known, Int.le_refl day, Int.le_refl day⟩, ofMethod⟩
  · have sums := tally_days first count method all fun _ => true
    simp only [List.filter_true] at sums
    rw [List.map_map]
    simp only [reportOn, whole, sums]
    congr 1
    apply List.map_congr_left
    intro day _
    simp only [Function.comp_apply, reportOfDay, reportOn, each]
  · intro own figure listed
    have additive : FinanceReconciliationAccumulator.Additive fun accumulator =>
        figure (toFinanceReconciliationMethodSummary own accumulator) := by
      simp only [List.mem_cons, List.not_mem_nil, or_false] at listed
      rcases listed with rfl | rfl | rfl | rfl | rfl <;> exact ⟨rfl, fun _ _ => rfl⟩
    have sums := additive.sum ((calendarDays first count).map fun day =>
      tally ((all.filter (ofDays day day method)).filter (·.paymentMethod = own)))
    rw [← tally_days] at sums
    rw [methodFigure_reportOn, whole, sums, List.map_map, List.map_map]
    congr 1
    apply List.map_congr_left
    intro day _
    simp only [Function.comp_apply, reportOfDay, methodFigure_reportOn, each]

theorem listed_of_dated (dated : ∀ payment ∈ payments.rows, IsTime (getFinanceReconciliationOccurredAt payment)) :
    ∃ all, payments.listManualFeePayments.mapM toFinanceReconciliationRow = .ok all := by
  have sorted : ∀ payment ∈ payments.listManualFeePayments, IsTime (getFinanceReconciliationOccurredAt payment) :=
    fun payment member => dated payment ((List.mem_insertionSort _).mp member)
  generalize payments.listManualFeePayments = listed at sorted ⊢
  induction listed with
  | nil => exact ⟨[], rfl⟩
  | cons payment listed ih =>
    obtain ⟨head, tail⟩ := List.forall_mem_cons.mp sorted
    obtain ⟨all, rest⟩ := ih tail
    have converts : ∃ row, toFinanceReconciliationRow payment = .ok row := by
      rw [toFinanceReconciliationRow, dateISOString, if_pos head]
      exact ⟨_, rfl⟩
    obtain ⟨row, converted⟩ := converts
    refine ⟨row :: all, ?_⟩
    rw [List.mapM_cons, converted, rest]
    rfl

end Days

/-- Every report is balanced; a range of days whose years have four digits is answered, and its report is the merge of
those of its days, whenever they are asked for. -/
structure SplitsByDay (runtime : Runtime) (payments : ReconciledPayments) : Prop where
  balanced : ∀ now input report, listFinanceReconciliation runtime payments now input = .ok report → Balanced report
  merges : ∀ (first : Int) (count : Nat), HasFourDigits first → HasFourDigits (first + count) → ∀ method now report,
    listFinanceReconciliation runtime payments now (dayRange first (first + count) method) = .ok report →
    ∃ days, List.Forall₂ (fun day answer => ∀ later,
        listFinanceReconciliation runtime payments later (dayRange day day method) = .ok answer)
      (calendarDays first count) days ∧ Merges report days
  answered : ∀ (first : Int) (count : Nat), HasFourDigits first → HasFourDigits (first + count) →
    (∀ payment ∈ payments.rows, IsTime (getFinanceReconciliationOccurredAt payment)) → ∀ method known,
    resolveFinanceReconciliationPaymentMethod method = .ok known → ∀ now,
    ∃ report, listFinanceReconciliation runtime payments now (dayRange first (first + count) method) = .ok report

end ShuleHub.Billing
