import Mathlib.Data.Rat.Defs
import ShuleHub.Lib.JsDate
import ShuleHub.TenantFinance.MpesaConfigs
import ShuleHub.Tenant

/-! `MpesaReconciliationService.generateDailyReport`: the M-PESA transactions of one Nairobi day against the ledger. -/

namespace ShuleHub.Payments.Reconciliation

open Transaction Finance TenantFinance

variable (runtime : Runtime)

inductive DiscrepancyType where
  | missingCallback
  | missingLedgerTransaction
  | amountMismatch
  | duplicateMpesaReceipt
  | unmatchedLedgerTransaction
deriving DecidableEq

def DiscrepancyType.text : DiscrepancyType → String
  | .missingCallback => "missing_callback"
  | .missingLedgerTransaction => "missing_ledger_transaction"
  | .amountMismatch => "amount_mismatch"
  | .duplicateMpesaReceipt => "duplicate_mpesa_receipt"
  | .unmatchedLedgerTransaction => "unmatched_ledger_transaction"

inductive Severity where
  | warning
  | critical
deriving DecidableEq

structure Discrepancy where
  type : DiscrepancyType
  severity : Severity
  detail : String
  occurredAt : String
  paymentIntentId : Option String
  mpesaTransactionId : Option String
  ledgerTransactionId : Option String
  checkoutRequestId : Option String
  mpesaReceiptNumber : Option String
  expectedAmountMinor : Option Nat
  actualAmountMinor : Option Nat
  metadata : Json

structure SuccessfulMpesaRow where
  mpesaTransactionId : String
  paymentIntentId : String
  checkoutRequestId : String
  merchantRequestId : String
  mpesaReceiptNumber : Option String
  mpesaAmountMinor : Option Nat
  ledgerTransactionId : Option String
  transactionOccurredAt : Option Int
  processedAt : Option Int
  createdAt : Int
  linkedTransactionId : Option String
  linkedTransactionReference : Option String
  linkedTransactionAmountMinor : Option Nat
  linkedTransactionPostedAt : Option Int

structure MissingCallbackRow where
  paymentIntentId : String
  checkoutRequestId : Option String
  merchantRequestId : Option String
  amountMinor : Nat
  status : PaymentIntentStatus
  observedAt : Int

structure DuplicateReceiptRow where
  mpesaReceiptNumber : String
  duplicateCount : Nat
  totalAmountMinor : Nat
  firstSeenAt : Int
  mpesaTransactionIds : List String
  checkoutRequestIds : List String

structure UnmatchedLedgerRow where
  transactionId : String
  reference : String
  description : String
  totalAmountMinor : Nat
  postedAt : Int
  accountCodes : List String

def truthy (id : Option String) : Prop := ∃ text ∈ id, text ≠ ""
deriving Decidable

def parseMinorAmount (value : Option Nat) : Nat := value.getD 0

def resolveObservedAt (first second : Option Int) (last : Int) : String :=
  JsDate.toISOString ((first <|> second).getD last)

def rowMetadata (row : SuccessfulMpesaRow) : Json :=
  .obj [("merchant_request_id", .str row.merchantRequestId), ("reference", jsonText row.linkedTransactionReference)]

def missingLedgerTransaction (row : SuccessfulMpesaRow) : Discrepancy where
  type := .missingLedgerTransaction
  severity := .critical
  detail := "Successful MPESA transaction \"" ++ row.checkoutRequestId ++ "\" has no linked ledger posting"
  occurredAt := resolveObservedAt row.transactionOccurredAt row.processedAt row.createdAt
  paymentIntentId := some row.paymentIntentId
  mpesaTransactionId := some row.mpesaTransactionId
  ledgerTransactionId := row.ledgerTransactionId
  checkoutRequestId := some row.checkoutRequestId
  mpesaReceiptNumber := row.mpesaReceiptNumber
  expectedAmountMinor := row.mpesaAmountMinor
  actualAmountMinor := row.linkedTransactionAmountMinor
  metadata := rowMetadata row

def amountMismatch (row : SuccessfulMpesaRow) : Discrepancy where
  type := .amountMismatch
  severity := .critical
  detail := "MPESA transaction \"" ++ row.checkoutRequestId ++ "\" amount does not match ledger transaction \""
    ++ row.linkedTransactionId.getD "" ++ "\""
  occurredAt := resolveObservedAt row.transactionOccurredAt row.linkedTransactionPostedAt row.createdAt
  paymentIntentId := some row.paymentIntentId
  mpesaTransactionId := some row.mpesaTransactionId
  ledgerTransactionId := row.linkedTransactionId
  checkoutRequestId := some row.checkoutRequestId
  mpesaReceiptNumber := row.mpesaReceiptNumber
  expectedAmountMinor := row.mpesaAmountMinor
  actualAmountMinor := row.linkedTransactionAmountMinor
  metadata := rowMetadata row

structure Tally where
  successfulMpesaAmountMinor : Nat
  linkedLedgerAmountMinor : Nat
  matchedAmountMinor : Nat
  linkedLedgerTransactionCount : Nat
  matchedTransactionCount : Nat
  missingLedgerTransactionCount : Nat
  amountMismatchCount : Nat
  discrepancies : List Discrepancy

namespace Tally

def empty : Tally := ⟨0, 0, 0, 0, 0, 0, 0, []⟩

def receive (tally : Tally) (row : SuccessfulMpesaRow) : Tally :=
  let linked := truthy row.linkedTransactionId ∧ row.linkedTransactionAmountMinor ≠ none
  { tally with
    successfulMpesaAmountMinor := tally.successfulMpesaAmountMinor + parseMinorAmount row.mpesaAmountMinor
    linkedLedgerTransactionCount := tally.linkedLedgerTransactionCount + if linked then 1 else 0
    linkedLedgerAmountMinor := tally.linkedLedgerAmountMinor +
      if linked then parseMinorAmount row.linkedTransactionAmountMinor else 0 }

def add (tally : Tally) (row : SuccessfulMpesaRow) : Tally :=
  let received := tally.receive row
  if ¬ truthy row.ledgerTransactionId ∨ ¬ truthy row.linkedTransactionId then
    { received with
      missingLedgerTransactionCount := tally.missingLedgerTransactionCount + 1
      discrepancies := tally.discrepancies ++ [missingLedgerTransaction row] }
  else if row.mpesaAmountMinor = none ∨ row.linkedTransactionAmountMinor = none ∨
      row.mpesaAmountMinor ≠ row.linkedTransactionAmountMinor then
    { received with
      amountMismatchCount := tally.amountMismatchCount + 1
      discrepancies := tally.discrepancies ++ [amountMismatch row] }
  else
    { received with
      matchedTransactionCount := tally.matchedTransactionCount + 1
      matchedAmountMinor := tally.matchedAmountMinor + parseMinorAmount row.mpesaAmountMinor }

end Tally

def missingCallback (row : MissingCallbackRow) : Discrepancy where
  type := .missingCallback
  severity := .warning
  detail := "Payment intent \"" ++ row.paymentIntentId ++ "\" is still awaiting an MPESA callback"
  occurredAt := JsDate.toISOString row.observedAt
  paymentIntentId := some row.paymentIntentId
  mpesaTransactionId := none
  ledgerTransactionId := none
  checkoutRequestId := row.checkoutRequestId
  mpesaReceiptNumber := none
  expectedAmountMinor := some row.amountMinor
  actualAmountMinor := none
  metadata := .obj [("merchant_request_id", jsonText row.merchantRequestId),
    ("payment_intent_status", .str row.status.text)]

def duplicateMpesaReceipt (row : DuplicateReceiptRow) : Discrepancy where
  type := .duplicateMpesaReceipt
  severity := .warning
  detail := "MPESA receipt \"" ++ row.mpesaReceiptNumber ++ "\" appears on " ++ toString row.duplicateCount ++
    " successful transactions"
  occurredAt := JsDate.toISOString row.firstSeenAt
  paymentIntentId := none
  mpesaTransactionId := row.mpesaTransactionIds.head?
  ledgerTransactionId := none
  checkoutRequestId := row.checkoutRequestIds.head?
  mpesaReceiptNumber := some row.mpesaReceiptNumber
  expectedAmountMinor := some row.totalAmountMinor
  actualAmountMinor := none
  metadata := .obj [("duplicate_count", .num (.ofNat row.duplicateCount)),
    ("mpesa_transaction_ids", .arr (row.mpesaTransactionIds.map .str)),
    ("checkout_request_ids", .arr (row.checkoutRequestIds.map .str))]

def unmatchedLedgerTransaction (row : UnmatchedLedgerRow) : Discrepancy where
  type := .unmatchedLedgerTransaction
  severity := .critical
  detail := "Ledger transaction \"" ++ row.reference ++
    "\" touches MPESA accounts but has no matching MPESA transaction"
  occurredAt := JsDate.toISOString row.postedAt
  paymentIntentId := none
  mpesaTransactionId := none
  ledgerTransactionId := some row.transactionId
  checkoutRequestId := none
  mpesaReceiptNumber := none
  expectedAmountMinor := none
  actualAmountMinor := some row.totalAmountMinor
  metadata := .obj [("description", .str row.description), ("account_codes", .arr (row.accountCodes.map .str))]

structure Summary where
  successfulMpesaTransactionCount : Nat
  successfulMpesaAmountMinor : Nat
  linkedLedgerTransactionCount : Nat
  linkedLedgerAmountMinor : Nat
  matchedTransactionCount : Nat
  matchedAmountMinor : Nat
  missingCallbackCount : Nat
  missingLedgerTransactionCount : Nat
  amountMismatchCount : Nat
  duplicateReceiptGroupCount : Nat
  unmatchedLedgerTransactionCount : Nat
  discrepancyCount : Nat

structure Report where
  tenantId : String
  reportDate : String
  generatedAt : String
  windowStartedAt : String
  windowEndedAt : String
  isBalanced : Bool
  summary : Summary
  discrepancies : List Discrepancy

def precedes (left right : Discrepancy) : Prop :=
  if left.occurredAt = right.occurredAt then runtime.localeLe left.type.text right.type.text
  else runtime.localeLe left.occurredAt right.occurredAt
deriving Decidable

structure LoadedRows where
  successful : List SuccessfulMpesaRow
  missingCallbacks : List MissingCallbackRow
  duplicateReceipts : List DuplicateReceiptRow
  unmatchedLedger : List UnmatchedLedgerRow

def collected (rows : LoadedRows) (tally : Tally) : List Discrepancy :=
  tally.discrepancies ++ rows.missingCallbacks.map missingCallback ++
    rows.duplicateReceipts.map duplicateMpesaReceipt ++ rows.unmatchedLedger.map unmatchedLedgerTransaction

structure ReportWindow where
  windowStart : Int
  windowEnd : Int

def buildReport (reportDate : String) (window : ReportWindow) (generatedAt : Int)
    (rows : LoadedRows) : Report :=
  let tally := rows.successful.foldl Tally.add .empty
  let discrepancies := (collected rows tally).insertionSort (precedes runtime)
  { tenantId := runtime.tenantId
    reportDate
    generatedAt := JsDate.toISOString generatedAt
    windowStartedAt := JsDate.toISOString window.windowStart
    windowEndedAt := JsDate.toISOString window.windowEnd
    isBalanced := discrepancies.length = 0
    summary := {
      successfulMpesaTransactionCount := rows.successful.length
      successfulMpesaAmountMinor := tally.successfulMpesaAmountMinor
      linkedLedgerTransactionCount := tally.linkedLedgerTransactionCount
      linkedLedgerAmountMinor := tally.linkedLedgerAmountMinor
      matchedTransactionCount := tally.matchedTransactionCount
      matchedAmountMinor := tally.matchedAmountMinor
      missingCallbackCount := rows.missingCallbacks.length
      missingLedgerTransactionCount := tally.missingLedgerTransactionCount
      amountMismatchCount := tally.amountMismatchCount
      duplicateReceiptGroupCount := rows.duplicateReceipts.length
      unmatchedLedgerTransactionCount := rows.unmatchedLedger.length
      discrepancyCount := discrepancies.length }
    discrepancies }

def ReportWindow.Contains (window : ReportWindow) (time : Int) : Prop :=
  window.windowStart ≤ time ∧ time < window.windowEnd
deriving Decidable

def observedAt (row : MpesaTransactionEntity) : Int :=
  (row.transactionOccurredAt <|> row.processedAt).getD row.createdAt

def earlier {Row : Type} (time : Row → Int) (text : Row → String) (first second : Row) : Prop :=
  time first < time second ∨ time first = time second ∧ text first ≤ text second
deriving Decidable

def succeededIn (window : ReportWindow) (row : MpesaTransactionEntity) : Prop :=
  row.status = .succeeded ∧ window.Contains (observedAt row)
deriving Decidable

def succeededRows (window : ReportWindow) (db : PaymentsDb) : List MpesaTransactionEntity :=
  (db.mpesaTransactions.rows.filter (succeededIn window)).insertionSort (earlier observedAt (·.id))

def linkedTransaction (db : FinanceDb) (row : MpesaTransactionEntity) : Option FinancialTransactionEntity :=
  db.transactions.find? fun transaction => row.ledgerTransactionId = some transaction.id

def successfulMpesaRow (db : FinanceDb) (row : MpesaTransactionEntity) : SuccessfulMpesaRow where
  mpesaTransactionId := row.id
  paymentIntentId := row.paymentIntentId
  checkoutRequestId := row.checkoutRequestId
  merchantRequestId := row.merchantRequestId
  mpesaReceiptNumber := row.mpesaReceiptNumber
  mpesaAmountMinor := row.amountMinor
  ledgerTransactionId := row.ledgerTransactionId
  transactionOccurredAt := row.transactionOccurredAt
  processedAt := row.processedAt
  createdAt := row.createdAt
  linkedTransactionId := (linkedTransaction db row).map (·.id)
  linkedTransactionReference := (linkedTransaction db row).map (·.reference)
  linkedTransactionAmountMinor := (linkedTransaction db row).map (·.totalAmountMinor)
  linkedTransactionPostedAt := (linkedTransaction db row).map (·.postedAt)

def loadSuccessfulMpesaRows (window : ReportWindow) (db : TenantDb) : List SuccessfulMpesaRow :=
  (succeededRows window db.payments).map (successfulMpesaRow db.finance)

def requestedAt (intent : PaymentIntentEntity) : Int := intent.stkRequestedAt.getD intent.createdAt

def awaitsCallback (window : ReportWindow) (cutoff : Int) (db : PaymentsDb) (intent : PaymentIntentEntity) : Prop :=
  intent.status ∈ [PaymentIntentStatus.stkRequested, .callbackReceived, .processing] ∧
    intent.checkoutRequestId ≠ none ∧ (∀ row ∈ db.mpesaTransactions.rows, row.paymentIntentId ≠ intent.id) ∧
    window.Contains (requestedAt intent) ∧ requestedAt intent ≤ cutoff
deriving Decidable

def loadMissingCallbackRows (window : ReportWindow) (cutoff : Int) (db : PaymentsDb) : List MissingCallbackRow :=
  ((db.intents.rows.filter (awaitsCallback window cutoff db)).insertionSort (earlier requestedAt (·.id))).map fun intent =>
    { paymentIntentId := intent.id
      checkoutRequestId := intent.checkoutRequestId
      merchantRequestId := intent.merchantRequestId
      amountMinor := intent.amountMinor
      status := intent.status
      observedAt := requestedAt intent }

def duplicateReceiptRow (rows : List MpesaTransactionEntity) (receipt : String) : DuplicateReceiptRow :=
  let group := rows.filter (·.mpesaReceiptNumber = some receipt)
  { mpesaReceiptNumber := receipt
    duplicateCount := group.length
    totalAmountMinor := (group.map fun row => row.amountMinor.getD 0).sum
    firstSeenAt := (group.head?.map observedAt).getD 0
    mpesaTransactionIds := group.map (·.id)
    checkoutRequestIds := group.map (·.checkoutRequestId) }

def loadDuplicateReceiptRows (window : ReportWindow) (db : PaymentsDb) : List DuplicateReceiptRow :=
  let rows := succeededRows window db
  let groups := (rows.filterMap (·.mpesaReceiptNumber)).eraseDups.map (duplicateReceiptRow rows)
  (groups.filter (1 < ·.duplicateCount)).insertionSort (earlier (·.firstSeenAt) (·.mpesaReceiptNumber))

def touchedCodes (mpesaLedgerAccountCodes : List String) (db : FinanceDb) (transactionId : String) : List String :=
  let touched := db.accounts.filter fun account => account.code ∈ mpesaLedgerAccountCodes ∧
    ∃ entry ∈ db.ledgerEntries, entry.transactionId = transactionId ∧ entry.accountId = account.id
  ((touched.map (·.code)).eraseDups).insertionSort (· ≤ ·)

def unmatched (window : ReportWindow) (mpesaLedgerAccountCodes : List String) (db : TenantDb)
    (transaction : FinancialTransactionEntity) : Prop :=
  window.Contains transaction.postedAt ∧ touchedCodes mpesaLedgerAccountCodes db.finance transaction.id ≠ [] ∧
    ∀ row ∈ db.payments.mpesaTransactions.rows, row.status = .succeeded →
      row.ledgerTransactionId ≠ some transaction.id
deriving Decidable

def loadUnmatchedLedgerRows (window : ReportWindow) (mpesaLedgerAccountCodes : List String) (db : TenantDb) :
    List UnmatchedLedgerRow :=
  ((db.finance.transactions.filter (unmatched window mpesaLedgerAccountCodes db)).insertionSort
    (earlier (·.postedAt) (·.id))).map fun transaction =>
      { transactionId := transaction.id
        reference := transaction.reference
        description := transaction.description
        totalAmountMinor := transaction.totalAmountMinor
        postedAt := transaction.postedAt
        accountCodes := touchedCodes mpesaLedgerAccountCodes db.finance transaction.id }

def reportDateParts (text : String) : Option (Nat × Nat × Nat) :=
  match text.toList with
  | [y, e, a, r, first, m, o, second, d, t] =>
    if first = '-' ∧ second = '-' ∧ [y, e, a, r, m, o, d, t].all Char.isDigit then
      some (JsText.decimalValue (String.ofList [y, e, a, r]), JsText.decimalValue (String.ofList [m, o]),
        JsText.decimalValue (String.ofList [d, t]))
    else none
  | _ => none

/-- `Date.UTC` takes a year below 100 for one of the twentieth century, so that such a year is refused. -/
def isCalendarDate (year month day : Nat) : Prop :=
  let date := JsDate.civilFromDays (JsDate.utc year (month - 1) day 12 0 0 / 86400000)
  date.year = year ∧ date.month = month ∧ date.day = day
deriving Decidable

def normalizeReportDate (value : String) : Except Exception String := do
  let normalizedValue := JsText.trim value
  match reportDateParts normalizedValue with
  | none => fail (.badRequest "MPESA reconciliation report_date must use the YYYY-MM-DD format")
  | some (year, month, day) =>
    failIf (¬ isCalendarDate year month day)
      (.badRequest ("MPESA reconciliation report_date \"" ++ normalizedValue ++ "\" is invalid"))
    return normalizedValue

def normalizeGraceMinutes (value : Option ℚ) : Except Exception Nat :=
  match value with
  | none => return 15
  | some minutes => do
    failIf (minutes.den ≠ 1 ∨ minutes.num < 0)
      (.badRequest "MPESA reconciliation missing_callback_grace_minutes must be a non-negative integer")
    return minutes.num.toNat

def startOfDay (year month day : Nat) : Int :=
  (JsDate.daysToMonth year (month - 1) + day - 1) * 86400000 - 10800000

def buildReportWindow (reportDate : String) : Except Exception ReportWindow :=
  match reportDateParts reportDate with
  | none => fail (.badRequest ("MPESA reconciliation report_date \"" ++ reportDate ++ "\" could not be parsed"))
  | some (year, month, day) =>
    let windowStart := startOfDay year month day
    return { windowStart, windowEnd := windowStart + 86400000 }

def getMpesaLedgerAccountCodes (settings : MpesaSettings) (tenantFinance : Option TenantFinanceDb) (tenantId : String) :
    List String :=
  match tenantFinance.map (resolveMpesaConfigForTenant settings tenantId) with
  | some (.ok config) => [config.ledgerDebitAccountCode, config.ledgerCreditAccountCode]
  | _ => [settings.ledgerDebitAccountCode.getD "1100-MPESA-CLEARING",
      settings.ledgerCreditAccountCode.getD "2100-CUSTOMER-DEPOSITS"]

structure GenerateMpesaReconciliationReportInput where
  reportDate : String
  missingCallbackGraceMinutes : Option ℚ

structure ReportCall where
  settings : MpesaSettings
  tenantFinance : Option TenantFinanceDb
  now : Int
  generatedAt : Int

def loadRows (call : ReportCall) (window : ReportWindow) (graceMinutes : Nat) (db : TenantDb) :
    LoadedRows :=
  let mpesaLedgerAccountCodes := getMpesaLedgerAccountCodes call.settings call.tenantFinance runtime.tenantId
  { successful := loadSuccessfulMpesaRows window db
    missingCallbacks := loadMissingCallbackRows window (call.now - graceMinutes * 60000) db.payments
    duplicateReceipts := loadDuplicateReceiptRows window db.payments
    unmatchedLedger := loadUnmatchedLedgerRows window mpesaLedgerAccountCodes db }

def generateDailyReport (call : ReportCall) (input : GenerateMpesaReconciliationReportInput)
    (db : TenantDb) : Except Exception Report := do
  failIf (runtime.tenantId = "") (.unauthorized "Tenant context is required for MPESA reconciliation")
  let reportDate ← normalizeReportDate input.reportDate
  let window ← buildReportWindow reportDate
  let graceMinutes ← normalizeGraceMinutes input.missingCallbackGraceMinutes
  return buildReport runtime reportDate window call.generatedAt (loadRows runtime call window graceMinutes db)

end ShuleHub.Payments.Reconciliation
