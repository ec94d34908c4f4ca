import ShuleHub.Billing.ManualFeePayments
import ShuleHub.Lib.IsoDates

/-! `BillingService.listFinanceReconciliation`: the manual fee payments of a period, with their figures by bucket
and by method. -/

namespace ShuleHub.Billing

open Transaction JsDate

variable (runtime : Runtime)

structure ReconciledPayment extends ManualFeePaymentEntity where
  updatedAt : Int

abbrev ReconciledPayments := KeyedTable ReconciledPayment String (·.id)

inductive FinanceReconciliationBucket where
  | cleared
  | pending
  | exception
deriving DecidableEq

def manualFeePaymentMethods : List ManualFeePaymentMethod := [.cash, .cheque, .bankDeposit, .eft, .mpesaC2b]

structure FinanceReconciliationInput where
  fromText : Option String
  toText : Option String
  method : Option String

structure FinanceReconciliationPeriod where
  fromTime : Int
  toTime : Int
  paymentMethod : Option ManualFeePaymentMethod

structure FinanceReconciliationRow where
  paymentId : String
  receiptNumber : String
  paymentMethod : ManualFeePaymentMethod
  status : ManualFeePaymentStatus
  reconciliationBucket : FinanceReconciliationBucket
  amountMinor : Nat
  currencyCode : String
  occurredAt : String
  reference : String
  payerName : Option String
  studentId : Option String
  invoiceId : Option String
  ledgerTransactionId : Option String
  reversalLedgerTransactionId : Option String
deriving DecidableEq

@[ext] structure FinanceReconciliationAccumulator where
  transactionCount : Nat
  totalAmountMinor : Nat
  clearedCount : Nat
  clearedAmountMinor : Nat
  pendingCount : Nat
  pendingAmountMinor : Nat
  exceptionCount : Nat
  exceptionAmountMinor : Nat
deriving DecidableEq

structure FinanceReconciliationMethodSummary where
  paymentMethod : ManualFeePaymentMethod
  transactionCount : Nat
  totalAmountMinor : Nat
  clearedAmountMinor : Nat
  pendingAmountMinor : Nat
  exceptionAmountMinor : Nat

/-- The response, whose amounts are numbers here and texts of them there. -/
structure FinanceReconciliationResponse where
  fromText : String
  toText : String
  paymentMethod : Option ManualFeePaymentMethod
  totals : FinanceReconciliationAccumulator
  methodSummaries : List FinanceReconciliationMethodSummary
  rows : List FinanceReconciliationRow

def ReconciledPayments.listManualFeePayments (payments : ReconciledPayments) : List ReconciledPayment :=
  payments.rows.insertionSort fun left right =>
    right.receivedAt < left.receivedAt ∨ right.receivedAt = left.receivedAt ∧ right.createdAt ≤ left.createdAt

def newDate (text : String) : Option Int := parseISOString text <|> runtime.parseDate text

def dateISOString (time : Int) : Except Exception String :=
  if IsTime time then .ok (toISOString time) else .error (.internal "Invalid time value")

def getFinanceReconciliationOccurredAt (payment : ReconciledPayment) : Int :=
  match payment.status with
  | .reversed => payment.reversedAt.getD payment.updatedAt
  | .bounced => payment.bouncedAt.getD payment.updatedAt
  | .cleared => payment.clearedAt.getD payment.receivedAt
  | .deposited => payment.depositedAt.getD payment.receivedAt
  | .received => payment.receivedAt

def getFinanceReconciliationBucket (status : ManualFeePaymentStatus) : FinanceReconciliationBucket :=
  match status with
  | .cleared => .cleared
  | .received | .deposited => .pending
  | .bounced | .reversed => .exception

def toFinanceReconciliationRow (payment : ReconciledPayment) : Except Exception FinanceReconciliationRow := do
  let occurredAt ← dateISOString (getFinanceReconciliationOccurredAt payment)
  return {
    paymentId := payment.id
    receiptNumber := payment.receiptNumber
    paymentMethod := payment.paymentMethod
    status := payment.status
    reconciliationBucket := getFinanceReconciliationBucket payment.status
    amountMinor := payment.amountMinor
    currencyCode := payment.currencyCode
    occurredAt
    reference := (payment.externalReference <|> payment.depositReference <|> payment.chequeNumber <|>
      payment.ledgerTransactionId <|> payment.reversalLedgerTransactionId).getD payment.receiptNumber
    payerName := payment.payerName
    studentId := payment.studentId
    invoiceId := payment.invoiceId
    ledgerTransactionId := payment.ledgerTransactionId
    reversalLedgerTransactionId := payment.reversalLedgerTransactionId }

def createFinanceReconciliationAccumulator : FinanceReconciliationAccumulator := ⟨0, 0, 0, 0, 0, 0, 0, 0⟩

def addFinanceReconciliationAmount (accumulator : FinanceReconciliationAccumulator) (row : FinanceReconciliationRow) :
    FinanceReconciliationAccumulator :=
  let counted := { accumulator with
    transactionCount := accumulator.transactionCount + 1
    totalAmountMinor := accumulator.totalAmountMinor + row.amountMinor }
  match row.reconciliationBucket with
  | .cleared => { counted with
    clearedCount := counted.clearedCount + 1
    clearedAmountMinor := counted.clearedAmountMinor + row.amountMinor }
  | .pending => { counted with
    pendingCount := counted.pendingCount + 1
    pendingAmountMinor := counted.pendingAmountMinor + row.amountMinor }
  | .exception => { counted with
    exceptionCount := counted.exceptionCount + 1
    exceptionAmountMinor := counted.exceptionAmountMinor + row.amountMinor }

def toFinanceReconciliationMethodSummary (method : ManualFeePaymentMethod)
    (accumulator : FinanceReconciliationAccumulator) : FinanceReconciliationMethodSummary where
  paymentMethod := method
  transactionCount := accumulator.transactionCount
  totalAmountMinor := accumulator.totalAmountMinor
  clearedAmountMinor := accumulator.clearedAmountMinor
  pendingAmountMinor := accumulator.pendingAmountMinor
  exceptionAmountMinor := accumulator.exceptionAmountMinor

structure FinanceReconciliationFigures where
  totals : FinanceReconciliationAccumulator
  methodTotals : JsMap ManualFeePaymentMethod FinanceReconciliationAccumulator

def initialFigures : FinanceReconciliationFigures where
  totals := createFinanceReconciliationAccumulator
  methodTotals := manualFeePaymentMethods.map fun method => (method, createFinanceReconciliationAccumulator)

def addRow (figures : FinanceReconciliationFigures) (row : FinanceReconciliationRow) : FinanceReconciliationFigures :=
  let totals := addFinanceReconciliationAmount figures.totals row
  match figures.methodTotals.get? row.paymentMethod with
  | some accumulator =>
    let added := addFinanceReconciliationAmount accumulator row
    { totals, methodTotals := figures.methodTotals.set row.paymentMethod added }
  | none => { figures with totals := addFinanceReconciliationAmount totals row }

inductive BoundarySide where
  | first
  | last
deriving DecidableEq

def BoundarySide.text : BoundarySide → String
  | .first => "from"
  | .last => "to"

def BoundarySide.timeText : BoundarySide → String
  | .first => "T00:00:00.000Z"
  | .last => "T23:59:59.999Z"

def normalizeBoundary (value : String) (side : BoundarySide) : String :=
  let trimmed := JsText.trim value
  if isDateOnly trimmed then trimmed ++ side.timeText else trimmed

def parseFinanceReconciliationBoundary (value : String) (side : BoundarySide) :
    Except Exception Int :=
  match newDate runtime (normalizeBoundary value side) with
  | some time => .ok time
  | none => .error (.badRequest ("Invalid reconciliation " ++ side.text ++ " date \"" ++ value ++ "\""))

def resolveFinanceReconciliationPaymentMethod (method : Option String) :
    Except Exception (Option ManualFeePaymentMethod) :=
  match method.filter (· ≠ "") with
  | none => .ok none
  | some text =>
    match manualFeePaymentMethods.find? fun known => known.text = JsText.trim text with
    | some known => .ok (some known)
    | none => .error (.badRequest ("Unknown reconciliation payment method \"" ++ text ++ "\""))

def boundary (text : Option String) (side : BoundarySide) (absent : Int) : Except Exception Int :=
  match text.filter (· ≠ "") with
  | some value => parseFinanceReconciliationBoundary runtime value side
  | none => .ok absent

def startOfMonth (now : Int) : Int :=
  let today := civilFromDays (now / 86400000)
  utc today.year (today.month - 1) 1 0 0 0

def resolveFinanceReconciliationPeriod (now : Int) (input : FinanceReconciliationInput) :
    Except Exception FinanceReconciliationPeriod := do
  let fromTime ← boundary runtime input.fromText .first (startOfMonth now)
  let toTime ← boundary runtime input.toText .last now
  let paymentMethod ← resolveFinanceReconciliationPaymentMethod input.method
  failIf (toTime < fromTime) (.badRequest "Reconciliation start date cannot be after end date")
  return { fromTime, toTime, paymentMethod }

def inPeriod (period : FinanceReconciliationPeriod) (row : FinanceReconciliationRow) : Bool :=
  (newDate runtime row.occurredAt).any (fun occurredAt => period.fromTime ≤ occurredAt && occurredAt ≤ period.toTime) &&
    period.paymentMethod.all (row.paymentMethod = ·)

def sortRows (rows : List FinanceReconciliationRow) : List FinanceReconciliationRow :=
  rows.insertionSort fun left right => runtime.localeLe right.occurredAt left.occurredAt = true

def listFinanceReconciliation (payments : ReconciledPayments) (now : Int)
    (input : FinanceReconciliationInput) : Except Exception FinanceReconciliationResponse := do
  let period ← resolveFinanceReconciliationPeriod runtime now input
  let all ← payments.listManualFeePayments.mapM toFinanceReconciliationRow
  let rows := sortRows runtime (all.filter (inPeriod runtime period))
  let figures := rows.foldl addRow initialFigures
  let fromText ← dateISOString period.fromTime
  let toText ← dateISOString period.toTime
  return {
    fromText
    toText
    paymentMethod := period.paymentMethod
    totals := figures.totals
    methodSummaries := manualFeePaymentMethods.map fun method => toFinanceReconciliationMethodSummary method
      ((figures.methodTotals.get? method).getD createFinanceReconciliationAccumulator)
    rows }

end ShuleHub.Billing
