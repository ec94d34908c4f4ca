import ShuleHub.Billing.StudentFees
import ShuleHub.Lib.JsDate
import ShuleHub.Tenant

/-! Fee receipts that the bursar records: received, deposited, cleared, bounced and reversed. A cleared
receipt is posted to the ledger and spread over invoices. -/

namespace ShuleHub.Billing

open Transaction Finance Invoices JsText KeyedTable Outcome

variable {db after : BillingDb}

/-- What receipts take from the database besides: `uuid` reads the text of a `::uuid` parameter, and
`infersAllocationIndex` says whether `ON CONFLICT` over the columns of
`ux_manual_fee_payment_allocations_invoice_once`, which is partial, may leave its condition out. -/
structure BillingRuntime extends Runtime where
  uuid : String → Option String
  infersAllocationIndex : Bool

variable (runtime : BillingRuntime)

def ManualFeePaymentMethod.text : ManualFeePaymentMethod → String
  | .cash => "cash"
  | .cheque => "cheque"
  | .bankDeposit => "bank_deposit"
  | .eft => "eft"
  | .mpesaC2b => "mpesa_c2b"

def ManualFeePaymentMethod.label : ManualFeePaymentMethod → String
  | .bankDeposit => "bank deposit"
  | .mpesaC2b => "mpesa c2b"
  | method => method.text

def ManualFeePaymentStatus.text : ManualFeePaymentStatus → String
  | .received => "received"
  | .deposited => "deposited"
  | .cleared => "cleared"
  | .bounced => "bounced"
  | .reversed => "reversed"

structure CreateManualFeePaymentDto where
  idempotencyKey : String
  paymentMethod : ManualFeePaymentMethod
  amountMinor : String
  studentId : Option String
  invoiceId : Option String
  payerName : Option String
  receivedAt : Option String
  chequeNumber : Option String
  drawerBank : Option String
  depositReference : Option String
  externalReference : Option String
  assetAccountCode : Option String
  feeControlAccountCode : Option String
  notes : Option String
  metadata : Option Metadata

structure UpdateManualFeePaymentStatusDto where
  occurredAt : Option String
  depositReference : Option String
  notes : Option String
  metadata : Option Metadata

/-- The context of a call, with the values that `gen_random_uuid()` and `randomUUID()` take in it and the
invoices that other transactions hold. -/
structure ManualCall extends CallContext where
  newPaymentId : String
  receiptUuid : { text : String // isUuid text = true }
  locked : String → Bool

variable (call : ManualCall) (payment : ManualFeePaymentEntity) (paymentId : String)
  (dto : UpdateManualFeePaymentStatusDto)

def generateReceiptNumber : String :=
  "RCT-" ++ String.ofList (((JsDate.toISOString call.now).toList.take 10).filter (· ≠ '-')) ++ "-" ++
    JsText.toUpperCase (String.ofList (call.receiptUuid.val.toList.take 8))

def defaultAssetAccountByMethod : ManualFeePaymentMethod → String
  | .cash => "1010-CASH-ON-HAND"
  | .cheque => "1120-BANK-CLEARING"
  | .bankDeposit => "1120-BANK-CLEARING"
  | .eft => "1120-BANK-CLEARING"
  | .mpesaC2b => "1110-MPESA-CLEARING"

def defaultFeeControlAccountCode : String := "1100-AR-FEES"

def assertHasAllocationTarget (studentId invoiceId : Option String) : Except Exception Unit :=
  failIf (¬ (studentId.any (· ≠ "") ∨ invoiceId.any (· ≠ "")))
    (.badRequest "Manual fee payment requires a student or invoice target")

def assertMethodRequirements (dto : CreateManualFeePaymentDto) : Except Exception Unit := do
  failIf (dto.paymentMethod = .cheque ∧ readString dto.chequeNumber = none)
    (.badRequest "Cheque number is required for cheque payments")
  failIf (dto.paymentMethod = .cheque ∧ readString dto.drawerBank = none)
    (.badRequest "Drawer bank is required for cheque payments")

namespace ManualFeePayments

def parseUuid (runtime : BillingRuntime) (value : Option String) : Except Exception (Option String) :=
  match value with
  | none => return none
  | some text =>
    match runtime.uuid text with
    | some id => return some id
    | none => fail (.database "invalid input syntax for type uuid")

def receivedPayment (call : ManualCall) (dto : CreateManualFeePaymentDto) (studentId invoiceId : Option String)
    (amountMinor : Nat) (receivedAt : Int) (amountPositive : 0 < amountMinor) : ManualFeePaymentEntity where
  id := call.newPaymentId
  idempotencyKey := JsText.trim dto.idempotencyKey
  receiptNumber := generateReceiptNumber call
  paymentMethod := dto.paymentMethod
  status := .received
  studentId
  invoiceId
  amountMinor
  currencyCode := "KES"
  payerName := readString dto.payerName
  receivedAt
  depositedAt := none
  clearedAt := none
  bouncedAt := none
  reversedAt := none
  chequeNumber := readString dto.chequeNumber
  drawerBank := readString dto.drawerBank
  depositReference := readString dto.depositReference
  externalReference := readString dto.externalReference
  assetAccountCode := (readString dto.assetAccountCode).getD (defaultAssetAccountByMethod dto.paymentMethod)
  feeControlAccountCode := (readString dto.feeControlAccountCode).getD defaultFeeControlAccountCode
  ledgerTransactionId := none
  reversalLedgerTransactionId := none
  notes := readString dto.notes
  metadata := dto.metadata.getD []
  createdAt := call.now
  amountPositive

def insertPayment (payment : ManualFeePaymentEntity) : Transaction BillingDb Exception ManualFeePaymentEntity := do
  let db ← current
  match db.manualFeePayments.rows.find? fun other => other.idempotencyKey = payment.idempotencyKey with
  | some existing => return existing
  | none =>
    failIf (∃ other ∈ db.manualFeePayments.rows, other.receiptNumber = payment.receiptNumber)
      (.database "uq_manual_fee_payments_receipt_number")
    failIf (∃ invoiceId ∈ payment.invoiceId, db.invoices.find invoiceId = none)
      (.database "fk_manual_fee_payments_invoice")
    match db.manualFeePayments.tryInsert payment with
    | none => fail (.database "manual_fee_payments_pkey")
    | some manualFeePayments =>
      write fun db => { db with manualFeePayments }
      return payment

def create (runtime : BillingRuntime) (call : ManualCall) (dto : CreateManualFeePaymentDto) (amountMinor : Nat)
    (receivedAt : Int) : Transaction BillingDb Exception ManualFeePaymentEntity := do
  let studentId ← parseUuid runtime dto.studentId
  let invoiceId ← parseUuid runtime dto.invoiceId
  failIf (bigintLimit ≤ amountMinor) (.database "bigint out of range")
  failIf (JsText.trim dto.idempotencyKey = "") (.database "ck_manual_fee_payments_idempotency_key_not_blank")
  if positive : 0 < amountMinor then
    insertPayment (receivedPayment call dto studentId invoiceId amountMinor receivedAt positive)
  else
    fail (.database "ck_manual_fee_payments_amount")

def updatePayment (id : String) (change : ManualFeePaymentEntity → ManualFeePaymentEntity)
    (kept : ∀ payment, (change payment).id = payment.id) : Transaction BillingDb Exception ManualFeePaymentEntity := do
  let db ← current
  match db.manualFeePayments.find id with
  | none => fail (.internal "Manual fee payment row is missing")
  | some payment =>
    write fun db => { db with manualFeePayments := db.manualFeePayments.update id change kept }
    return change payment

def deposit (depositedAt : Int) (depositReference notes : Option String) (metadata : Metadata)
    (payment : ManualFeePaymentEntity) : ManualFeePaymentEntity :=
  { payment with
    status := .deposited
    depositedAt := some depositedAt
    depositReference := depositReference <|> payment.depositReference
    notes := notes <|> payment.notes
    metadata := payment.metadata.merge metadata }

def clear (ledgerTransactionId : String) (clearedAt : Int) (depositReference notes : Option String)
    (metadata : Metadata) (payment : ManualFeePaymentEntity) : ManualFeePaymentEntity :=
  { payment with
    status := .cleared
    clearedAt := some clearedAt
    ledgerTransactionId := some ledgerTransactionId
    depositReference := depositReference <|> payment.depositReference
    notes := notes <|> payment.notes
    metadata := payment.metadata.merge metadata }

def bounce (bouncedAt : Int) (notes : Option String) (metadata : Metadata) (payment : ManualFeePaymentEntity) :
    ManualFeePaymentEntity :=
  { payment with
    status := .bounced
    bouncedAt := some bouncedAt
    notes := notes <|> payment.notes
    metadata := payment.metadata.merge metadata }

def reverse (reversalLedgerTransactionId : String) (reversedAt : Int) (notes : Option String) (metadata : Metadata)
    (payment : ManualFeePaymentEntity) : ManualFeePaymentEntity :=
  { payment with
    status := .reversed
    reversedAt := some reversedAt
    reversalLedgerTransactionId := some reversalLedgerTransactionId
    notes := notes <|> payment.notes
    metadata := payment.metadata.merge metadata }

def markDeposited (paymentId : String) (depositedAt : Int) (depositReference notes : Option String)
    (metadata : Metadata) : Transaction BillingDb Exception ManualFeePaymentEntity :=
  updatePayment paymentId (deposit depositedAt depositReference notes metadata) fun _ => rfl

def markCleared (paymentId ledgerTransactionId : String) (clearedAt : Int) (depositReference notes : Option String)
    (metadata : Metadata) : Transaction BillingDb Exception ManualFeePaymentEntity :=
  updatePayment paymentId (clear ledgerTransactionId clearedAt depositReference notes metadata) fun _ => rfl

def markBounced (paymentId : String) (bouncedAt : Int) (notes : Option String) (metadata : Metadata) :
    Transaction BillingDb Exception ManualFeePaymentEntity :=
  updatePayment paymentId (bounce bouncedAt notes metadata) fun _ => rfl

def markReversed (paymentId reversalLedgerTransactionId : String) (reversedAt : Int) (notes : Option String)
    (metadata : Metadata) : Transaction BillingDb Exception ManualFeePaymentEntity :=
  updatePayment paymentId (reverse reversalLedgerTransactionId reversedAt notes metadata) fun _ => rfl

/-- `ON CONFLICT (tenant_id, manual_payment_id, invoice_id, allocation_type) DO NOTHING`; a row without an
invoice is not in the index. -/
def createAllocation (runtime : BillingRuntime) (manualPaymentId : String) (invoiceId studentId : Option String)
    (allocationType : ManualFeePaymentAllocationType) (amountMinor : Nat) : Transaction BillingDb Exception Unit := do
  failIf (runtime.infersAllocationIndex = false)
    (.database "there is no unique or exclusion constraint matching the ON CONFLICT specification")
  let studentId ← parseUuid runtime studentId
  let db ← current
  if amountPositive : 0 < amountMinor then
    if ∃ other ∈ db.manualAllocations, other.manualPaymentId = manualPaymentId ∧ other.invoiceId ≠ none ∧
        other.invoiceId = invoiceId ∧ other.allocationType = allocationType then
      return ()
    else
      write fun db => { db with
        manualAllocations := db.manualAllocations ++ [{
          manualPaymentId, invoiceId, studentId, allocationType, amountMinor, amountPositive }] }
  else
    fail (.database "ck_manual_fee_payment_allocations_amount")

def listAllocations (db : BillingDb) (paymentId : String) : List ManualFeePaymentAllocationEntity :=
  db.manualAllocations.filter fun allocation => allocation.manualPaymentId = paymentId

end ManualFeePayments

open ManualFeePayments

def resolveInvoicesForAllocation (locked : String → Bool) (payment : ManualFeePaymentEntity) (db : BillingDb) :
    Except Exception (List InvoiceEntity) :=
  match payment.invoiceId, payment.studentId with
  | some invoiceId, studentId =>
    match lockManualFeeInvoiceForAllocation db invoiceId with
    | none => fail (.notFound ("Invoice \"" ++ invoiceId ++ "\" was not found"))
    | some invoice => do
      failIf (studentId ≠ none ∧ invoice.studentId ≠ studentId)
        (.badRequest "Manual payment student does not match invoice student")
      return [invoice]
  | none, some studentId => return findStudentFeeInvoicesForAllocation db locked studentId none
  | none, none => fail (.badRequest "Manual fee allocation requires a student or invoice")

def settleReceipt (application : Application) :
    Transaction BillingDb Exception Unit := do
  applyManualFeeInvoicePayment application.invoice.id application.applied application.nextPaid application.nextStatus
  createAllocation runtime payment.id (some application.invoice.id)
    (payment.studentId <|> application.invoice.studentId) .invoice application.applied

def creditOverage (remaining : Nat) :
    Transaction BillingDb Exception Unit :=
  if 0 < remaining then createAllocation runtime payment.id none payment.studentId .credit remaining
  else return ()

def allocateClearedPayment (locked : String → Bool) (payment : ManualFeePaymentEntity) :
    Transaction BillingDb Exception Nat := do
  let db ← current
  let invoices ← resolveInvoicesForAllocation locked payment db
  let (applications, remaining) ← allocateRemaining (fun _ => return ()) (settleReceipt runtime payment)
    payment.amountMinor invoices
  creditOverage runtime payment remaining
  return applications.length + if 0 < remaining then 1 else 0

def clearKey : String := "manual-fee-payment:" ++ paymentId ++ ":clear"

def reverseKey : String := "manual-fee-payment:" ++ paymentId ++ ":reverse"

def receiptReference (receiptNumber : String) : String := "MANUAL-" ++ receiptNumber

def reversalReference (receiptNumber : String) : String := "REV-MANUAL-" ++ receiptNumber

def receiptPosting (depositReference : Option String) (effectiveAt : Int)
    (assetAccount feeControlAccount : AccountEntity) : PostFinancialTransactionInput where
  idempotencyKey := clearKey payment.id
  reference := receiptReference payment.receiptNumber
  description := "Manual " ++ payment.paymentMethod.label ++ " fee receipt " ++ payment.receiptNumber
  effectiveAt := some (JsDate.toISOString effectiveAt)
  postedAt := none
  metadata := some (.obj [
    ("source", .str "manual_fee_payment"),
    ("manual_payment_id", .str payment.id),
    ("receipt_number", .str payment.receiptNumber),
    ("payment_method", .str payment.paymentMethod.text),
    ("student_id", jsonText payment.studentId),
    ("invoice_id", jsonText payment.invoiceId)])
  entries := [
    { accountId := assetAccount.id
      direction := .debit
      amountMinor := toString payment.amountMinor
      currencyCode := some payment.currencyCode
      description := some ("Manual receipt " ++ payment.receiptNumber)
      metadata := some (.obj [
        ("payment_method", .str payment.paymentMethod.text),
        ("deposit_reference", jsonText (depositReference <|> payment.depositReference))]) },
    { accountId := feeControlAccount.id
      direction := .credit
      amountMinor := toString payment.amountMinor
      currencyCode := some payment.currencyCode
      description := some ("Fee balance settled by " ++ payment.receiptNumber)
      metadata := some (.obj [
        ("student_id", jsonText payment.studentId),
        ("invoice_id", jsonText payment.invoiceId)]) }]

def reversalPosting (notes : Option String) (effectiveAt : Int)
    (assetAccount feeControlAccount : AccountEntity) : PostFinancialTransactionInput where
  idempotencyKey := reverseKey payment.id
  reference := reversalReference payment.receiptNumber
  description := "Reversal for manual fee receipt " ++ payment.receiptNumber
  effectiveAt := some (JsDate.toISOString effectiveAt)
  postedAt := none
  metadata := some (.obj [
    ("source", .str "manual_fee_payment_reversal"),
    ("manual_payment_id", .str payment.id),
    ("original_ledger_transaction_id", jsonText payment.ledgerTransactionId),
    ("receipt_number", .str payment.receiptNumber),
    ("reason", jsonText notes)])
  entries := [
    { accountId := feeControlAccount.id
      direction := .debit
      amountMinor := toString payment.amountMinor
      currencyCode := some payment.currencyCode
      description := some ("Reverse fee settlement " ++ payment.receiptNumber)
      metadata := some (.obj [("manual_payment_id", .str payment.id)]) },
    { accountId := assetAccount.id
      direction := .credit
      amountMinor := toString payment.amountMinor
      currencyCode := some payment.currencyCode
      description := some ("Reverse received funds " ++ payment.receiptNumber)
      metadata := some (.obj [("manual_payment_id", .str payment.id)]) }]

def requireAccount (db : TenantDb) (accountCode : String) : Except Exception AccountEntity :=
  match findByCode db accountCode with
  | some account => return account
  | none => fail (.notFound ("Finance account \"" ++ accountCode ++
    "\" is required before manual payments can be posted"))

def postReceiptTransaction : Transaction TenantDb Exception PostedFinancialTransaction := do
  let db ← current
  let assetAccount ← requireAccount db payment.assetAccountCode
  let feeControlAccount ← requireAccount db payment.feeControlAccountCode
  let effectiveAt ← resolveTimestamp runtime.toRuntime call.now
    (dto.occurredAt <|> some (JsDate.toISOString payment.receivedAt))
  onFinance (postTransaction runtime.toRuntime call.toCallContext
    (receiptPosting payment dto.depositReference effectiveAt assetAccount feeControlAccount))

def postReversalTransaction : Transaction TenantDb Exception PostedFinancialTransaction := do
  let db ← current
  let assetAccount ← requireAccount db payment.assetAccountCode
  let feeControlAccount ← requireAccount db payment.feeControlAccountCode
  let effectiveAt ← resolveTimestamp runtime.toRuntime call.now dto.occurredAt
  onFinance (postTransaction runtime.toRuntime call.toCallContext
    (reversalPosting payment dto.notes effectiveAt assetAccount feeControlAccount))

def clearLockedPayment : Transaction TenantDb Exception ManualFeePaymentEntity := do
  if payment.status = .cleared then
    return payment
  else
    failIf (payment.status ≠ .received ∧ payment.status ≠ .deposited)
      (.conflict ("Manual payment cannot be cleared while status is \"" ++ payment.status.text ++ "\""))
    let ledgerTransaction ← postReceiptTransaction runtime call payment dto
    let allocationCount ← onBilling (allocateClearedPayment runtime call.locked payment)
    let clearedAt ← resolveTimestamp runtime.toRuntime call.now dto.occurredAt
    onBilling (markCleared payment.id ledgerTransaction.transactionId clearedAt (readString dto.depositReference)
      (readString dto.notes) ((dto.metadata.getD []).set "allocation_count" (.num (JsNumber.ofNat allocationCount))))

def createManualFeePayment (dto : CreateManualFeePaymentDto) :
    Transaction TenantDb Exception ManualFeePaymentEntity := do
  assertHasAllocationTarget dto.studentId dto.invoiceId
  assertMethodRequirements dto
  let amountMinor ← normalizeMinorAmount "Manual fee amount must be a positive integer in minor units" dto.amountMinor
  let receivedAt ← resolveTimestamp runtime.toRuntime call.now dto.receivedAt
  let createdPayment ← onBilling (create runtime call dto amountMinor receivedAt)
  if createdPayment.status = .cleared ∨ createdPayment.status = .reversed ∨ createdPayment.paymentMethod = .cheque then
    return createdPayment
  else
    clearLockedPayment runtime call createdPayment {
      occurredAt := dto.receivedAt
      depositReference := dto.depositReference
      notes := dto.notes
      metadata := some [("cleared_on_create", .bool true)] }

def requireLockedPayment (db : TenantDb) : Except Exception ManualFeePaymentEntity :=
  match db.billing.manualFeePayments.find paymentId with
  | some payment => return payment
  | none => fail (.notFound ("Manual fee payment \"" ++ paymentId ++ "\" was not found"))

def depositManualFeePayment : Transaction TenantDb Exception ManualFeePaymentEntity := do
  let db ← current
  let lockedPayment ← requireLockedPayment paymentId db
  failIf (lockedPayment.paymentMethod ≠ .cheque) (.badRequest "Only cheque receipts can be marked as deposited")
  failIf (lockedPayment.status ≠ .received)
    (.conflict ("Cheque receipt cannot be deposited while status is \"" ++ lockedPayment.status.text ++ "\""))
  let depositedAt ← resolveTimestamp runtime.toRuntime call.now dto.occurredAt
  onBilling (markDeposited paymentId depositedAt (readString dto.depositReference) (readString dto.notes)
    (dto.metadata.getD []))

def clearManualFeePayment : Transaction TenantDb Exception ManualFeePaymentEntity := do
  let db ← current
  let lockedPayment ← requireLockedPayment paymentId db
  clearLockedPayment runtime call lockedPayment dto

def bounceManualFeePayment : Transaction TenantDb Exception ManualFeePaymentEntity := do
  let db ← current
  let lockedPayment ← requireLockedPayment paymentId db
  failIf (lockedPayment.paymentMethod ≠ .cheque) (.badRequest "Only cheque receipts can bounce")
  failIf (lockedPayment.status ≠ .received ∧ lockedPayment.status ≠ .deposited)
    (.conflict ("Cheque receipt cannot bounce while status is \"" ++ lockedPayment.status.text ++ "\""))
  let bouncedAt ← resolveTimestamp runtime.toRuntime call.now dto.occurredAt
  onBilling (markBounced paymentId bouncedAt (readString dto.notes) (dto.metadata.getD []))

def reverseAllocation (allocation : ManualFeePaymentAllocationEntity) : Transaction BillingDb Exception Unit :=
  match allocation.allocationType, allocation.invoiceId with
  | .invoice, some invoiceId => reverseManualFeeInvoicePayment invoiceId allocation.amountMinor .opened
  | _, _ => return ()

@[grind =] def reverseAllocations : List ManualFeePaymentAllocationEntity → Transaction BillingDb Exception Unit
  | [] => return ()
  | allocation :: allocations => do
    reverseAllocation allocation
    reverseAllocations allocations

def reverseManualFeePayment : Transaction TenantDb Exception ManualFeePaymentEntity := do
  let db ← current
  let lockedPayment ← requireLockedPayment paymentId db
  failIf (lockedPayment.status ≠ .cleared) (.conflict
    ("Only cleared manual payments can be reversed; current status is \"" ++ lockedPayment.status.text ++ "\""))
  let reversalTransaction ← postReversalTransaction runtime call lockedPayment dto
  onBilling (reverseAllocations (listAllocations db.billing lockedPayment.id))
  let reversedAt ← resolveTimestamp runtime.toRuntime call.now dto.occurredAt
  onBilling (markReversed lockedPayment.id reversalTransaction.transactionId reversedAt (readString dto.notes)
    (dto.metadata.getD []))

variable {runtime payment}

theorem upperChar_hex {c : Char} (hex : isHexDigit c = true) :
    ∃ d, (upperChar c).getLast? = some d ∧ isSpace d = false := by
  have small : ∀ n < 103, isHexDigit (Char.ofNat n) = true →
      (upperChar (Char.ofNat n)).getLast?.any (fun d => !isSpace d) = true := by decide +kernel
  have below : c.toNat < 103 := by
    simp only [isHexDigit, Bool.or_eq_true, Bool.and_eq_true, decide_eq_true_eq] at hex
    rcases hex with (⟨-, last⟩ | ⟨-, last⟩) | ⟨-, last⟩
    · exact Nat.lt_of_le_of_lt last (by decide)
    · exact Nat.lt_of_le_of_lt last (by decide)
    · exact Nat.lt_of_le_of_lt last (by decide)
  have last := small c.toNat below
  rw [Char.ofNat_toNat] at last
  obtain ⟨d, ends, visible⟩ := Option.any_eq_true _ _ |>.mp (last hex)
  exact ⟨d, ends, by simpa using visible⟩

theorem receipt_of_uuid (uuid : { text : String // isUuid text = true }) :
    ∃ first c, uuid.val.toList.take 8 = first ++ [c] ∧ isHexDigit c = true := by
  obtain ⟨text, valid⟩ := uuid
  simp only [isUuid, Bool.and_eq_true, decide_eq_true_eq, List.all_eq_true] at valid
  obtain ⟨length, chars⟩ := valid
  have long : 7 < text.toList.length := by omega
  refine ⟨text.toList.take 7, text.toList[7], (List.take_append_getElem long).symm, ?_⟩
  have char := chars (text.toList[7], 7) (by simp [List.mem_zipIdx_iff_getElem?])
  simpa using char

theorem generateReceiptNumber_visible (call : ManualCall) :
    ∃ last, (generateReceiptNumber call).toList.getLast? = some last ∧ isSpace last = false := by
  obtain ⟨first, c, eight, hex⟩ := receipt_of_uuid call.receiptUuid
  obtain ⟨last, ends, visible⟩ := upperChar_hex hex
  refine ⟨last, ?_, visible⟩
  rw [generateReceiptNumber, eight]
  simp only [toUpperCase, String.toList_append, String.toList_ofList, List.flatMap_append, List.getLast?_append]
  simp [ends]

section References

variable (call : ManualCall) (payment : ManualFeePaymentEntity)

theorem toList_head?_append {front back : String} {first : Char} (begins : front.toList.head? = some first) :
    (front ++ back).toList.head? = some first := by
  rw [String.toList_append, List.head?_append, begins]
  rfl

theorem toList_getLast?_append {front back : String} {last : Char} (ends : back.toList.getLast? = some last) :
    (front ++ back).toList.getLast? = some last := by
  rw [String.toList_append, List.getLast?_append, ends]
  rfl

theorem requireNonEmptyText_of_visible {front back fieldName : String} {first last : Char}
    (begins : front.toList.head? = some first) (ends : back.toList.getLast? = some last)
    (firstVisible : isSpace first = false) (lastVisible : isSpace last = false) :
    requireNonEmptyText (front ++ back) fieldName = .ok (front ++ back) := by
  have head : (front ++ back).toList.head? = some first := toList_head?_append begins
  have tail : (front ++ back).toList.getLast? = some last := toList_getLast?_append ends
  have present : front ++ back ≠ "" := by
    intro empty
    rw [empty] at head
    simp at head
  unfold requireNonEmptyText
  rw [trim_of_visible head tail firstVisible lastVisible]
  simp [failIf, present, bind, Except.bind, pure, Except.pure]

theorem requireNonEmptyText_clearKey (fieldName : String) :
    requireNonEmptyText (clearKey payment.id) fieldName = .ok (clearKey payment.id) :=
  @requireNonEmptyText_of_visible _ _ _ 'm' 'r' (toList_head?_append (by decide)) (by decide) (by decide) (by decide)

theorem requireNonEmptyText_reverseKey (fieldName : String) :
    requireNonEmptyText (reverseKey payment.id) fieldName = .ok (reverseKey payment.id) :=
  @requireNonEmptyText_of_visible _ _ _ 'm' 'e' (toList_head?_append (by decide)) (by decide) (by decide) (by decide)

theorem requireNonEmptyText_receiptReference (fieldName : String) :
    requireNonEmptyText (receiptReference (generateReceiptNumber call)) fieldName =
      .ok (receiptReference (generateReceiptNumber call)) := by
  obtain ⟨last, ends, visible⟩ := generateReceiptNumber_visible call
  exact @requireNonEmptyText_of_visible _ _ _ 'M' last (by decide) ends (by decide) visible

theorem requireNonEmptyText_reversalReference (fieldName : String) :
    requireNonEmptyText (reversalReference (generateReceiptNumber call)) fieldName =
      .ok (reversalReference (generateReceiptNumber call)) := by
  obtain ⟨last, ends, visible⟩ := generateReceiptNumber_visible call
  exact @requireNonEmptyText_of_visible _ _ _ 'R' last (by decide) ends (by decide) visible

end References

/-! What each operation does when it succeeds. -/

namespace ManualFeePayments

variable {runtime : BillingRuntime} {db after : BillingDb} {result : ManualFeePaymentEntity}
  {payment : ManualFeePaymentEntity} {amountMinor : Nat}
  {change : ManualFeePaymentEntity → ManualFeePaymentEntity}

theorem insertPayment_ok
    (succeeded : (insertPayment payment).run db = .ok (result, after)) :
    (result ∈ db.manualFeePayments.rows ∧ result.idempotencyKey = payment.idempotencyKey ∧ after = db) ∨
      result = payment ∧ (∀ other ∈ db.manualFeePayments.rows, other.idempotencyKey ≠ payment.idempotencyKey) ∧
        (∀ other ∈ db.manualFeePayments.rows, other.receiptNumber ≠ payment.receiptNumber) ∧
        ∃ fresh, after = { db with manualFeePayments := db.manualFeePayments.insert payment fresh } := by
  simp only [insertPayment, run_bind_ok, run_current_ok] at succeeded
  obtain ⟨_, _, ⟨rfl, rfl⟩, rest⟩ := succeeded
  split at rest
  · next existing found =>
    simp only [run_pure_ok] at rest
    obtain ⟨rfl, rfl⟩ := rest
    exact .inl ⟨List.mem_of_find?_eq_some found, by simpa using List.find?_some found, rfl⟩
  · next absent =>
    simp only [run_bind_ok, run_failIf_ok] at rest
    obtain ⟨_, _, ⟨freshNumber, rfl⟩, _, _, ⟨-, rfl⟩, rest⟩ := rest
    split at rest
    · simp only [run_fail_ok] at rest
    · next table inserted =>
      simp only [run_bind_ok, run_write_ok, run_pure_ok] at rest
      obtain ⟨_, _, rfl, rfl, rfl⟩ := rest
      obtain ⟨fresh, rfl⟩ := (tryInsert_eq_some _).mp inserted
      exact .inr ⟨rfl, by simpa using absent, by simpa using freshNumber, fresh, rfl⟩

theorem create_ok {call : ManualCall} {dto : CreateManualFeePaymentDto} {receivedAt : Int}
    (succeeded : (create runtime call dto amountMinor receivedAt).run db = .ok (result, after)) :
    (result ∈ db.manualFeePayments.rows ∧ result.idempotencyKey = trim dto.idempotencyKey ∧ after = db) ∨
      ∃ studentId invoiceId positive, result = receivedPayment call dto studentId invoiceId amountMinor receivedAt positive ∧
        (∀ other ∈ db.manualFeePayments.rows, other.idempotencyKey ≠ trim dto.idempotencyKey) ∧
        (∀ other ∈ db.manualFeePayments.rows, other.receiptNumber ≠ generateReceiptNumber call) ∧
        ∃ fresh, after = { db with manualFeePayments := db.manualFeePayments.insert result fresh } := by
  simp only [create, run_bind_ok, run_lift_ok, run_failIf_ok] at succeeded
  obtain ⟨studentId, _, ⟨-, rfl⟩, invoiceId, _, ⟨-, rfl⟩, _, _, ⟨-, rfl⟩, _, _, ⟨-, rfl⟩, rest⟩ := succeeded
  split at rest
  · next positive =>
    rcases insertPayment_ok rest with existing | ⟨rfl, freshKey, freshNumber, inserted⟩
    · exact .inl existing
    · exact .inr ⟨studentId, invoiceId, positive, rfl, freshKey, freshNumber, inserted⟩
  · simp only [run_fail_ok] at rest

theorem updatePayment_ok {id : String}
    {kept : ∀ payment, (change payment).id = payment.id}
    (succeeded : (updatePayment id change kept).run db = .ok (result, after)) :
    ∃ payment ∈ db.manualFeePayments.rows, payment.id = id ∧ result = change payment ∧
      after = { db with manualFeePayments := db.manualFeePayments.update id change kept } := by
  simp only [updatePayment, run_bind_ok, run_current_ok] at succeeded
  obtain ⟨_, _, ⟨rfl, rfl⟩, rest⟩ := succeeded
  split at rest
  · simp only [run_fail_ok] at rest
  · next payment found =>
    simp only [run_bind_ok, run_write_ok, run_pure_ok] at rest
    obtain ⟨_, _, rfl, rfl, rfl⟩ := rest
    obtain ⟨member, same⟩ := (find_eq_some _).mp found
    exact ⟨payment, member, same, rfl, rfl⟩

theorem updatePayment_put
    {kept : ∀ payment, (change payment).id = payment.id} (member : payment ∈ db.manualFeePayments.rows)
    (succeeded : (updatePayment payment.id change kept).run db = .ok (result, after)) :
    result = change payment ∧ db.manualFeePayments.Put payment.id (change payment) after.manualFeePayments := by
  obtain ⟨old, present, same, rfl, rfl⟩ := updatePayment_ok succeeded
  obtain rfl := eq_of_key present member same
  exact ⟨rfl, KeyedTable.Put.update change kept member rfl⟩

theorem createAllocation_ok {manualPaymentId : String} {invoiceId studentId : Option String}
    {allocationType : ManualFeePaymentAllocationType}
    (succeeded : (createAllocation runtime manualPaymentId invoiceId studentId allocationType amountMinor).run db =
      .ok ((), after)) : ∃ manualAllocations, after = { db with manualAllocations } := by
  simp only [createAllocation, run_bind_ok, run_lift_ok, run_failIf_ok, run_current_ok] at succeeded
  obtain ⟨_, _, ⟨-, rfl⟩, _, _, ⟨-, rfl⟩, _, _, ⟨rfl, rfl⟩, rest⟩ := succeeded
  split at rest
  · simp only [run_ite_ok, run_pure_ok, run_write_ok] at rest
    rcases rest with ⟨-, -, rfl⟩ | ⟨-, rfl⟩
    · exact ⟨_, rfl⟩
    · exact ⟨_, rfl⟩
  · simp only [run_fail_ok] at rest

end ManualFeePayments

theorem settleReceipt_payments {application : Application} (succeeded : (settleReceipt runtime payment application).run db = .ok ((), after)) :
    after.manualFeePayments = db.manualFeePayments := by
  simp only [settleReceipt, applyManualFeeInvoicePayment, updateInvoice, run_bind_ok, run_write_ok] at succeeded
  obtain ⟨_, _, rfl, allocated⟩ := succeeded
  obtain ⟨_, rfl⟩ := createAllocation_ok allocated
  rfl

theorem allocateClearedPayment_payments {locked : String → Bool} {count : Nat}
    (succeeded : (allocateClearedPayment runtime locked payment).run db = .ok (count, after)) :
    after.manualFeePayments = db.manualFeePayments := by
  simp only [allocateClearedPayment, creditOverage, run_bind_ok, run_current_ok, run_lift_ok, run_ite_ok,
    run_pure_ok] at succeeded
  obtain ⟨_, _, ⟨rfl, rfl⟩, invoices, _, ⟨-, rfl⟩, spread, middle, looped, _, _, credited, -, rfl⟩ := succeeded
  have settled : middle.manualFeePayments = db.manualFeePayments := by
    refine @allocateRemaining_preserves _ _ (fun _ _ later => later.manualFeePayments = db.manualFeePayments)
      (fun _ _ _ _ same => same) ?_ _ _ _ _ _ rfl looped
    intro _ _ _ before later _ _ same applied
    exact (settleReceipt_payments applied).trans same
  rcases credited with ⟨-, allocated⟩ | ⟨-, -, rfl⟩
  · obtain ⟨_, rfl⟩ := createAllocation_ok allocated
    exact settled
  · exact settled

theorem reverseAllocations_payments {allocations : List ManualFeePaymentAllocationEntity}
    (succeeded : (reverseAllocations allocations).run db = .ok ((), after)) :
    after.manualFeePayments = db.manualFeePayments := by
  induction allocations generalizing db with
  | nil =>
    simp only [reverseAllocations, run_pure_ok, true_and] at succeeded
    rw [succeeded]
  | cons allocation allocations ih =>
    simp only [reverseAllocations, run_bind_ok] at succeeded
    obtain ⟨_, middle, first, rest⟩ := succeeded
    rw [ih rest]
    unfold reverseAllocation at first
    split at first
    · simp only [reverseManualFeeInvoicePayment, updateInvoice, run_write_ok] at first
      subst first
      rfl
    · simp only [run_pure_ok, true_and] at first
      subst first
      rfl

section Calls

variable {runtime : BillingRuntime} {call : ManualCall} {dto : UpdateManualFeePaymentStatusDto} {db after : TenantDb}
  {paymentId : String} {payment result : ManualFeePaymentEntity} {posted : PostedFinancialTransaction}

theorem requireAccount_ok {accountCode : String} {account : AccountEntity}
    (found : requireAccount db accountCode = .ok account) : findByCode db accountCode = some account := by
  unfold requireAccount at found
  split at found
  · next known =>
    simp only [pure_ok] at found
    rw [known, found]
  · simp only [fail_ok] at found

theorem requireLockedPayment_ok (found : requireLockedPayment paymentId db = .ok payment) :
    payment ∈ db.billing.manualFeePayments.rows ∧ payment.id = paymentId := by
  unfold requireLockedPayment at found
  split at found
  · next known =>
    simp only [pure_ok] at found
    subst found
    exact (find_eq_some _).mp known
  · simp only [fail_ok] at found

theorem postReceiptTransaction_ok
    (succeeded : (postReceiptTransaction runtime call payment dto).run db = .ok (posted, after)) :
    ∃ assetAccount feeControlAccount effectiveAt finance,
      findByCode db payment.assetAccountCode = some assetAccount ∧
      findByCode db payment.feeControlAccountCode = some feeControlAccount ∧
      (postTransaction runtime.toRuntime call.toCallContext (receiptPosting payment dto.depositReference effectiveAt
        assetAccount feeControlAccount)).run db.finance = .ok (posted, finance) ∧
      after = { db with finance } := by
  simp only [postReceiptTransaction, run_bind_ok, run_current_ok, run_lift_ok, onFinance_ok] at succeeded
  obtain ⟨_, _, ⟨rfl, rfl⟩, asset, _, ⟨assetFound, rfl⟩, control, _, ⟨controlFound, rfl⟩, effectiveAt, _, ⟨-, rfl⟩,
    finance, posting, rfl⟩ := succeeded
  exact ⟨asset, control, effectiveAt, finance, requireAccount_ok assetFound, requireAccount_ok controlFound, posting, rfl⟩

theorem postReversalTransaction_ok
    (succeeded : (postReversalTransaction runtime call payment dto).run db = .ok (posted, after)) :
    ∃ assetAccount feeControlAccount effectiveAt finance,
      findByCode db payment.assetAccountCode = some assetAccount ∧
      findByCode db payment.feeControlAccountCode = some feeControlAccount ∧
      (postTransaction runtime.toRuntime call.toCallContext (reversalPosting payment dto.notes effectiveAt
        assetAccount feeControlAccount)).run db.finance = .ok (posted, finance) ∧
      after = { db with finance } := by
  simp only [postReversalTransaction, run_bind_ok, run_current_ok, run_lift_ok, onFinance_ok] at succeeded
  obtain ⟨_, _, ⟨rfl, rfl⟩, asset, _, ⟨assetFound, rfl⟩, control, _, ⟨controlFound, rfl⟩, effectiveAt, _, ⟨-, rfl⟩,
    finance, posting, rfl⟩ := succeeded
  exact ⟨asset, control, effectiveAt, finance, requireAccount_ok assetFound, requireAccount_ok controlFound, posting, rfl⟩

structure Clears (runtime : BillingRuntime) (call : ManualCall) (payment : ManualFeePaymentEntity)
    (dto : UpdateManualFeePaymentStatusDto) (db : TenantDb) (result : ManualFeePaymentEntity) (after : TenantDb) :
    Prop where
  open_ : payment.status = .received ∨ payment.status = .deposited
  done : ∃ posted middle count billing clearedAt,
    (postReceiptTransaction runtime call payment dto).run db = .ok (posted, middle) ∧
    (allocateClearedPayment runtime call.locked payment).run db.billing = .ok (count, billing) ∧
    (markCleared payment.id posted.transactionId clearedAt (readString dto.depositReference) (readString dto.notes)
      ((dto.metadata.getD []).set "allocation_count" (.num (JsNumber.ofNat count)))).run billing =
        .ok (result, after.billing) ∧
    after = { middle with billing := after.billing }

theorem clearLockedPayment_ok (succeeded : (clearLockedPayment runtime call payment dto).run db = .ok (result, after)) :
    (payment.status = .cleared ∧ result = payment ∧ after = db) ∨ Clears runtime call payment dto db result after := by
  simp only [clearLockedPayment, run_ite_ok, run_bind_ok, run_pure_ok, run_failIf_ok, run_lift_ok, onBilling_ok]
    at succeeded
  rcases succeeded with ⟨cleared, rfl, rfl⟩ | ⟨-, _, _, ⟨open_, rfl⟩, posted, middle, posting, count, _,
    ⟨billing, allocated, rfl⟩, clearedAt, _, ⟨-, rfl⟩, last, marked, rfl⟩
  · exact .inl ⟨cleared, rfl, rfl⟩
  · obtain ⟨_, _, _, finance, _, _, _, rfl⟩ := postReceiptTransaction_ok posting
    refine .inr ⟨(not_and_or.mp open_).imp not_not.mp not_not.mp, posted, _, count, billing, clearedAt, posting, allocated, marked, rfl⟩

theorem createManualFeePayment_ok {dto : CreateManualFeePaymentDto}
    (succeeded : (createManualFeePayment runtime call dto).run db = .ok (result, after)) :
    ∃ amountMinor receivedAt payment billing,
      normalizeMinorAmount "Manual fee amount must be a positive integer in minor units" dto.amountMinor =
        .ok amountMinor ∧
      (create runtime call dto amountMinor receivedAt).run db.billing = .ok (payment, billing) ∧
      ((payment.status = .cleared ∨ payment.status = .reversed ∨ payment.paymentMethod = .cheque) ∧
        result = payment ∧ after = { db with billing } ∨
      (clearLockedPayment runtime call payment
        { occurredAt := dto.receivedAt
          depositReference := dto.depositReference
          notes := dto.notes
          metadata := some [("cleared_on_create", .bool true)] }).run { db with billing } = .ok (result, after)) := by
  simp only [createManualFeePayment, run_bind_ok, run_lift_ok, onBilling_ok, run_ite_ok, run_pure_ok] at succeeded
  obtain ⟨_, _, ⟨-, rfl⟩, _, _, ⟨-, rfl⟩, amountMinor, _, ⟨normal, rfl⟩, receivedAt, _, ⟨-, rfl⟩, payment, _,
    ⟨billing, created, rfl⟩, rest⟩ := succeeded
  refine ⟨amountMinor, receivedAt, payment, billing, normal, created, ?_⟩
  rcases rest with ⟨kept, rfl, rfl⟩ | ⟨-, cleared⟩
  · exact .inl ⟨kept, rfl, rfl⟩
  · exact .inr cleared

theorem depositManualFeePayment_ok
    (succeeded : (depositManualFeePayment runtime call paymentId dto).run db = .ok (result, after)) :
    ∃ payment ∈ db.billing.manualFeePayments.rows, payment.id = paymentId ∧ payment.paymentMethod = .cheque ∧
      payment.status = .received ∧ ∃ depositedAt billing, (markDeposited paymentId depositedAt
        (readString dto.depositReference) (readString dto.notes) (dto.metadata.getD [])).run db.billing =
          .ok (result, billing) ∧ after = { db with billing } := by
  simp only [depositManualFeePayment, run_bind_ok, run_current_ok, run_lift_ok, run_failIf_ok, not_not, onBilling_ok]
    at succeeded
  obtain ⟨_, _, ⟨rfl, rfl⟩, payment, _, ⟨found, rfl⟩, _, _, ⟨cheque, rfl⟩, _, _, ⟨received, rfl⟩, depositedAt, _,
    ⟨-, rfl⟩, billing, marked, rfl⟩ := succeeded
  obtain ⟨member, same⟩ := requireLockedPayment_ok found
  exact ⟨payment, member, same, cheque, received, depositedAt, billing, marked, rfl⟩

theorem clearManualFeePayment_ok
    (succeeded : (clearManualFeePayment runtime call paymentId dto).run db = .ok (result, after)) :
    ∃ payment ∈ db.billing.manualFeePayments.rows, payment.id = paymentId ∧
      (clearLockedPayment runtime call payment dto).run db = .ok (result, after) := by
  simp only [clearManualFeePayment, run_bind_ok, run_current_ok, run_lift_ok] at succeeded
  obtain ⟨_, _, ⟨rfl, rfl⟩, payment, _, ⟨found, rfl⟩, cleared⟩ := succeeded
  obtain ⟨member, same⟩ := requireLockedPayment_ok found
  exact ⟨payment, member, same, cleared⟩

theorem bounceManualFeePayment_ok
    (succeeded : (bounceManualFeePayment runtime call paymentId dto).run db = .ok (result, after)) :
    ∃ payment ∈ db.billing.manualFeePayments.rows, payment.id = paymentId ∧ payment.paymentMethod = .cheque ∧
      (payment.status = .received ∨ payment.status = .deposited) ∧ ∃ bouncedAt billing,
        (markBounced paymentId bouncedAt (readString dto.notes) (dto.metadata.getD [])).run db.billing =
          .ok (result, billing) ∧ after = { db with billing } := by
  simp only [bounceManualFeePayment, run_bind_ok, run_current_ok, run_lift_ok, run_failIf_ok, not_not, onBilling_ok]
    at succeeded
  obtain ⟨_, _, ⟨rfl, rfl⟩, payment, _, ⟨found, rfl⟩, _, _, ⟨cheque, rfl⟩, _, _, ⟨open_, rfl⟩, bouncedAt, _,
    ⟨-, rfl⟩, billing, marked, rfl⟩ := succeeded
  obtain ⟨member, same⟩ := requireLockedPayment_ok found
  exact ⟨payment, member, same, cheque, (not_and_or.mp open_).imp not_not.mp not_not.mp, bouncedAt, billing, marked, rfl⟩

theorem reverseManualFeePayment_ok
    (succeeded : (reverseManualFeePayment runtime call paymentId dto).run db = .ok (result, after)) :
    ∃ payment ∈ db.billing.manualFeePayments.rows, payment.id = paymentId ∧ payment.status = .cleared ∧
      ∃ posted middle billing reversedAt,
        (postReversalTransaction runtime call payment dto).run db = .ok (posted, middle) ∧
        (reverseAllocations (listAllocations db.billing payment.id)).run db.billing = .ok ((), billing) ∧
        (markReversed payment.id posted.transactionId reversedAt (readString dto.notes) (dto.metadata.getD [])).run
          billing = .ok (result, after.billing) ∧
        after = { middle with billing := after.billing } := by
  simp only [reverseManualFeePayment, run_bind_ok, run_current_ok, run_lift_ok, run_failIf_ok, not_not, onBilling_ok]
    at succeeded
  obtain ⟨_, _, ⟨rfl, rfl⟩, payment, _, ⟨found, rfl⟩, _, _, ⟨cleared, rfl⟩, posted, middle, posting, _, _,
    ⟨billing, reversed, rfl⟩, reversedAt, _, ⟨-, rfl⟩, last, marked, rfl⟩ := succeeded
  obtain ⟨member, same⟩ := requireLockedPayment_ok found
  obtain ⟨_, _, _, finance, _, _, _, rfl⟩ := postReversalTransaction_ok posting
  exact ⟨payment, member, same, cleared, posted, _, billing, reversedAt, posting, reversed, marked, rfl⟩

end Calls

end ShuleHub.Billing
