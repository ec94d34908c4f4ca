import ShuleHub.Billing.ManualFeePayments

/-! Payments that parents make straight to the paybill of a school: a confirmation records the payment,
finds the invoice or the student it is for, and receipts it; what it cannot match waits for an accountant. -/

namespace ShuleHub.Payments

open Transaction Finance Billing JsText Outcome

inductive MpesaC2bPaymentStatus where
  | pendingReview
  | matched
  | rejected
deriving DecidableEq

def MpesaC2bPaymentStatus.text : MpesaC2bPaymentStatus → String
  | .pendingReview => "pending_review"
  | .matched => "matched"
  | .rejected => "rejected"

structure MpesaC2bPaymentEntity where
  id : String
  mpesaConfigId : Option String
  paymentChannelId : Option String
  transId : String
  transactionType : String
  businessShortCode : String
  billRefNumber : Option String
  invoiceNumber : Option String
  amountMinor : Nat
  currencyCode : String
  phoneNumber : Option String
  payerName : Option String
  orgAccountBalance : Option String
  thirdPartyTransId : Option String
  status : MpesaC2bPaymentStatus
  matchedInvoiceId : Option String
  matchedStudentId : Option String
  manualFeePaymentId : Option String
  ledgerTransactionId : Option String
  receivedAt : Int
  matchedAt : Option Int
  rawPayload : Metadata
  metadata : Metadata
  createdAt : Int
  amountPositive : 0 < amountMinor

structure StudentEntity where
  id : String
  admissionNumber : String
  status : String

structure C2bDb where
  tenant : TenantDb
  students : List StudentEntity
  c2bPayments : KeyedTable MpesaC2bPaymentEntity String MpesaC2bPaymentEntity.id

def onC2bTenant {A : Type} (action : Transaction TenantDb Exception A) : Transaction C2bDb Exception A :=
  zoom (·.tenant) (fun db tenant => { db with tenant }) action

@[simp] theorem onC2bTenant_ok {A : Type} {action : Transaction TenantDb Exception A} {result : A} {db after : C2bDb} :
    (onC2bTenant action).run db = .ok (result, after) ↔
      ∃ tenant, action.run db.tenant = .ok (result, tenant) ∧ after = { db with tenant } :=
  run_zoom_ok

structure ResolvedTenantMpesaConfig where
  tenantId : String
  mpesaConfigId : Option String
  paymentChannelId : Option String
  ledgerDebitAccountCode : String
  ledgerCreditAccountCode : String

structure C2bRuntime extends BillingRuntime where
  resolveMpesaConfigByShortcode : String → Except Exception ResolvedTenantMpesaConfig

structure C2bCall extends ManualCall where
  newC2bPaymentId : String

structure ParsedMpesaC2bPayment where
  transactionType : String
  transId : String
  transactionOccurredAt : Int
  amountMinor : Nat
  businessShortCode : String
  billRefNumber : Option String
  invoiceNumber : Option String
  orgAccountBalance : Option String
  thirdPartyTransId : Option String
  phoneNumber : Option String
  payerName : Option String
  metadata : Metadata
  amountPositive : 0 < amountMinor

namespace MpesaC2b

variable (value : Option Json) (payload : Metadata)

@[grind =] def optionalText : Option String :=
  match value with
  | some (.str text) => readString (some text)
  | some (.num number) => readString (some number.text)
  | _ => none

def requireText (field : String) : Except Exception String :=
  match optionalText value with
  | some text => return text
  | none => fail (.badRequest (field ++ " is required"))

def parseSafaricomTimestamp (value : String) : Except Exception Int := do
  failIf (¬ (value.toList.length = 14 ∧ value.toList.all Char.isDigit = true))
    (.badRequest "TransTime must use Safaricom yyyyMMddHHmmss format")
  let part (first last : Nat) : Int := JsText.decimalValue (String.ofList ((value.toList.take last).drop first))
  return JsDate.utc (part 0 4) (part 4 6 - 1) (part 6 8) (part 8 10 - 3) (part 10 12) (part 12 14)

def parseHundredths (text : String) : Option Nat :=
  let (major, rest) := text.toList.span (· ≠ '.')
  let fractional := rest.drop 1
  if major ≠ [] ∧ major.all Char.isDigit = true ∧
      (rest = [] ∨ fractional ≠ [] ∧ fractional.length ≤ 2 ∧ fractional.all Char.isDigit = true) then
    some (JsText.decimalValue (String.ofList major) * 100 +
      JsText.decimalValue (String.ofList ((fractional ++ ['0', '0']).take 2)))
  else none

def parseAmountMinor : Except Exception { amountMinor : Nat // 0 < amountMinor } := do
  let normalized ← requireText value "TransAmount"
  match parseHundredths (String.ofList (normalized.toList.filter (· ≠ ','))) with
  | none => fail (.badRequest "TransAmount must be a positive monetary amount")
  | some amountMinor =>
    if positive : 0 < amountMinor then return ⟨amountMinor, positive⟩
    else fail (.badRequest "TransAmount must be greater than zero")

def coreKeys : List String :=
  ["TransactionType", "TransID", "TransTime", "TransAmount", "BusinessShortCode", "BillRefNumber", "InvoiceNumber",
    "OrgAccountBalance", "ThirdPartyTransID", "MSISDN", "FirstName", "MiddleName", "LastName"]

def extractExtraMetadata : Metadata := payload.filter fun field => field.1 ∉ coreKeys

def payerName : Option String :=
  let names := [payload.get? "FirstName", payload.get? "MiddleName", payload.get? "LastName"].filterMap optionalText
  if names = [] then none else some (String.intercalate " " names)

def parseC2bPayload : Except Exception ParsedMpesaC2bPayment := do
  let transactionType ← requireText (payload.get? "TransactionType") "TransactionType"
  let transId ← requireText (payload.get? "TransID") "TransID"
  let transTime ← requireText (payload.get? "TransTime") "TransTime"
  let amountMinor ← parseAmountMinor (payload.get? "TransAmount")
  let businessShortCode ← requireText (payload.get? "BusinessShortCode") "BusinessShortCode"
  let transactionOccurredAt ← parseSafaricomTimestamp transTime
  return {
    transactionType
    transId
    transactionOccurredAt
    amountMinor := amountMinor.val
    businessShortCode
    billRefNumber := optionalText (payload.get? "BillRefNumber")
    invoiceNumber := optionalText (payload.get? "InvoiceNumber")
    orgAccountBalance := optionalText (payload.get? "OrgAccountBalance")
    thirdPartyTransId := optionalText (payload.get? "ThirdPartyTransID")
    phoneNumber := optionalText (payload.get? "MSISDN")
    payerName := payerName payload
    metadata := extractExtraMetadata payload
    amountPositive := amountMinor.property }

def findByTransId (db : C2bDb) (transId : String) : Option MpesaC2bPaymentEntity :=
  db.c2bPayments.rows.find? fun payment => payment.transId = transId

def receivedPayment (call : C2bCall) (mpesaConfig : ResolvedTenantMpesaConfig) (payload : Metadata)
    (parsed : ParsedMpesaC2bPayment) : MpesaC2bPaymentEntity where
  id := call.newC2bPaymentId
  mpesaConfigId := mpesaConfig.mpesaConfigId
  paymentChannelId := mpesaConfig.paymentChannelId
  transId := parsed.transId
  transactionType := parsed.transactionType
  businessShortCode := parsed.businessShortCode
  billRefNumber := parsed.billRefNumber
  invoiceNumber := parsed.invoiceNumber
  amountMinor := parsed.amountMinor
  currencyCode := "KES"
  phoneNumber := parsed.phoneNumber
  payerName := parsed.payerName
  orgAccountBalance := parsed.orgAccountBalance
  thirdPartyTransId := parsed.thirdPartyTransId
  status := .pendingReview
  matchedInvoiceId := none
  matchedStudentId := none
  manualFeePaymentId := none
  ledgerTransactionId := none
  receivedAt := parsed.transactionOccurredAt
  matchedAt := none
  rawPayload := payload
  metadata := parsed.metadata
  createdAt := call.now
  amountPositive := parsed.amountPositive

/-- `INSERT ... ON CONFLICT (tenant_id, trans_id) DO NOTHING`, which found `conflicting` under its key: the row,
and whether it is a new one. -/
def createReceived (payment : MpesaC2bPaymentEntity) (conflicting : Option MpesaC2bPaymentEntity) :
    Transaction C2bDb Exception (MpesaC2bPaymentEntity × Bool) := do
  failIf (bigintLimit ≤ payment.amountMinor) (.database "bigint out of range")
  match conflicting with
  | some existing => return (existing, false)
  | none =>
    let db ← current
    match db.c2bPayments.tryInsert payment with
    | none => fail (.database "mpesa_c2b_payments_pkey")
    | some c2bPayments =>
      write fun db => { db with c2bPayments }
      return (payment, true)

def updatePayment (id : String) (change : MpesaC2bPaymentEntity → MpesaC2bPaymentEntity)
    (kept : ∀ payment, (change payment).id = payment.id) : Transaction C2bDb Exception MpesaC2bPaymentEntity := do
  let db ← current
  match db.c2bPayments.find id with
  | none => fail (.internal "M-PESA C2B payment row is missing")
  | some payment =>
    write fun db => { db with c2bPayments := db.c2bPayments.update id change kept }
    return change payment

def awaitReview (reason : String) (metadata : Metadata) (payment : MpesaC2bPaymentEntity) : MpesaC2bPaymentEntity :=
  { payment with
    status := .pendingReview
    metadata := Metadata.merge (payment.metadata.set "review_reason" (.str reason)) metadata }

def settle (now : Int) (matchedInvoiceId matchedStudentId : Option String) (manualFeePaymentId : String)
    (ledgerTransactionId : Option String) (metadata : Metadata) (payment : MpesaC2bPaymentEntity) :
    MpesaC2bPaymentEntity :=
  { payment with
    status := .matched
    matchedInvoiceId
    matchedStudentId
    manualFeePaymentId := some manualFeePaymentId
    ledgerTransactionId
    matchedAt := some now
    metadata := payment.metadata.merge metadata }

def markPendingReview (paymentId reason : String) (metadata : Metadata) :
    Transaction C2bDb Exception MpesaC2bPaymentEntity :=
  updatePayment paymentId (awaitReview reason metadata) fun _ => rfl

def markMatched (now : Int) (paymentId : String) (matchedInvoiceId matchedStudentId : Option String)
    (manualFeePaymentId : String) (ledgerTransactionId : Option String) (metadata : Metadata) :
    Transaction C2bDb Exception MpesaC2bPaymentEntity :=
  updatePayment paymentId (settle now matchedInvoiceId matchedStudentId manualFeePaymentId ledgerTransactionId metadata)
    fun _ => rfl

def findManualFeeInvoiceTargetByReference (runtime : C2bRuntime) (db : BillingDb) (reference : String) :
    Option InvoiceEntity :=
  let trimmedReference := JsText.trim reference
  ((db.invoices.rows.filter fun invoice =>
    (invoice.invoiceNumber = trimmedReference || invoice.metadata.text "external_reference" = some trimmedReference ||
      invoice.metadata.text "account_reference" = some trimmedReference ||
      (isUuid trimmedReference && runtime.uuid trimmedReference = some invoice.id)) &&
    invoice.isPayable && invoice.amountPaidMinor < invoice.totalAmountMinor).insertionSort Invoices.dueBefore).head?

def findStudentByAdmissionNumber (db : C2bDb) (reference : String) : Option StudentEntity :=
  db.students.find? fun student => student.admissionNumber = reference ∧ student.status = "active"

structure AllocationTarget where
  invoiceId : Option String
  studentId : Option String
  matchingStrategy : String

def resolveAllocationTarget (runtime : C2bRuntime) (db : C2bDb) (parsed : ParsedMpesaC2bPayment) : AllocationTarget :=
  match readString parsed.billRefNumber <|> readString parsed.invoiceNumber with
  | none => ⟨none, none, "missing_reference"⟩
  | some reference =>
    match findManualFeeInvoiceTargetByReference runtime db.tenant.billing reference with
    | some invoice => ⟨some invoice.id, invoice.studentId, "invoice_reference"⟩
    | none =>
      match findStudentByAdmissionNumber db reference with
      | some student => ⟨none, some student.id, "student_admission_number"⟩
      | none => ⟨none, none, "unmatched_reference"⟩

structure MpesaC2bConfirmationResult where
  duplicate : Bool
  status : MpesaC2bPaymentStatus
  mpesaC2bPaymentId : String
  manualFeePaymentId : Option String
  ledgerTransactionId : Option String

def confirmationResult (duplicate : Bool) (payment : MpesaC2bPaymentEntity) : MpesaC2bConfirmationResult where
  duplicate
  status := payment.status
  mpesaC2bPaymentId := payment.id
  manualFeePaymentId := payment.manualFeePaymentId
  ledgerTransactionId := payment.ledgerTransactionId

def manualKey (tenantId transId : String) : String := "mpesa-c2b:" ++ tenantId ++ ":" ++ transId

def codeOr (code fallback : String) : String := if code = "" then fallback else code

def confirmationReceipt (mpesaConfig : ResolvedTenantMpesaConfig) (parsed : ParsedMpesaC2bPayment)
    (paymentId : String) (target : AllocationTarget) : CreateManualFeePaymentDto where
  idempotencyKey := manualKey mpesaConfig.tenantId parsed.transId
  paymentMethod := .mpesaC2b
  amountMinor := toString parsed.amountMinor
  studentId := target.studentId
  invoiceId := target.invoiceId
  payerName := parsed.payerName <|> parsed.phoneNumber
  receivedAt := some (JsDate.toISOString parsed.transactionOccurredAt)
  chequeNumber := none
  drawerBank := none
  depositReference := some parsed.transId
  externalReference := some parsed.transId
  assetAccountCode := some (codeOr mpesaConfig.ledgerDebitAccountCode "1110-MPESA-CLEARING")
  feeControlAccountCode := some (codeOr mpesaConfig.ledgerCreditAccountCode "1100-AR-FEES")
  notes := some ("M-PESA Paybill " ++ parsed.businessShortCode ++ " payment " ++ parsed.transId)
  metadata := some [
    ("source", .str "mpesa_c2b"),
    ("mpesa_c2b_payment_id", .str paymentId),
    ("business_short_code", .str parsed.businessShortCode),
    ("bill_ref_number", jsonText parsed.billRefNumber),
    ("invoice_number", jsonText parsed.invoiceNumber),
    ("phone_number", jsonText parsed.phoneNumber)]

def receiptConfirmation (runtime : C2bRuntime) (call : C2bCall) (mpesaConfig : ResolvedTenantMpesaConfig)
    (parsed : ParsedMpesaC2bPayment) (paymentId : String) (target : AllocationTarget) :
    Transaction C2bDb Exception MpesaC2bPaymentEntity := do
  let manualPayment ← onC2bTenant (createManualFeePayment runtime.toBillingRuntime call.toManualCall
    (confirmationReceipt mpesaConfig parsed paymentId target))
  markMatched call.now paymentId target.invoiceId target.studentId manualPayment.id manualPayment.ledgerTransactionId
    [("matching_strategy", .str target.matchingStrategy)]

def noTarget (target : AllocationTarget) : Prop := target.invoiceId = none ∧ target.studentId = none
deriving Decidable

def allocateConfirmation (runtime : C2bRuntime) (call : C2bCall) (mpesaConfig : ResolvedTenantMpesaConfig)
    (parsed : ParsedMpesaC2bPayment) (paymentId : String) (target : AllocationTarget) :
    Transaction C2bDb Exception MpesaC2bPaymentEntity :=
  if noTarget target then
    markPendingReview paymentId "no_invoice_or_student_match" [
      ("bill_ref_number", jsonText parsed.billRefNumber),
      ("invoice_number", jsonText parsed.invoiceNumber)]
  else
    receiptConfirmation runtime call mpesaConfig parsed paymentId target

/-- What a confirmation finds while it runs: the first two are the row of its payment, before the statement that
inserts it and under the key of that statement. -/
structure ConfirmationReads where
  existing : Option MpesaC2bPaymentEntity
  conflicting : Option MpesaC2bPaymentEntity
  target : AllocationTarget

def recordConfirmation (runtime : C2bRuntime) (call : C2bCall) (mpesaConfig : ResolvedTenantMpesaConfig)
    (payload : Metadata) (parsed : ParsedMpesaC2bPayment) (reads : ConfirmationReads) :
    Transaction C2bDb Exception MpesaC2bConfirmationResult :=
  match reads.existing with
  | some existingPayment => return confirmationResult true existingPayment
  | none => do
    let (payment, inserted) ← createReceived (receivedPayment call mpesaConfig payload parsed) reads.conflicting
    if inserted then
      let settled ← allocateConfirmation runtime call mpesaConfig parsed payment.id reads.target
      return confirmationResult false settled
    else
      return confirmationResult true payment

/-- A confirmation for the tenant of `runtime`, whose tables it then works on. -/
def ownConfirmation (runtime : C2bRuntime) (payload : Metadata) :
    Except Exception (Option (ParsedMpesaC2bPayment × ResolvedTenantMpesaConfig)) := do
  let parsed ← parseC2bPayload payload
  let mpesaConfig ← runtime.resolveMpesaConfigByShortcode parsed.businessShortCode
  return if mpesaConfig.tenantId = runtime.tenantId then some (parsed, mpesaConfig) else none

def confirm (runtime : C2bRuntime) (call : C2bCall) (payload : Metadata)
    (reads : ParsedMpesaC2bPayment → ConfirmationReads) :
    Transaction C2bDb Exception (Option MpesaC2bConfirmationResult) := do
  let own ← ownConfirmation runtime payload
  match own with
  | none => return none
  | some (parsed, mpesaConfig) =>
    let result ← recordConfirmation runtime call mpesaConfig payload parsed (reads parsed)
    return some result

def processConfirmation (runtime : C2bRuntime) (call : C2bCall) (payload : Metadata) (seen : C2bDb) :
    Transaction C2bDb Exception (Option MpesaC2bConfirmationResult) := do
  let db ← current
  confirm runtime call payload fun parsed => {
    existing := findByTransId seen parsed.transId
    conflicting := findByTransId db parsed.transId
    target := resolveAllocationTarget runtime seen parsed }

structure ReconcileMpesaC2bPaymentDto where
  invoiceId : Option String
  studentId : Option String
  notes : Option String

/-- The student of a reconciliation: the one that is named, or the one of the invoice. -/
def reconciledStudent (db : C2bDb) (dto : ReconcileMpesaC2bPaymentDto) : Except Exception (Option String) :=
  match dto.invoiceId.filter (· ≠ "") with
  | none => return dto.studentId
  | some invoiceId =>
    match Invoices.lockManualFeeInvoiceForAllocation db.tenant.billing invoiceId with
    | none => fail (.notFound ("Invoice \"" ++ invoiceId ++ "\" was not found or has no balance"))
    | some invoice => do
      failIf (dto.studentId.any (· ≠ "") ∧ invoice.studentId ≠ none ∧ dto.studentId ≠ invoice.studentId)
        (.badRequest "Selected student does not match the selected invoice")
      return dto.studentId <|> invoice.studentId

def reconciliationReceipt (tenantId : String) (mpesaConfig : ResolvedTenantMpesaConfig)
    (payment : MpesaC2bPaymentEntity) (invoiceId studentId notes : Option String) : CreateManualFeePaymentDto where
  idempotencyKey := manualKey tenantId payment.transId
  paymentMethod := .mpesaC2b
  amountMinor := toString payment.amountMinor
  studentId
  invoiceId
  payerName := payment.payerName <|> payment.phoneNumber
  receivedAt := some (JsDate.toISOString payment.receivedAt)
  chequeNumber := none
  drawerBank := none
  depositReference := some payment.transId
  externalReference := some payment.transId
  assetAccountCode := some (codeOr mpesaConfig.ledgerDebitAccountCode "1110-MPESA-CLEARING")
  feeControlAccountCode := some (codeOr mpesaConfig.ledgerCreditAccountCode "1100-AR-FEES")
  notes := readString notes <|> some ("M-PESA Paybill " ++ payment.businessShortCode ++ " payment " ++ payment.transId)
  metadata := some [
    ("source", .str "mpesa_c2b_manual_reconciliation"),
    ("mpesa_c2b_payment_id", .str payment.id),
    ("business_short_code", .str payment.businessShortCode),
    ("bill_ref_number", jsonText payment.billRefNumber),
    ("invoice_number", jsonText payment.invoiceNumber),
    ("phone_number", jsonText payment.phoneNumber)]

def reconcileLocked (runtime : C2bRuntime) (call : C2bCall) (payment : MpesaC2bPaymentEntity)
    (dto : ReconcileMpesaC2bPaymentDto) : Transaction C2bDb Exception MpesaC2bPaymentEntity := do
  failIf (¬ (dto.invoiceId.any (· ≠ "") ∨ dto.studentId.any (· ≠ "")))
    (.badRequest "Reconciliation requires an invoice or student target")
  let db ← current
  let studentId ← reconciledStudent db dto
  let mpesaConfig ← runtime.resolveMpesaConfigByShortcode payment.businessShortCode
  failIf (mpesaConfig.tenantId ≠ runtime.tenantId)
    (.badRequest "M-PESA C2B payment shortcode does not belong to this tenant")
  let manualPayment ← onC2bTenant (createManualFeePayment runtime.toBillingRuntime call.toManualCall
    (reconciliationReceipt runtime.tenantId mpesaConfig payment dto.invoiceId studentId dto.notes))
  markMatched call.now payment.id dto.invoiceId studentId manualPayment.id manualPayment.ledgerTransactionId
    [("matching_strategy", .str "manual_accountant_review")]

def reconcileRow (runtime : C2bRuntime) (call : C2bCall) (paymentId : String) (dto : ReconcileMpesaC2bPaymentDto)
    (locked : Option MpesaC2bPaymentEntity) : Transaction C2bDb Exception MpesaC2bPaymentEntity :=
  match locked with
  | none => fail (.notFound ("M-PESA C2B payment \"" ++ paymentId ++ "\" was not found"))
  | some payment =>
    match payment.status with
    | .matched => return payment
    | .rejected => fail (.conflict ("M-PESA C2B payment cannot be reconciled while status is \"" ++
      payment.status.text ++ "\""))
    | .pendingReview => reconcileLocked runtime call payment dto

def reconcilePendingPayment (runtime : C2bRuntime) (call : C2bCall) (paymentId : String)
    (dto : ReconcileMpesaC2bPaymentDto) : Transaction C2bDb Exception MpesaC2bPaymentEntity := do
  let db ← current
  reconcileRow runtime call paymentId dto (db.c2bPayments.find paymentId)

section Specs

variable {runtime : C2bRuntime} {call : C2bCall} {db after : C2bDb} {result : MpesaC2bPaymentEntity}
  {value : Option Json} {payload : Metadata} {parsed : ParsedMpesaC2bPayment} {payment : MpesaC2bPaymentEntity}
  {dto : ReconcileMpesaC2bPaymentDto}

theorem optionalText_trimmed {text : String} (found : optionalText value = some text) :
    trim text = text ∧ text ≠ "" := by
  have read {source : Option String} (found : readString source = some text) : trim text = text ∧ text ≠ "" := by
    simp only [readString, Option.filter_eq_some_iff, Option.map_eq_some_iff, decide_eq_true_eq] at found
    obtain ⟨⟨original, -, rfl⟩, present⟩ := found
    exact ⟨trim_trim original, present⟩
  unfold optionalText at found
  split at found
  · exact read found
  · exact read found
  · cases found

theorem requireText_trimmed {field text : String} (found : requireText value field = .ok text) :
    trim text = text ∧ text ≠ "" := by
  unfold requireText at found
  split at found
  · next known =>
    simp only [pure_ok] at found
    subst found
    exact optionalText_trimmed known
  · simp only [fail_ok] at found

theorem parseC2bPayload_transId
    (parses : parseC2bPayload payload = .ok parsed) : trim parsed.transId = parsed.transId ∧ parsed.transId ≠ "" := by
  simp only [parseC2bPayload, bind_ok, pure_ok] at parses
  obtain ⟨_, -, transId, known, _, -, _, -, _, -, _, -, rfl⟩ := parses
  exact requireText_trimmed known

theorem findByTransId_none {transId : String} (absent : findByTransId db transId = none) :
    ∀ payment ∈ db.c2bPayments.rows, payment.transId ≠ transId := by
  simpa [findByTransId] using absent

theorem createReceived_ok {conflicting : Option MpesaC2bPaymentEntity}
    {inserted : Bool} (succeeded : (createReceived payment conflicting).run db = .ok ((result, inserted), after)) :
    (inserted = false ∧ after = db ∧ conflicting = some result) ∨
      inserted = true ∧ result = payment ∧ payment.amountMinor < bigintLimit ∧ conflicting = none ∧
        ∃ fresh, after = { db with c2bPayments := db.c2bPayments.insert payment fresh } := by
  simp only [createReceived, run_bind_ok, run_failIf_ok] at succeeded
  obtain ⟨_, _, ⟨small, rfl⟩, rest⟩ := succeeded
  split at rest
  · simp only [run_pure_ok, Prod.mk.injEq] at rest
    obtain ⟨⟨rfl, rfl⟩, rfl⟩ := rest
    exact .inl ⟨rfl, rfl, rfl⟩
  · simp only [run_bind_ok, run_current_ok] at rest
    obtain ⟨_, _, ⟨rfl, rfl⟩, rest⟩ := rest
    split at rest
    · simp only [run_fail_ok] at rest
    · next table added =>
      simp only [run_bind_ok, run_write_ok, run_pure_ok, Prod.mk.injEq] at rest
      obtain ⟨_, _, rfl, ⟨rfl, rfl⟩, rfl⟩ := rest
      obtain ⟨fresh, rfl⟩ := (KeyedTable.tryInsert_eq_some _).mp added
      exact .inr ⟨rfl, rfl, Nat.not_le.mp small, rfl, fresh, rfl⟩

theorem updatePayment_put {id : String}
    {change : MpesaC2bPaymentEntity → MpesaC2bPaymentEntity} {kept : ∀ payment, (change payment).id = payment.id}
    (succeeded : (updatePayment id change kept).run db = .ok (result, after))
    (member : payment ∈ db.c2bPayments.rows) (same : payment.id = id) :
    result = change payment ∧ db.c2bPayments.Put id (change payment) after.c2bPayments ∧ after.tenant = db.tenant := by
  simp only [updatePayment, run_bind_ok, run_current_ok] at succeeded
  obtain ⟨_, _, ⟨rfl, rfl⟩, rest⟩ := succeeded
  split at rest
  · simp only [run_fail_ok] at rest
  · next found present =>
    subst same
    obtain rfl : found = payment := Option.some.inj (present.symm.trans (KeyedTable.find_self _ member))
    simp only [run_bind_ok, run_write_ok, run_pure_ok] at rest
    obtain ⟨_, _, rfl, rfl, rfl⟩ := rest
    exact ⟨rfl, KeyedTable.Put.update change kept member rfl, rfl⟩

theorem recordConfirmation_ok {mpesaConfig : ResolvedTenantMpesaConfig} {reads : ConfirmationReads} {result : MpesaC2bConfirmationResult}
    (succeeded : (recordConfirmation runtime call mpesaConfig payload parsed reads).run db = .ok (result, after)) :
    after = db ∧ (reads.existing ≠ none ∨ reads.conflicting ≠ none) ∨
      reads.existing = none ∧ reads.conflicting = none ∧ parsed.amountMinor < bigintLimit ∧
      ∃ fresh settled, (allocateConfirmation runtime call mpesaConfig parsed call.newC2bPaymentId reads.target).run
        { db with c2bPayments := db.c2bPayments.insert (receivedPayment call mpesaConfig payload parsed) fresh } =
          .ok (settled, after) := by
  unfold recordConfirmation at succeeded
  split at succeeded
  · next found =>
    simp only [run_pure_ok] at succeeded
    exact .inl ⟨succeeded.2.symm, .inl (by simp [found])⟩
  · next absent =>
    simp only [run_bind_ok] at succeeded
    obtain ⟨⟨payment, inserted⟩, middle, created, rest⟩ := succeeded
    rcases createReceived_ok created with ⟨rfl, rfl, found⟩ | ⟨rfl, rfl, small, free, fresh, rfl⟩
    · simp only [Bool.false_eq_true, if_false, run_pure_ok] at rest
      exact .inl ⟨rest.2.symm, .inr (by simp [found])⟩
    · simp only [if_true, run_bind_ok, run_pure_ok] at rest
      obtain ⟨settled, _, allocated, -, rfl⟩ := rest
      exact .inr ⟨absent, free, small, fresh, settled, allocated⟩

theorem ownConfirmation_ok {own : Option (ParsedMpesaC2bPayment × ResolvedTenantMpesaConfig)}
    (found : ownConfirmation runtime payload = .ok own) :
    ∃ parsed mpesaConfig, parseC2bPayload payload = .ok parsed ∧
      runtime.resolveMpesaConfigByShortcode parsed.businessShortCode = .ok mpesaConfig ∧
      own = if mpesaConfig.tenantId = runtime.tenantId then some (parsed, mpesaConfig) else none := by
  simp only [ownConfirmation, bind_ok, pure_ok] at found
  obtain ⟨parsed, parses, mpesaConfig, resolved, rfl⟩ := found
  exact ⟨parsed, mpesaConfig, parses, resolved, rfl⟩

theorem reconcileRow_ok {paymentId : String}
    {locked : Option MpesaC2bPaymentEntity}
    (succeeded : (reconcileRow runtime call paymentId dto locked).run db = .ok (result, after)) :
    ∃ payment, locked = some payment ∧ (payment.status = .matched ∧ result = payment ∧ after = db ∨
      payment.status = .pendingReview ∧ (reconcileLocked runtime call payment dto).run db = .ok (result, after)) := by
  unfold reconcileRow at succeeded
  split at succeeded
  · simp only [run_fail_ok] at succeeded
  · next payment =>
    refine ⟨payment, rfl, ?_⟩
    split at succeeded
    · next matched =>
      simp only [run_pure_ok] at succeeded
      exact .inl ⟨matched, succeeded.1.symm, succeeded.2.symm⟩
    · simp only [run_fail_ok] at succeeded
    · next pending => exact .inr ⟨pending, succeeded⟩

theorem reconcileLocked_ok
    (succeeded : (reconcileLocked runtime call payment dto).run db = .ok (result, after)) :
    ∃ studentId mpesaConfig manualPayment tenant,
      (createManualFeePayment runtime.toBillingRuntime call.toManualCall
        (reconciliationReceipt runtime.tenantId mpesaConfig payment dto.invoiceId studentId dto.notes)).run db.tenant =
          .ok (manualPayment, tenant) ∧
      (markMatched call.now payment.id dto.invoiceId studentId manualPayment.id manualPayment.ledgerTransactionId
        [("matching_strategy", .str "manual_accountant_review")]).run { db with tenant } = .ok (result, after) := by
  simp only [reconcileLocked, run_bind_ok, run_failIf_ok, run_current_ok, run_lift_ok, onC2bTenant_ok] at succeeded
  obtain ⟨_, _, ⟨-, rfl⟩, _, _, ⟨rfl, rfl⟩, studentId, _, ⟨-, rfl⟩, mpesaConfig, _, ⟨-, rfl⟩, _, _, ⟨-, rfl⟩,
    manualPayment, _, ⟨tenant, created, rfl⟩, marked⟩ := succeeded
  exact ⟨studentId, mpesaConfig, manualPayment, tenant, created, marked⟩

end Specs

end MpesaC2b

end ShuleHub.Payments
