import ShuleHub.Billing.Access
import ShuleHub.Billing.Invoicing
import ShuleHub.Billing.StudentFees
import ShuleHub.Payments.Mpesa
import ShuleHub.Tenant

/-! The M-PESA payment of an invoice: the intent that is requested for it, and what its completion does to
the invoice and the subscription. -/

namespace ShuleHub.Billing

open Transaction Payments BillingLifecycle BillingAccess

structure SchoolDb where
  subscriptions : SubscriptionsDb
  feeStructures : KeyedTable FeeStructureEntity String FeeStructureEntity.id
  tenant : TenantDb
deriving DecidableEq

section Parts

variable {A : Type}

def onSchoolSubscriptions (action : Transaction SubscriptionsDb Exception A) : Transaction SchoolDb Exception A :=
  zoom (·.subscriptions) (fun db subscriptions => { db with subscriptions }) action

def onTenant (action : Transaction TenantDb Exception A) : Transaction SchoolDb Exception A :=
  zoom (·.tenant) (fun db tenant => { db with tenant }) action

def SchoolDb.invoicing (db : SchoolDb) : InvoicingDb where
  subscriptions := db.subscriptions
  feeStructures := db.feeStructures
  invoices := db.tenant.billing.invoices

def onInvoicing (action : Transaction InvoicingDb Exception A) : Transaction SchoolDb Exception A :=
  zoom SchoolDb.invoicing (fun db invoicing => {
    subscriptions := invoicing.subscriptions
    feeStructures := invoicing.feeStructures
    tenant := { db.tenant with billing := { db.tenant.billing with invoices := invoicing.invoices } } }) action

variable {result : A} {db after : SchoolDb}

@[simp] theorem onSchoolSubscriptions_ok {action : Transaction SubscriptionsDb Exception A} :
    (onSchoolSubscriptions action).run db = .ok (result, after) ↔
      ∃ subscriptions, action.run db.subscriptions = .ok (result, subscriptions) ∧ after = { db with subscriptions } :=
  run_zoom_ok

@[simp] theorem onTenant_ok {action : Transaction TenantDb Exception A} :
    (onTenant action).run db = .ok (result, after) ↔
      ∃ tenant, action.run db.tenant = .ok (result, tenant) ∧ after = { db with tenant } :=
  run_zoom_ok

@[simp] theorem onInvoicing_ok {action : Transaction InvoicingDb Exception A} :
    (onInvoicing action).run db = .ok (result, after) ↔
      ∃ invoicing, action.run db.invoicing = .ok (result, invoicing) ∧
        after = {
          subscriptions := invoicing.subscriptions
          feeStructures := invoicing.feeStructures
          tenant := { db.tenant with billing := { db.tenant.billing with invoices := invoicing.invoices } } } :=
  run_zoom_ok

end Parts

def billingMpesaFeature : String := "billing.mpesa"

def hasFeature (access : BillingAccessContextState) (feature : String) : Bool :=
  access.isActive && ("*" ∈ access.features || feature ∈ access.features)

structure CreateBillingPaymentIntentDto where
  idempotencyKey : String
  phoneNumber : Option String

/-- A request to pay an invoice, with the access its context holds and the one the cache answers. -/
structure InvoicePaymentCall extends MpesaCall where
  context : Option BillingAccessContextState
  cached : Option BillingAccessContextState
  invoiceId : String
  dto : CreateBillingPaymentIntentDto

namespace BillingMpesa

def paymentRequest (dto : CreateBillingPaymentIntentDto) (invoice : InvoiceEntity) (phoneNumber : String) :
    CreatePaymentIntentDto where
  idempotencyKey := JsText.trim dto.idempotencyKey
  amountMinor := toString invoice.totalAmountMinor
  phoneNumber
  studentId := none
  accountReference := invoice.invoiceNumber
  transactionDesc := "Subscription invoice " ++ invoice.invoiceNumber
  externalReference := some invoice.id
  metadata := [
    ("billing_type", .str "subscription_invoice"),
    ("invoice_id", .str invoice.id),
    ("subscription_id", .str invoice.subscriptionId)]

def resolvePhoneNumber (dto : CreateBillingPaymentIntentDto) (invoice : InvoiceEntity) : Except Exception String :=
  match readString dto.phoneNumber <|> invoice.billingPhoneNumber.filter (· ≠ "") with
  | some phoneNumber => .ok phoneNumber
  | none => .error (.conflict "A billing phone number is required to initiate MPESA payment")

def lockPayableInvoice (invoiceId : String) : Transaction SchoolDb Exception InvoiceEntity := do
  let db ← current
  match db.tenant.billing.invoices.find invoiceId with
  | none => fail (.notFound ("Invoice \"" ++ invoiceId ++ "\" was not found"))
  | some invoice =>
    failIf (invoice.isPayable = false)
      (.conflict ("Invoice \"" ++ invoice.invoiceNumber ++ "\" is not payable in status \"" ++
        invoice.status.text ++ "\""))
    return invoice

def createInvoicePaymentIntent (runtime : PaymentsRuntime) (call : InvoicePaymentCall) :
    Transaction SchoolDb Exception InvoiceEntity := do
  let access ← onSchoolSubscriptions (resolveForTenant call.context call.cached call.now)
  failIf (hasFeature access billingMpesaFeature = false)
    (.conflict "The current subscription does not include MPESA billing")
  let invoice ← lockPayableInvoice call.invoiceId
  let phoneNumber ← monadLift (resolvePhoneNumber call.dto invoice)
  let paymentIntent ← onTenant (onPayments
    (Mpesa.createPlatformPaymentIntent runtime call.toMpesaCall (paymentRequest call.dto invoice phoneNumber)))
  onTenant (onBilling (Invoices.markPaymentInitiated invoice.id paymentIntent.paymentIntentId (some phoneNumber)))
  return Invoices.initiatePayment paymentIntent.paymentIntentId (some phoneNumber) invoice

theorem lockPayableInvoice_ok {invoiceId : String} {db after : SchoolDb} {invoice : InvoiceEntity}
    (locked : (lockPayableInvoice invoiceId).run db = .ok (invoice, after)) :
    db.tenant.billing.invoices.find invoiceId = some invoice ∧ invoice.isPayable = true ∧ after = db := by
  simp only [lockPayableInvoice, run_bind_ok, run_current_ok] at locked
  obtain ⟨_, _, ⟨rfl, rfl⟩, rest⟩ := locked
  split at rest
  · simp at rest
  · next found =>
    simp only [run_bind_ok, run_failIf_ok, run_pure_ok, Bool.not_eq_false] at rest
    obtain ⟨_, _, ⟨payable, rfl⟩, rfl, rfl⟩ := rest
    exact ⟨found, payable, rfl⟩

theorem createInvoicePaymentIntent_ok {runtime : PaymentsRuntime} {call : InvoicePaymentCall} {db after : SchoolDb}
    {result : InvoiceEntity} (requested : (createInvoicePaymentIntent runtime call).run db = .ok (result, after)) :
    ∃ access subscriptions invoice phoneNumber response payments,
      (resolveForTenant call.context call.cached call.now).run db.subscriptions = .ok (access, subscriptions) ∧
      db.tenant.billing.invoices.find call.invoiceId = some invoice ∧ invoice.isPayable = true ∧
      (Mpesa.createPlatformPaymentIntent runtime call.toMpesaCall (paymentRequest call.dto invoice phoneNumber)).run
        db.tenant.payments = .ok (response, payments) ∧
      after = { db with
        subscriptions
        tenant := { db.tenant with
          payments
          billing := { db.tenant.billing with
            invoices := db.tenant.billing.invoices.update invoice.id
              (Invoices.initiatePayment response.paymentIntentId (some phoneNumber)) fun _ => rfl } } } := by
  simp only [createInvoicePaymentIntent, Invoices.markPaymentInitiated, Invoices.updateInvoice, run_bind_ok,
    onSchoolSubscriptions_ok, onTenant_ok, onPayments_ok, onBilling_ok, run_failIf_ok, run_lift_ok, run_write_ok,
    run_pure_ok] at requested
  obtain ⟨access, _, ⟨subscriptions, looked, rfl⟩, _, _, ⟨-, rfl⟩, invoice, _, locked, phoneNumber, _, ⟨-, rfl⟩,
    response, _, ⟨_, ⟨payments, intent, rfl⟩, rfl⟩, _, _, ⟨_, ⟨_, rfl, rfl⟩, rfl⟩, -, rfl⟩ := requested
  obtain ⟨found, payable, rfl⟩ := lockPayableInvoice_ok locked
  exact ⟨access, subscriptions, invoice, phoneNumber, response, payments, looked, found, payable, intent, rfl⟩

end BillingMpesa

structure CompletedPayment where
  now : Int
  locked : String → Bool
  paymentIntentId : String
  amountPaidMinor : Nat
  paymentIntent : Option PaymentIntentEntity
  ledgerTransactionId : Option String

def CompletedPayment.paidInvoice (payment : CompletedPayment) (db : SchoolDb) : Option InvoiceEntity :=
  if (payment.paymentIntent.bind (·.studentId)).any (· ≠ "") then none
  else (Invoices.lockByPaymentIntentId db.tenant.billing payment.paymentIntentId).filter (·.status ≠ .paid)

def completeInvoicePayment (tenantId : String) (payment : CompletedPayment) : Transaction SchoolDb Exception Unit := do
  match payment.paymentIntent.filter fun paymentIntent => paymentIntent.studentId.any (· ≠ "") with
  | some paymentIntent =>
    let _ ← onTenant (onBilling (allocateConfirmedPayment tenantId payment.locked paymentIntent payment.amountPaidMinor
      payment.ledgerTransactionId))
    return ()
  | none =>
    let db ← current
    match Invoices.lockByPaymentIntentId db.tenant.billing payment.paymentIntentId with
    | none => return ()
    | some invoice =>
      if invoice.status = .paid then return ()
      else
        onTenant (onBilling (Invoices.markPaid invoice.id payment.amountPaidMinor))
        onSchoolSubscriptions (renewSubscription invoice.subscriptionId payment.now)

def schoolRuntime : PaymentsRuntime where
  tenantId := "school"
  sha256 := id
  parseDate _ := none
  localeLe left right := Json.utf16Units left ≤ Json.utf16Units right
  idempotencyTtlSeconds := 86400
  ledgerDebitAccountCode := "cash"
  ledgerCreditAccountCode := "fees"
  paymentIntentExpirySeconds := 1800
  staleIntentSweepBatchSize := 100
  resolveMpesaConfig _ := .ok ⟨"174379", none, "cash", "fees"⟩

def unbilledSchool : SchoolDb where
  subscriptions := activeDb
  feeStructures := .empty
  tenant := {
    finance := { accounts := [], accountsDistinct := List.nodup_nil, transactions := [], ledgerEntries := [], idempotencyKeys := [] }
    billing := {
      invoices := .empty
      manualFeePayments := .empty
      manualAllocations := []
      studentAllocations := []
      studentCredits := [] }
    payments := { intents := .empty, mpesaTransactions := .empty, idempotencyKeys := [] } }

def paymentOf (invoiceId intentId : String) (now : Int) : InvoicePaymentCall where
  now
  userId := none
  newKeyId := "key-" ++ intentId
  newIntentId := intentId
  stkReply := .answered true "200" "" (some ⟨"m-" ++ intentId, "c-" ++ intentId, some "0", "", ""⟩)
  context := none
  cached := none
  invoiceId
  dto := ⟨"request-" ++ intentId, some "0712345678"⟩

def completionOf (intentId : String) (amountPaidMinor : Nat) (now : Int) : CompletedPayment where
  now
  locked _ := false
  paymentIntentId := intentId
  amountPaidMinor
  paymentIntent := none
  ledgerTransactionId := none

end ShuleHub.Billing
