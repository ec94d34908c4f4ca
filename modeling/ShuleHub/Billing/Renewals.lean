import ShuleHub.Billing.BulkFees
import ShuleHub.Billing.InvoicePayments
import ShuleHub.Lib.JsDate

/-! Ad-hoc invoices, the renewal invoice of a subscription, and the requests of a school that issue and
settle its bills. -/

namespace ShuleHub.Billing

open Transaction Payments BillingLifecycle

structure CreateInvoiceDto where
  description : String
  totalAmountMinor : Nat
  dueAt : Option String
  billingPhoneNumber : Option String
  metadata : Metadata

structure InvoiceCall where
  now : Int
  newInvoiceId : String
  newInvoiceNumber : String

def renewalReason : String := "subscription_renewal"

def billingRenewalInvoiceMetadataKey : String := "renewal_window"

def InvoiceEntity.isRenewal (invoice : InvoiceEntity) : Bool :=
  invoice.metadata.text "billing_reason" = some renewalReason

namespace Invoicing

def createInvoice (runtime : Runtime) (call : InvoiceCall) (dto : CreateInvoiceDto) :
    Transaction InvoicingDb Exception InvoiceEntity := do
  let subscription ← requireBillableSubscription
  let dueAt ← monadLift (resolveDueAt runtime dto.dueAt (addDays call.now 7))
  let invoice ← insertInvoice {
    id := call.newInvoiceId
    subscriptionId := subscription.id
    invoiceNumber := call.newInvoiceNumber
    currencyCode := subscription.currencyCode
    description := JsText.trim dto.description
    totalAmountMinor := dto.totalAmountMinor
    billingPhoneNumber := readString dto.billingPhoneNumber <|> subscription.billingPhoneNumber
    issuedAt := call.now
    dueAt
    createdAt := call.now
    metadata := dto.metadata }
  markInvoiceIssued subscription.id call.now
  return invoice

def resolveRenewalAmountMinor (subscription : SubscriptionEntity) : Nat :=
  let plan := planOrStarter subscription.planCode
  if plan.code = "enterprise" then 750000
  else if plan.code = "growth" then 250000
  else 150000

def renewalWindowKey (subscription : SubscriptionEntity) (now : Int) : String :=
  String.ofList ((JsDate.toISOString (getNextRenewalWindow subscription now).1).toList.take 10)

def findLatestRenewalInvoice (db : InvoicingDb) (subscriptionId renewalWindow : String) : Option InvoiceEntity :=
  ((db.invoices.rows.filter fun invoice =>
    invoice.subscriptionId = subscriptionId && invoice.isRenewal &&
      invoice.metadata.text billingRenewalInvoiceMetadataKey = some renewalWindow).insertionSort fun left right =>
    right.createdAt ≤ left.createdAt).head?

def stands (invoice : InvoiceEntity) : Bool :=
  invoice.status = .opened || invoice.status = .pendingPayment || invoice.status = .paid

def renewalInvoiceInput (call : InvoiceCall) (subscription : SubscriptionEntity) : CreateInvoiceInput where
  id := call.newInvoiceId
  subscriptionId := subscription.id
  invoiceNumber := call.newInvoiceNumber
  currencyCode := subscription.currencyCode
  description := subscription.planCode ++ " renewal"
  totalAmountMinor := resolveRenewalAmountMinor subscription
  billingPhoneNumber := subscription.billingPhoneNumber
  issuedAt := call.now
  dueAt := (getNextRenewalWindow subscription call.now).2
  createdAt := call.now
  metadata := [
    ("billing_reason", .str renewalReason),
    (billingRenewalInvoiceMetadataKey, .str (renewalWindowKey subscription call.now)),
    ("renewal_window_start_at", .str (JsDate.toISOString (getNextRenewalWindow subscription call.now).1)),
    ("renewal_window_end_at", .str (JsDate.toISOString (getNextRenewalWindow subscription call.now).2))]

def ensureRenewalInvoice (call : InvoiceCall) : Transaction InvoicingDb Exception InvoiceEntity := do
  let subscription ← requireBillableSubscription
  let db ← current
  match (findLatestRenewalInvoice db subscription.id (renewalWindowKey subscription call.now)).filter stands with
  | some existingInvoice => return existingInvoice
  | none =>
    let invoice ← insertInvoice (renewalInvoiceInput call subscription)
    markInvoiceIssued subscription.id call.now
    return invoice

end Invoicing

/-- The requests of one school that issue bills and settle them. -/
inductive SchoolRequest where
  | createInvoice (call : InvoiceCall) (dto : CreateInvoiceDto)
  | bulkGenerateFeeInvoices (call : BulkCall)
  | ensureRenewalInvoice (call : InvoiceCall)
  | createInvoicePaymentIntent (call : InvoicePaymentCall)
  | handlePaymentIntentCompleted (payment : CompletedPayment)

namespace SchoolRequest

def now : SchoolRequest → Int
  | .createInvoice call _ => call.now
  | .bulkGenerateFeeInvoices call => call.now
  | .ensureRenewalInvoice call => call.now
  | .createInvoicePaymentIntent call => call.now
  | .handlePaymentIntentCompleted payment => payment.now

def perform (runtime : PaymentsRuntime) (db : SchoolDb) : SchoolRequest → SchoolDb
  | .createInvoice call dto => commit (onInvoicing (Invoicing.createInvoice runtime.toRuntime call dto)) db
  | .bulkGenerateFeeInvoices call =>
    commit (onInvoicing (BulkFees.bulkGenerateFeeInvoices runtime.toRuntime call)) db
  | .ensureRenewalInvoice call => commit (onInvoicing (Invoicing.ensureRenewalInvoice call)) db
  | .createInvoicePaymentIntent call => commit (BillingMpesa.createInvoicePaymentIntent runtime call) db
  | .handlePaymentIntentCompleted payment => commit (completeInvoicePayment runtime.tenantId payment) db

def paidInvoice (db : SchoolDb) : SchoolRequest → Option InvoiceEntity
  | .handlePaymentIntentCompleted payment => payment.paidInvoice db
  | _ => none

end SchoolRequest

end ShuleHub.Billing
