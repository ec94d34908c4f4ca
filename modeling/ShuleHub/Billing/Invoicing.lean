import ShuleHub.Billing.Invoices
import ShuleHub.Billing.Lifecycle

/-! Issuing invoices: single ones, the renewal of the subscription, and the fees of a list of students. -/

namespace ShuleHub.Billing

open Transaction BillingLifecycle

inductive FeeStructureStatus where
  | draft
  | active
  | archived
deriving DecidableEq

def FeeStructureStatus.text : FeeStructureStatus → String
  | .draft => "draft"
  | .active => "active"
  | .archived => "archived"

structure FeeStructureEntity where
  id : String
  name : String
  academicYear : String
  term : String
  gradeLevel : String
  className : Option String
  status : FeeStructureStatus
  dueDays : Nat
  lineItems : Json
  totalAmountMinor : Nat
  /-- The id is a uuid: no text that trimming would change. -/
  readableId : readString (some id) = some id
deriving DecidableEq

structure InvoicingDb where
  subscriptions : SubscriptionsDb
  feeStructures : KeyedTable FeeStructureEntity String FeeStructureEntity.id
  invoices : KeyedTable InvoiceEntity String InvoiceEntity.id

def forSubscriptions {A : Type} (action : Transaction SubscriptionsDb Exception A) :
    Transaction InvoicingDb Exception A :=
  zoom (·.subscriptions) (fun db subscriptions => { db with subscriptions }) action

@[simp] theorem forSubscriptions_ok {A : Type} {action : Transaction SubscriptionsDb Exception A} {result : A}
    {db after : InvoicingDb} :
    (forSubscriptions action).run db = .ok (result, after) ↔
      ∃ subscriptions, action.run db.subscriptions = .ok (result, subscriptions) ∧ after = { db with subscriptions } :=
  run_zoom_ok

structure CreateInvoiceInput where
  id : String
  subscriptionId : String
  invoiceNumber : String
  currencyCode : String
  description : String
  totalAmountMinor : Nat
  billingPhoneNumber : Option String
  issuedAt : Int
  dueAt : Int
  createdAt : Int
  metadata : Metadata

/-- The row that is inserted: every caller opens its invoice, and the column for what is paid starts at 0. -/
def CreateInvoiceInput.invoice (input : CreateInvoiceInput) (totalPositive : 0 < input.totalAmountMinor) :
    InvoiceEntity where
  id := input.id
  subscriptionId := input.subscriptionId
  invoiceNumber := input.invoiceNumber
  status := .opened
  currencyCode := input.currencyCode
  totalAmountMinor := input.totalAmountMinor
  amountPaidMinor := 0
  billingPhoneNumber := input.billingPhoneNumber
  paymentIntentId := none
  issuedAt := input.issuedAt
  dueAt := input.dueAt
  createdAt := input.createdAt
  metadata := input.metadata
  totalPositive

@[simp] theorem CreateInvoiceInput.invoice_metadata (input : CreateInvoiceInput)
    (totalPositive : 0 < input.totalAmountMinor) : (input.invoice totalPositive).metadata = input.metadata := rfl

@[simp] theorem CreateInvoiceInput.invoice_status (input : CreateInvoiceInput)
    (totalPositive : 0 < input.totalAmountMinor) : (input.invoice totalPositive).status = .opened := rfl

namespace Invoicing

variable {input : CreateInvoiceInput} {db after middle : InvoicingDb}

def insertInvoice (input : CreateInvoiceInput) : Transaction InvoicingDb Exception InvoiceEntity := do
  let db ← current
  failIf (input.description = "") (.database "ck_invoices_description_not_blank")
  failIf (2 ^ 63 ≤ input.totalAmountMinor) (.database "bigint out of range")
  failIf (∃ other ∈ db.invoices.rows, other.invoiceNumber = input.invoiceNumber)
    (.database "uq_invoices_tenant_invoice_number")
  if totalPositive : 0 < input.totalAmountMinor then
    match db.invoices.tryInsert (input.invoice totalPositive) with
    | none => fail (.database "invoices_pkey")
    | some invoices =>
      write fun db => { db with invoices }
      return input.invoice totalPositive
  else
    fail (.database "ck_invoices_total_positive")

def requireBillableSubscription : Transaction InvoicingDb Exception SubscriptionEntity := do
  let db ← current
  match Subscriptions.lockCurrentByTenant db.subscriptions with
  | none => fail (.notFound "No subscription exists for this tenant")
  | some subscription =>
    failIf (subscription.status ∉ [.trialing, .active, .pastDue, .restricted])
      (.conflict ("Subscription is not billable while status is \"" ++ subscription.status.text ++ "\""))
    return subscription

def markInvoiceIssued (subscriptionId : String) (now : Int) : Transaction InvoicingDb Exception Unit :=
  forSubscriptions (Subscriptions.markInvoiceIssued subscriptionId now none)

def resolveTimestamp (runtime : Runtime) (value : String) : Except Exception Int :=
  match runtime.parseDate value with
  | some time => .ok time
  | none => .error (.conflict ("Invalid timestamp \"" ++ value ++ "\""))

def resolveDueAt (runtime : Runtime) (dueAt : Option String) (otherwise : Int) : Except Exception Int :=
  match dueAt with
  | none => .ok otherwise
  | some "" => .ok otherwise
  | some value => resolveTimestamp runtime value

theorem insertInvoice_ok {invoice : InvoiceEntity}
    (inserted : (insertInvoice input).run db = .ok (invoice, after)) :
    (∃ totalPositive, invoice = input.invoice totalPositive) ∧ (∀ other ∈ db.invoices.rows, other.id ≠ input.id) ∧
      after = { db with invoices := after.invoices } ∧
      ∀ other, other ∈ after.invoices.rows ↔ other ∈ db.invoices.rows ∨ other = invoice := by
  simp only [insertInvoice, run_bind_ok, run_current_ok, run_failIf_ok] at inserted
  obtain ⟨_, _, ⟨rfl, rfl⟩, _, _, ⟨-, rfl⟩, _, _, ⟨-, rfl⟩, _, _, ⟨-, rfl⟩, rest⟩ := inserted
  split at rest
  · next totalPositive =>
    split at rest
    · simp at rest
    · next invoices put =>
      simp only [run_bind_ok, run_write_ok, run_pure_ok] at rest
      obtain ⟨_, _, rfl, rfl, rfl⟩ := rest
      obtain ⟨fresh, rfl⟩ := (KeyedTable.tryInsert_eq_some _).mp put
      exact ⟨⟨totalPositive, rfl⟩, fresh, rfl, fun other => by rw [KeyedTable.mem_insert]⟩
  · simp at rest

theorem requireBillableSubscription_ok {subscription : SubscriptionEntity}
    (required : requireBillableSubscription.run db = .ok (subscription, after)) :
    Subscriptions.lockCurrentByTenant db.subscriptions = some subscription ∧ after = db := by
  simp only [requireBillableSubscription, run_bind_ok, run_current_ok] at required
  obtain ⟨_, _, ⟨rfl, rfl⟩, rest⟩ := required
  split at rest
  · simp at rest
  · next locked =>
    simp only [run_bind_ok, run_failIf_ok, run_pure_ok] at rest
    obtain ⟨_, _, ⟨-, rfl⟩, rfl, rfl⟩ := rest
    exact ⟨locked, rfl⟩

/-- New bills, beside the old ones, that move no period. -/
structure BillsIssued (before after : InvoicingDb) (issued : List InvoiceEntity) : Prop where
  rows : ∀ other, other ∈ after.invoices.rows ↔ other ∈ before.invoices.rows ∨ other ∈ issued
  fresh : ∀ invoice ∈ issued, invoice.status = .opened ∧ ∀ other ∈ before.invoices.rows, other.id ≠ invoice.id
  periods : Subscriptions.KeepsPeriods before.subscriptions after.subscriptions

theorem BillsIssued.refl (db : InvoicingDb) : BillsIssued db db [] :=
  ⟨by simp, by simp, .refl _⟩

theorem BillsIssued.cons {before : InvoicingDb} {invoice : InvoiceEntity} {issued : List InvoiceEntity}
    (first : BillsIssued before middle [invoice]) (later : BillsIssued middle after issued) :
    BillsIssued before after (invoice :: issued) := by
  refine ⟨fun other => ?_, List.forall_mem_cons.mpr ⟨first.fresh invoice List.mem_cons_self, ?_⟩,
    first.periods.trans later.periods⟩
  · rw [later.rows, first.rows, List.mem_singleton, List.mem_cons, or_assoc]
  · intro other member
    obtain ⟨opened, unused⟩ := later.fresh other member
    exact ⟨opened, fun old present => unused old ((first.rows old).mpr (.inl present))⟩

theorem issued_ok {subscriptionId : String} {now : Int}
    {invoice : InvoiceEntity} (inserted : (insertInvoice input).run db = .ok (invoice, middle))
    (marked : (markInvoiceIssued subscriptionId now).run middle = .ok ((), after)) :
    (∃ totalPositive, invoice = input.invoice totalPositive) ∧ BillsIssued db after [invoice] := by
  obtain ⟨⟨totalPositive, rfl⟩, fresh, same, rows⟩ := insertInvoice_ok inserted
  simp only [markInvoiceIssued, forSubscriptions_ok] at marked
  obtain ⟨subscriptions, noted, rfl⟩ := marked
  have periods := Subscriptions.keepsPeriods_markInvoiceIssued noted
  rw [same] at periods
  exact ⟨⟨totalPositive, rfl⟩, fun other => by rw [rows, List.mem_singleton],
    fun other member => by rw [List.mem_singleton.mp member]; exact ⟨rfl, fresh⟩, periods⟩

end Invoicing

end ShuleHub.Billing
