import ShuleHub.Finance.Posting
import ShuleHub.Lib.KeyedTable

/-! The billing tables of one tenant, and the statements that move money on its invoices. -/

namespace ShuleHub.Billing

open Transaction Finance

inductive InvoiceStatus where
  | draft
  | opened
  | pendingPayment
  | paid
  | void
  | uncollectible
deriving DecidableEq

def InvoiceStatus.text : InvoiceStatus → String
  | .draft => "draft"
  | .opened => "open"
  | .pendingPayment => "pending_payment"
  | .paid => "paid"
  | .void => "void"
  | .uncollectible => "uncollectible"

structure InvoiceEntity where
  id : String
  subscriptionId : String
  invoiceNumber : String
  status : InvoiceStatus
  currencyCode : String
  totalAmountMinor : Nat
  amountPaidMinor : Nat
  billingPhoneNumber : Option String
  paymentIntentId : Option String
  issuedAt : Int
  dueAt : Int
  createdAt : Int
  metadata : Metadata
  totalPositive : 0 < totalAmountMinor
deriving DecidableEq

variable (invoice : InvoiceEntity)

def InvoiceEntity.studentId : Option String :=
  readStringMetadata invoice.metadata "student_id"

def InvoiceEntity.balance : Nat :=
  invoice.totalAmountMinor - invoice.amountPaidMinor

def InvoiceEntity.isPayable : Bool :=
  invoice.status = .opened || invoice.status = .pendingPayment

inductive ManualFeePaymentMethod where
  | cash
  | cheque
  | bankDeposit
  | eft
  | mpesaC2b
deriving DecidableEq

inductive ManualFeePaymentStatus where
  | received
  | deposited
  | cleared
  | bounced
  | reversed
deriving DecidableEq

structure ManualFeePaymentEntity where
  id : String
  idempotencyKey : String
  receiptNumber : String
  paymentMethod : ManualFeePaymentMethod
  status : ManualFeePaymentStatus
  studentId : Option String
  invoiceId : Option String
  amountMinor : Nat
  currencyCode : String
  payerName : Option String
  receivedAt : Int
  depositedAt : Option Int
  clearedAt : Option Int
  bouncedAt : Option Int
  reversedAt : Option Int
  chequeNumber : Option String
  drawerBank : Option String
  depositReference : Option String
  externalReference : Option String
  assetAccountCode : String
  feeControlAccountCode : String
  ledgerTransactionId : Option String
  reversalLedgerTransactionId : Option String
  notes : Option String
  metadata : Metadata
  createdAt : Int
  amountPositive : 0 < amountMinor
deriving DecidableEq

inductive ManualFeePaymentAllocationType where
  | invoice
  | credit
deriving DecidableEq

structure ManualFeePaymentAllocationEntity where
  manualPaymentId : String
  invoiceId : Option String
  studentId : Option String
  allocationType : ManualFeePaymentAllocationType
  amountMinor : Nat
  amountPositive : 0 < amountMinor
deriving DecidableEq

structure StudentFeePaymentAllocation where
  invoiceId : String
  studentId : String
  parentUserId : Option String
  paymentIntentId : String
  ledgerTransactionId : Option String
  amountMinor : Nat
  idempotencyKey : String
  amountPositive : 0 < amountMinor
deriving DecidableEq

structure StudentFeeCredit where
  studentId : String
  parentUserId : Option String
  paymentIntentId : String
  ledgerTransactionId : Option String
  amountMinor : Nat
  idempotencyKey : String
  amountPositive : 0 < amountMinor
deriving DecidableEq

structure BillingDb where
  invoices : KeyedTable InvoiceEntity String InvoiceEntity.id
  manualFeePayments : KeyedTable ManualFeePaymentEntity String ManualFeePaymentEntity.id
  manualAllocations : List ManualFeePaymentAllocationEntity
  studentAllocations : List StudentFeePaymentAllocation
  studentCredits : List StudentFeeCredit
deriving DecidableEq

namespace Invoices

variable (invoiceId : String) (db : BillingDb) (paymentIntentId : String)

def updateInvoice (id : String) (change : InvoiceEntity → InvoiceEntity)
    (kept : ∀ invoice, (change invoice).id = invoice.id) : Transaction BillingDb Exception Unit :=
  write fun db => { db with invoices := db.invoices.update id change kept }

def initiatePayment (billingPhoneNumber : Option String) (invoice : InvoiceEntity) :
    InvoiceEntity :=
  { invoice with
    paymentIntentId := some paymentIntentId
    billingPhoneNumber := billingPhoneNumber <|> invoice.billingPhoneNumber
    status := .pendingPayment }

def pay (amountPaidMinor : Nat) (invoice : InvoiceEntity) : InvoiceEntity :=
  { invoice with status := .paid, amountPaidMinor }

def payFromIntent (nextAmountPaidMinor : Nat) (nextStatus : InvoiceStatus)
    (invoice : InvoiceEntity) : InvoiceEntity :=
  { invoice with
    amountPaidMinor := nextAmountPaidMinor
    paymentIntentId := some paymentIntentId
    status := nextStatus }

def payManually (amountMinor nextAmountPaidMinor : Nat) (nextStatus : InvoiceStatus) (invoice : InvoiceEntity) :
    InvoiceEntity :=
  { invoice with
    amountPaidMinor := nextAmountPaidMinor
    status := nextStatus
    metadata := invoice.metadata.set "last_manual_payment_amount_minor" (jsonNat amountMinor) }

def reversePayment (amountMinor : Nat) (nextStatus : InvoiceStatus) (invoice : InvoiceEntity) : InvoiceEntity :=
  { invoice with
    amountPaidMinor := invoice.amountPaidMinor - amountMinor
    status := if invoice.amountPaidMinor - amountMinor = 0 then nextStatus else .pendingPayment
    metadata := invoice.metadata.set "last_manual_reversal_amount_minor" (jsonNat amountMinor) }

def markPaymentInitiated (invoiceId paymentIntentId : String) (billingPhoneNumber : Option String) :
    Transaction BillingDb Exception Unit :=
  updateInvoice invoiceId (initiatePayment paymentIntentId billingPhoneNumber) fun _ => rfl

def markPaid (amountPaidMinor : Nat) : Transaction BillingDb Exception Unit :=
  updateInvoice invoiceId (pay amountPaidMinor) fun _ => rfl

def applyStudentFeeInvoicePayment (invoiceId paymentIntentId : String) (nextAmountPaidMinor : Nat)
    (nextStatus : InvoiceStatus) : Transaction BillingDb Exception Unit :=
  updateInvoice invoiceId (payFromIntent paymentIntentId nextAmountPaidMinor nextStatus) fun _ => rfl

def applyManualFeeInvoicePayment (amountMinor nextAmountPaidMinor : Nat)
    (nextStatus : InvoiceStatus) : Transaction BillingDb Exception Unit :=
  updateInvoice invoiceId (payManually amountMinor nextAmountPaidMinor nextStatus) fun _ => rfl

def reverseManualFeeInvoicePayment (amountMinor : Nat) (nextStatus : InvoiceStatus) :
    Transaction BillingDb Exception Unit :=
  updateInvoice invoiceId (reversePayment amountMinor nextStatus) fun _ => rfl

def lockByPaymentIntentId : Option InvoiceEntity :=
  db.invoices.rows.find? fun invoice => invoice.paymentIntentId = some paymentIntentId

def lockManualFeeInvoiceForAllocation (invoiceId : String) : Option InvoiceEntity :=
  (db.invoices.find invoiceId).filter fun invoice =>
    invoice.isPayable && invoice.amountPaidMinor < invoice.totalAmountMinor

def dueBefore (left right : InvoiceEntity) : Prop :=
  left.dueAt < right.dueAt ∨ left.dueAt = right.dueAt ∧
    (left.issuedAt < right.issuedAt ∨ left.issuedAt = right.issuedAt ∧ left.createdAt ≤ right.createdAt)
deriving Decidable

def findStudentFeeInvoicesForAllocation (locked : String → Bool) (studentId : String)
    (explicitInvoiceId : Option String) : List InvoiceEntity :=
  (db.invoices.rows.filter fun invoice =>
    invoice.metadata.text "student_id" = some studentId && invoice.isPayable &&
      invoice.amountPaidMinor < invoice.totalAmountMinor &&
      explicitInvoiceId.all (· = invoice.id) && !locked invoice.id).insertionSort dueBefore

end Invoices

structure Application where
  invoice : InvoiceEntity
  applied : Nat

namespace Application

def nextPaid (application : Application) : Nat := application.invoice.amountPaidMinor + application.applied

def nextStatus (application : Application) : InvoiceStatus :=
  if application.invoice.totalAmountMinor ≤ application.nextPaid then .paid else .pendingPayment

end Application

@[grind =] def allocateRemaining (check : InvoiceEntity → Except Exception Unit)
    (settle : Application → Transaction BillingDb Exception Unit) :
    Nat → List InvoiceEntity → Transaction BillingDb Exception (List Application × Nat)
  | remaining, [] => return ([], remaining)
  | remaining, invoice :: invoices => do
    if remaining = 0 then
      return ([], remaining)
    else
      check invoice
      if invoice.balance = 0 then
        allocateRemaining check settle remaining invoices
      else
        let application : Application := ⟨invoice, min remaining invoice.balance⟩
        settle application
        let (applications, left) ← allocateRemaining check settle (remaining - application.applied) invoices
        return (application :: applications, left)

theorem allocateRemaining_preserves {check : InvoiceEntity → Except Exception Unit}
    {settle : Application → Transaction BillingDb Exception Unit}
    {invariant : Nat → List InvoiceEntity → BillingDb → Prop}
    (skipped : ∀ remaining invoice invoices db, invariant remaining (invoice :: invoices) db →
      invariant remaining invoices db)
    (settled : ∀ remaining invoice invoices db after, 0 < remaining → 0 < invoice.balance →
      invariant remaining (invoice :: invoices) db →
      (settle ⟨invoice, min remaining invoice.balance⟩).run db = .ok ((), after) →
      invariant (remaining - min remaining invoice.balance) invoices after)
    {invoices : List InvoiceEntity} {remaining : Nat} {result : List Application × Nat} {db after : BillingDb}
    (before : invariant remaining invoices db)
    (succeeded : (allocateRemaining check settle remaining invoices).run db = .ok (result, after)) :
    invariant result.2 [] after := by
  induction invoices generalizing remaining db result with
  | nil =>
    simp only [allocateRemaining, run_pure_ok] at succeeded
    obtain ⟨rfl, rfl⟩ := succeeded
    exact before
  | cons invoice invoices ih =>
    simp only [allocateRemaining, run_ite_ok, run_bind_ok, run_pure_ok, run_lift_ok] at succeeded
    rcases succeeded with ⟨-, rfl, rfl⟩ | ⟨open_, _, _, ⟨-, rfl⟩, rest⟩
    · clear ih
      have dropped : ∀ rows, invariant remaining rows db → invariant remaining [] db := by
        intro rows
        induction rows with
        | nil => exact id
        | cons row rows ih => exact fun holds => ih (skipped remaining row rows db holds)
      exact dropped _ before
    · rcases rest with ⟨-, rest⟩ | ⟨due, _, middle, applied, _, _, rest, rfl, rfl⟩
      · exact ih (skipped remaining invoice invoices db before) rest
      · have kept := ih (settled remaining invoice invoices db middle (Nat.pos_of_ne_zero open_)
          (Nat.pos_of_ne_zero due) before applied) rest
        exact kept

theorem allocateRemaining_present {check : InvoiceEntity → Except Exception Unit}
    {settle : Application → Transaction BillingDb Exception Unit} (eligible : InvoiceEntity → Prop)
    (invariant : Nat → BillingDb → Prop)
    (settled : ∀ remaining invoice db after, 0 < remaining → 0 < invoice.balance → invoice ∈ db.invoices.rows →
      eligible invoice → invariant remaining db →
      (settle ⟨invoice, min remaining invoice.balance⟩).run db = .ok ((), after) →
      invariant (remaining - min remaining invoice.balance) after ∧
        ∀ other ∈ db.invoices.rows, other.id ≠ invoice.id → other ∈ after.invoices.rows)
    {invoices : List InvoiceEntity} {remaining : Nat} {result : List Application × Nat} {db after : BillingDb}
    (present : ∀ invoice ∈ invoices, invoice ∈ db.invoices.rows ∧ eligible invoice)
    (distinct : (invoices.map (·.id)).Nodup) (before : invariant remaining db)
    (succeeded : (allocateRemaining check settle remaining invoices).run db = .ok (result, after)) :
    invariant result.2 after := by
  let waiting (remaining : Nat) (invoices : List InvoiceEntity) (db : BillingDb) : Prop :=
    invariant remaining db ∧ (∀ invoice ∈ invoices, invoice ∈ db.invoices.rows ∧ eligible invoice) ∧
      (invoices.map (·.id)).Nodup
  have ended : waiting result.2 [] after := by
    refine @allocateRemaining_preserves _ _ waiting ?_ ?_ _ _ _ _ _ ⟨before, present, distinct⟩ succeeded
    · rintro remaining invoice invoices db ⟨holds, present, distinct⟩
      exact ⟨holds, (List.forall_mem_cons.mp present).2, (List.nodup_cons.mp distinct).2⟩
    · rintro remaining invoice invoices db after open_ due ⟨holds, present, distinct⟩ ran
      obtain ⟨⟨member, fits⟩, later⟩ := List.forall_mem_cons.mp present
      obtain ⟨fresh, distinct⟩ := List.nodup_cons.mp distinct
      obtain ⟨kept, others⟩ := settled remaining invoice db after open_ due member fits holds ran
      refine ⟨kept, fun other waits => ⟨others other (later other waits).1 fun same => ?_, (later other waits).2⟩, distinct⟩
      exact fresh (List.mem_map.mpr ⟨other, waits, same⟩)
  exact ended.1

namespace Invoices

theorem mem_findStudentFeeInvoicesForAllocation {db : BillingDb} {locked : String → Bool} {studentId : String}
    {explicitInvoiceId : Option String} {invoice : InvoiceEntity}
    (member : invoice ∈ findStudentFeeInvoicesForAllocation db locked studentId explicitInvoiceId) :
    invoice ∈ db.invoices.rows ∧ invoice.isPayable = true ∧
      invoice.metadata.text "student_id" = some studentId ∧ invoice.amountPaidMinor < invoice.totalAmountMinor := by
  have found := List.mem_filter.mp ((List.mem_insertionSort _).mp member)
  simp only [Bool.and_eq_true, decide_eq_true_eq] at found
  exact ⟨found.1, found.2.1.1.1.2, found.2.1.1.1.1, found.2.1.1.2⟩

theorem findStudentFeeInvoicesForAllocation_distinct (db : BillingDb) (locked : String → Bool) (studentId : String)
    (explicitInvoiceId : Option String) :
    ((findStudentFeeInvoicesForAllocation db locked studentId explicitInvoiceId).map (·.id)).Nodup := by
  have sorted := (List.perm_insertionSort dueBefore (db.invoices.rows.filter fun invoice =>
    invoice.metadata.text "student_id" = some studentId && invoice.isPayable &&
      invoice.amountPaidMinor < invoice.totalAmountMinor &&
      explicitInvoiceId.all (· = invoice.id) && !locked invoice.id)).map (·.id)
  exact sorted.nodup_iff.mpr (db.invoices.distinct.sublist (List.filter_sublist.map _))

end Invoices

end ShuleHub.Billing
