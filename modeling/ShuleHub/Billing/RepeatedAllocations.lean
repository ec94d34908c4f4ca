import ShuleHub.Billing.Allocations
import ShuleHub.Billing.Renewals

/-! A payment that is allocated a second time: what `allocateConfirmedPayment` finds of the first time, after
whatever the school did in between. -/

namespace ShuleHub.Billing

open Transaction Invoices ManualFeePayments Payments Filling Runs

inductive FeeOperation where
  | school (request : SchoolRequest)
  | receipt (call : ManualCall) (request : ManualFeeRequest)
  | payment (event : PaymentEvent)

def FeeOperation.perform (runtime : PaymentsRuntime) (office : BillingRuntime) (db : SchoolDb) :
    FeeOperation → SchoolDb
  | .school request => request.perform runtime db
  | .receipt call request => { db with tenant := receiptStep office db.tenant (call, request) }
  | .payment event => { db with tenant := performPayment runtime db.tenant event }

section Kept

variable (row : StudentFeePaymentAllocation)

def HasAllocation (db : BillingDb) : Prop := row ∈ db.studentAllocations

def TenantHasAllocation (db : TenantDb) : Prop := HasAllocation row db.billing

def SchoolHasAllocation (db : SchoolDb) : Prop := TenantHasAllocation row db.tenant

variable {row} {A : Type}

theorem onBilling_maintains {action : Transaction BillingDb Exception A} (inner : Maintains (HasAllocation row) action) :
    Maintains (TenantHasAllocation row) (onBilling action) :=
  maintains_zoom inner (fun _ holds => holds) fun _ _ _ holds => holds

theorem onFinance_maintains (action : Transaction Finance.FinanceDb Exception A) :
    Maintains (TenantHasAllocation row) (onFinance action) :=
  maintains_zoom (maintains_anything action) (fun _ _ => trivial) fun _ _ holds _ => holds

theorem onPayments_maintains (action : Transaction PaymentsDb Exception A) :
    Maintains (TenantHasAllocation row) (onPayments action) :=
  maintains_zoom (maintains_anything action) (fun _ _ => trivial) fun _ _ holds _ => holds

theorem onTenant_maintains {action : Transaction TenantDb Exception A}
    (inner : Maintains (TenantHasAllocation row) action) : Maintains (SchoolHasAllocation row) (onTenant action) :=
  maintains_zoom inner (fun _ holds => holds) fun _ _ _ holds => holds

theorem onSchoolSubscriptions_maintains (action : Transaction SubscriptionsDb Exception A) :
    Maintains (SchoolHasAllocation row) (onSchoolSubscriptions action) :=
  maintains_zoom (maintains_anything action) (fun _ _ => trivial) fun _ _ holds _ => holds

theorem onInvoicing_maintains (action : Transaction InvoicingDb Exception A) :
    Maintains (SchoolHasAllocation row) (onInvoicing action) :=
  maintains_zoom (maintains_anything action) (fun _ _ => trivial) fun _ _ holds _ => holds

theorem updateInvoice_maintains (id : String) (change : InvoiceEntity → InvoiceEntity)
    (kept : ∀ invoice, (change invoice).id = invoice.id) : Maintains (HasAllocation row) (updateInvoice id change kept) :=
  maintains_write fun _ holds => holds

theorem createStudentFeePaymentAllocation_maintains (invoiceId studentId : String) (parentUserId : Option String)
    (paymentIntentId : String) (ledgerTransactionId : Option String) (amountMinor : Nat) (idempotencyKey : String) :
    Maintains (HasAllocation row) (createStudentFeePaymentAllocation invoiceId studentId parentUserId paymentIntentId
      ledgerTransactionId amountMinor idempotencyKey) := by
  unfold createStudentFeePaymentAllocation
  refine maintains_bind maintains_current fun db => ?_
  split
  · refine maintains_ite (maintains_pure ()) ?_
    exact maintains_write fun _ holds => List.mem_append_left _ holds
  · exact maintains_fail _

theorem createStudentFeeCredit_maintains (studentId : String) (parentUserId : Option String) (paymentIntentId : String)
    (ledgerTransactionId : Option String) (amountMinor : Nat) (idempotencyKey : String) :
    Maintains (HasAllocation row) (createStudentFeeCredit studentId parentUserId paymentIntentId ledgerTransactionId
      amountMinor idempotencyKey) := by
  unfold createStudentFeeCredit
  refine maintains_bind maintains_current fun db => ?_
  split
  · exact maintains_ite (maintains_pure ()) (maintains_write fun _ holds => holds)
  · exact maintains_fail _

theorem settleStudentFee_maintains (studentId : String) (paymentIntent : PaymentIntentEntity)
    (ledgerTransactionId : Option String) (idempotencyKey : String) (application : Application) :
    Maintains (HasAllocation row)
      (settleStudentFee studentId paymentIntent ledgerTransactionId idempotencyKey application) :=
  maintains_bind (updateInvoice_maintains _ _ _) fun _ => createStudentFeePaymentAllocation_maintains _ _ _ _ _ _ _

theorem allocateRemaining_maintains (check : InvoiceEntity → Except Exception Unit)
    {settle : Application → Transaction BillingDb Exception Unit}
    (settles : ∀ application, Maintains (HasAllocation row) (settle application)) (remaining : Nat)
    (invoices : List InvoiceEntity) : Maintains (HasAllocation row) (allocateRemaining check settle remaining invoices) := by
  induction invoices generalizing remaining with
  | nil => exact maintains_pure _
  | cons invoice invoices ih =>
    unfold allocateRemaining
    refine maintains_ite (maintains_pure _) ?_
    refine maintains_bind (maintains_lift _) fun _ => ?_
    refine maintains_ite (ih remaining) ?_
    refine maintains_bind (settles _) fun _ => ?_
    exact maintains_bind (ih _) fun _ => maintains_pure _

theorem allocateConfirmedPayment_maintains (tenantId : String) (locked : String → Bool)
    (paymentIntent : PaymentIntentEntity) (amountPaidMinor : Nat) (ledgerTransactionId : Option String) :
    Maintains (HasAllocation row)
      (allocateConfirmedPayment tenantId locked paymentIntent amountPaidMinor ledgerTransactionId) := by
  unfold allocateConfirmedPayment
  split
  · exact maintains_fail _
  · refine maintains_bind maintains_current fun db => ?_
    refine maintains_ite (maintains_pure _) ?_
    refine maintains_bind (allocateRemaining_maintains _ (settleStudentFee_maintains _ _ _ _) _ _) fun outcome => ?_
    exact maintains_ite (maintains_bind (createStudentFeeCredit_maintains _ _ _ _ _ _) fun _ => maintains_pure _)
      (maintains_pure _)

theorem handlePaymentIntentCompleted_maintains (tenantId : String) (locked : String → Bool)
    (paymentIntent : PaymentIntentEntity) (amountPaidMinor : Nat) (ledgerTransactionId : Option String) :
    Maintains (HasAllocation row)
      (handlePaymentIntentCompleted tenantId locked paymentIntent amountPaidMinor ledgerTransactionId) := by
  unfold handlePaymentIntentCompleted
  refine maintains_ite ?_ ?_
  · exact maintains_bind (allocateConfirmedPayment_maintains _ _ _ _ _) fun _ => maintains_pure _
  · refine maintains_bind maintains_current fun db => ?_
    split
    · exact maintains_pure _
    · exact maintains_ite (maintains_pure _) (updateInvoice_maintains _ _ _)

theorem completeInvoicePayment_maintains (tenantId : String) (payment : CompletedPayment) :
    Maintains (SchoolHasAllocation row) (completeInvoicePayment tenantId payment) := by
  unfold completeInvoicePayment
  split
  · exact maintains_bind (onTenant_maintains (onBilling_maintains (allocateConfirmedPayment_maintains _ _ _ _ _)))
      fun _ => maintains_pure _
  · refine maintains_bind maintains_current fun db => ?_
    split
    · exact maintains_pure _
    · refine maintains_ite (maintains_pure _) ?_
      exact maintains_bind (onTenant_maintains (onBilling_maintains (updateInvoice_maintains _ _ _)))
        fun _ => onSchoolSubscriptions_maintains _

theorem lockPayableInvoice_maintains (invoiceId : String) :
    Maintains (SchoolHasAllocation row) (BillingMpesa.lockPayableInvoice invoiceId) := by
  unfold BillingMpesa.lockPayableInvoice
  refine maintains_bind maintains_current fun db => ?_
  split
  · exact maintains_fail _
  · exact maintains_bind (maintains_failIf _ _) fun _ => maintains_pure _

theorem createInvoicePaymentIntent_maintains (runtime : PaymentsRuntime) (call : InvoicePaymentCall) :
    Maintains (SchoolHasAllocation row) (BillingMpesa.createInvoicePaymentIntent runtime call) := by
  unfold BillingMpesa.createInvoicePaymentIntent
  refine maintains_bind (onSchoolSubscriptions_maintains _) fun access => ?_
  refine maintains_bind (maintains_failIf _ _) fun _ => ?_
  refine maintains_bind (lockPayableInvoice_maintains _) fun invoice => ?_
  refine maintains_bind (maintains_lift _) fun phoneNumber => ?_
  refine maintains_bind (onTenant_maintains (onPayments_maintains _)) fun paymentIntent => ?_
  exact maintains_bind (onTenant_maintains (onBilling_maintains (updateInvoice_maintains _ _ _))) fun _ =>
    maintains_pure _

theorem createAllocation_maintains (office : BillingRuntime) (manualPaymentId : String)
    (invoiceId studentId : Option String) (allocationType : ManualFeePaymentAllocationType) (amountMinor : Nat) :
    Maintains (HasAllocation row)
      (createAllocation office manualPaymentId invoiceId studentId allocationType amountMinor) := by
  unfold createAllocation
  refine maintains_bind (maintains_failIf _ _) fun _ => ?_
  refine maintains_bind (maintains_lift _) fun studentId => ?_
  refine maintains_bind maintains_current fun db => ?_
  split
  · exact maintains_ite (maintains_pure ()) (maintains_write fun _ holds => holds)
  · exact maintains_fail _

theorem allocateClearedPayment_maintains (office : BillingRuntime) (locked : String → Bool)
    (payment : ManualFeePaymentEntity) :
    Maintains (HasAllocation row) (allocateClearedPayment office locked payment) := by
  unfold allocateClearedPayment
  refine maintains_bind maintains_current fun db => ?_
  refine maintains_bind (maintains_lift _) fun invoices => ?_
  refine maintains_bind (allocateRemaining_maintains _ (fun application => ?_) _ _) fun outcome => ?_
  · exact maintains_bind (updateInvoice_maintains _ _ _) fun _ => createAllocation_maintains _ _ _ _ _ _
  · refine maintains_bind ?_ fun _ => maintains_pure _
    exact maintains_ite (createAllocation_maintains _ _ _ _ _ _) (maintains_pure ())

theorem updatePayment_maintains (id : String) (change : ManualFeePaymentEntity → ManualFeePaymentEntity)
    (kept : ∀ payment, (change payment).id = payment.id) : Maintains (HasAllocation row) (updatePayment id change kept) := by
  unfold updatePayment
  refine maintains_bind maintains_current fun db => ?_
  split
  · exact maintains_fail _
  · exact maintains_bind (maintains_write fun _ holds => holds) fun _ => maintains_pure _

theorem create_maintains (office : BillingRuntime) (call : ManualCall) (dto : CreateManualFeePaymentDto)
    (amountMinor : Nat) (receivedAt : Int) :
    Maintains (HasAllocation row) (ManualFeePayments.create office call dto amountMinor receivedAt) := by
  unfold ManualFeePayments.create
  refine maintains_bind (maintains_lift _) fun studentId => ?_
  refine maintains_bind (maintains_lift _) fun invoiceId => ?_
  refine maintains_bind (maintains_failIf _ _) fun _ => ?_
  refine maintains_bind (maintains_failIf _ _) fun _ => ?_
  split
  · unfold insertPayment
    refine maintains_bind maintains_current fun db => ?_
    split
    · exact maintains_pure _
    · refine maintains_bind (maintains_failIf _ _) fun _ => ?_
      refine maintains_bind (maintains_failIf _ _) fun _ => ?_
      split
      · exact maintains_fail _
      · exact maintains_bind (maintains_write fun _ holds => holds) fun _ => maintains_pure _
  · exact maintains_fail _

theorem clearLockedPayment_maintains (office : BillingRuntime) (call : ManualCall) (payment : ManualFeePaymentEntity)
    (dto : UpdateManualFeePaymentStatusDto) :
    Maintains (TenantHasAllocation row) (clearLockedPayment office call payment dto) := by
  unfold clearLockedPayment postReceiptTransaction
  refine maintains_ite (maintains_pure _) ?_
  refine maintains_bind (maintains_failIf _ _) fun _ => ?_
  refine maintains_bind ?_ fun posted => ?_
  · refine maintains_bind maintains_current fun db => ?_
    refine maintains_bind (maintains_lift _) fun asset => ?_
    refine maintains_bind (maintains_lift _) fun control => ?_
    exact maintains_bind (maintains_lift _) fun effectiveAt => onFinance_maintains _
  · refine maintains_bind (onBilling_maintains (allocateClearedPayment_maintains _ _ _)) fun count => ?_
    exact maintains_bind (maintains_lift _) fun clearedAt => onBilling_maintains (updatePayment_maintains _ _ _)

theorem createManualFeePayment_maintains (office : BillingRuntime) (call : ManualCall)
    (dto : CreateManualFeePaymentDto) : Maintains (TenantHasAllocation row) (createManualFeePayment office call dto) := by
  unfold createManualFeePayment
  refine maintains_bind (maintains_lift _) fun _ => ?_
  refine maintains_bind (maintains_lift _) fun _ => ?_
  refine maintains_bind (maintains_lift _) fun amountMinor => ?_
  refine maintains_bind (maintains_lift _) fun receivedAt => ?_
  refine maintains_bind (onBilling_maintains (create_maintains _ _ _ _ _)) fun payment => ?_
  exact maintains_ite (maintains_pure _) (clearLockedPayment_maintains _ _ _ _)

theorem reverseAllocations_maintains (allocations : List ManualFeePaymentAllocationEntity) :
    Maintains (HasAllocation row) (reverseAllocations allocations) := by
  induction allocations with
  | nil => exact maintains_pure ()
  | cons allocation allocations ih =>
    unfold reverseAllocations reverseAllocation
    refine maintains_bind ?_ fun _ => ih
    split
    · exact updateInvoice_maintains _ _ _
    · exact maintains_pure ()

theorem reverseManualFeePayment_maintains (office : BillingRuntime) (call : ManualCall) (paymentId : String)
    (dto : UpdateManualFeePaymentStatusDto) :
    Maintains (TenantHasAllocation row) (reverseManualFeePayment office call paymentId dto) := by
  unfold reverseManualFeePayment postReversalTransaction
  refine maintains_bind maintains_current fun db => ?_
  refine maintains_bind (maintains_lift _) fun payment => ?_
  refine maintains_bind (maintains_failIf _ _) fun _ => ?_
  refine maintains_bind ?_ fun posted => ?_
  · refine maintains_bind maintains_current fun db => ?_
    refine maintains_bind (maintains_lift _) fun asset => ?_
    refine maintains_bind (maintains_lift _) fun control => ?_
    exact maintains_bind (maintains_lift _) fun effectiveAt => onFinance_maintains _
  · refine maintains_bind (onBilling_maintains (reverseAllocations_maintains _)) fun _ => ?_
    exact maintains_bind (maintains_lift _) fun reversedAt => onBilling_maintains (updatePayment_maintains _ _ _)

theorem receiptRequest_maintains (office : BillingRuntime) (call : ManualCall) (request : ManualFeeRequest) :
    Maintains (TenantHasAllocation row) (request.perform office call) := by
  cases request with
  | create dto => exact createManualFeePayment_maintains office call dto
  | deposit paymentId dto =>
    refine maintains_bind maintains_current fun db => ?_
    refine maintains_bind (maintains_lift _) fun payment => ?_
    refine maintains_bind (maintains_failIf _ _) fun _ => ?_
    refine maintains_bind (maintains_failIf _ _) fun _ => ?_
    exact maintains_bind (maintains_lift _) fun depositedAt => onBilling_maintains (updatePayment_maintains _ _ _)
  | clear paymentId dto =>
    refine maintains_bind maintains_current fun db => ?_
    exact maintains_bind (maintains_lift _) fun payment => clearLockedPayment_maintains _ _ _ _
  | bounce paymentId dto =>
    refine maintains_bind maintains_current fun db => ?_
    refine maintains_bind (maintains_lift _) fun payment => ?_
    refine maintains_bind (maintains_failIf _ _) fun _ => ?_
    refine maintains_bind (maintains_failIf _ _) fun _ => ?_
    exact maintains_bind (maintains_lift _) fun bouncedAt => onBilling_maintains (updatePayment_maintains _ _ _)
  | reverse paymentId dto => exact reverseManualFeePayment_maintains office call paymentId dto

theorem completePayment_maintains (runtime : PaymentsRuntime) (context : CallbackContext)
    (paymentIntent : PaymentIntentEntity) (callback : ParsedMpesaCallback) (amountMinor : Nat) :
    Maintains (TenantHasAllocation row) (completePayment runtime context paymentIntent callback amountMinor) := by
  unfold completePayment
  refine maintains_bind (onPayments_maintains _) fun _ => ?_
  refine maintains_bind ?_ fun posted => ?_
  · refine maintains_bind maintains_current fun db => ?_
    refine maintains_bind (maintains_lift _) fun debitCode => ?_
    refine maintains_bind (maintains_lift _) fun creditCode => ?_
    split
    · exact onFinance_maintains _
    · exact maintains_fail _
  · refine maintains_bind (onPayments_maintains _) fun _ => ?_
    refine maintains_bind (onPayments_maintains _) fun _ => ?_
    exact maintains_bind (onBilling_maintains (handlePaymentIntentCompleted_maintains _ _ _ _ _)) fun _ =>
      maintains_pure _

theorem settlePayment_maintains (runtime : PaymentsRuntime) (context : CallbackContext)
    (paymentIntent : PaymentIntentEntity) (callback : ParsedMpesaCallback) (amountMinor : Nat)
    (mpesaTransaction : MpesaTransactionEntity) :
    Maintains (TenantHasAllocation row)
      (settlePayment runtime context paymentIntent callback amountMinor mpesaTransaction) := by
  unfold settlePayment
  split
  · exact maintains_ite (maintains_bind (onPayments_maintains _) fun _ => maintains_pure _) (maintains_pure _)
  · exact maintains_bind (onPayments_maintains _) fun _ => maintains_pure _
  · exact maintains_ite (maintains_pure _)
      (maintains_bind (completePayment_maintains _ _ _ _ _) fun _ => maintains_pure _)

theorem processLockedPayment_maintains (runtime : PaymentsRuntime) (context : CallbackContext)
    (callback : ParsedMpesaCallback) :
    Maintains (TenantHasAllocation row) (processLockedPayment runtime context callback) := by
  unfold processLockedPayment
  refine maintains_bind maintains_current fun db => ?_
  split
  · exact maintains_fail _
  · refine maintains_bind (maintains_ite (maintains_pure ()) (onPayments_maintains _)) fun _ => ?_
    refine maintains_bind (onPayments_maintains _) fun mpesaTransaction => ?_
    refine maintains_ite (maintains_bind (onPayments_maintains _) fun _ => maintains_pure _) ?_
    split
    · exact maintains_fail _
    · exact maintains_bind (maintains_lift _) fun _ => settlePayment_maintains _ _ _ _ _ _

theorem perform_keeps_allocation (runtime : PaymentsRuntime) (office : BillingRuntime) {db : SchoolDb}
    (operation : FeeOperation) (holds : SchoolHasAllocation row db) :
    SchoolHasAllocation row (operation.perform runtime office db) := by
  cases operation with
  | school request =>
    cases request with
    | createInvoice call dto => exact commit_maintained (onInvoicing_maintains _) holds
    | bulkGenerateFeeInvoices call => exact commit_maintained (onInvoicing_maintains _) holds
    | ensureRenewalInvoice call => exact commit_maintained (onInvoicing_maintains _) holds
    | createInvoicePaymentIntent call => exact commit_maintained (createInvoicePaymentIntent_maintains runtime call) holds
    | handlePaymentIntentCompleted payment => exact commit_maintained (completeInvoicePayment_maintains _ payment) holds
  | receipt call request =>
    have kept : TenantHasAllocation row (receiptStep office db.tenant (call, request)) :=
      commit_maintained (receiptRequest_maintains office call request) holds
    exact kept
  | payment event =>
    have kept : TenantHasAllocation row (performPayment runtime db.tenant event) := by
      cases event with
      | callback context callback => exact commit_maintained (processLockedPayment_maintains _ _ _) holds
      | sweep now locked =>
        exact commit_maintained (maintains_bind (onPayments_maintains _) fun _ => maintains_pure _) holds
    exact kept

end Kept

structure ConfirmedPayment where
  tenantId : String
  locked : String → Bool
  paymentIntent : PaymentIntentEntity
  amountPaidMinor : Nat
  ledgerTransactionId : Option String

namespace ConfirmedPayment

def ledger (payment : ConfirmedPayment) : Option String :=
  readString payment.ledgerTransactionId <|> readString payment.paymentIntent.ledgerTransactionId

def idempotencyKey (payment : ConfirmedPayment) : String :=
  buildAllocationIdempotencyKey payment.tenantId payment.paymentIntent.id payment.ledger

def allocate (payment : ConfirmedPayment) : Transaction SchoolDb Exception StudentFeePaymentAllocationResult :=
  onTenant (onBilling (allocateConfirmedPayment payment.tenantId payment.locked payment.paymentIntent
    payment.amountPaidMinor payment.ledgerTransactionId))

def invoices (payment : ConfirmedPayment) (db : BillingDb) : List InvoiceEntity :=
  match readString payment.paymentIntent.studentId with
  | none => []
  | some studentId =>
    findStudentFeeInvoicesForAllocation db payment.locked studentId (resolveExplicitInvoiceId payment.paymentIntent)

def Known (payment : ConfirmedPayment) (db : BillingDb) : Prop :=
  ∃ existing ∈ db.studentAllocations, existing.idempotencyKey = payment.idempotencyKey

/-- The same tenant, payment intent and ledger transaction; whatever else the intent says by now. -/
structure Repeats (again payment : ConfirmedPayment) : Prop where
  tenantId : again.tenantId = payment.tenantId
  intent : again.paymentIntent.id = payment.paymentIntent.id
  ledger : again.ledger = payment.ledger
  student : (readString again.paymentIntent.studentId).isSome

def duplicate : StudentFeePaymentAllocationResult := ⟨true, 0, 0, []⟩

/-- Run again, at once or after anything else the school does, the payment changes nothing. -/
def StaysDuplicate (runtime : PaymentsRuntime) (office : BillingRuntime) (payment : ConfirmedPayment) (db : SchoolDb) :
    Prop :=
  ∀ (operations : List FeeOperation) (again : ConfirmedPayment), again.Repeats payment →
    again.allocate.run (run (FeeOperation.perform runtime office) db operations) =
      .ok (duplicate, run (FeeOperation.perform runtime office) db operations)

variable {payment again : ConfirmedPayment} {db after : BillingDb}

theorem Repeats.key (repeats : again.Repeats payment) : again.idempotencyKey = payment.idempotencyKey := by
  rw [idempotencyKey, idempotencyKey, repeats.tenantId, repeats.intent, repeats.ledger]

theorem allocate_of_known {school : SchoolDb} (student : (readString payment.paymentIntent.studentId).isSome)
    (known : payment.Known school.tenant.billing) : payment.allocate.run school = .ok (duplicate, school) := by
  obtain ⟨studentId, read⟩ := Option.isSome_iff_exists.mp student
  have inner : (allocateConfirmedPayment payment.tenantId payment.locked payment.paymentIntent payment.amountPaidMinor
      payment.ledgerTransactionId).run school.tenant.billing = .ok (duplicate, school.tenant.billing) := by
    have found : ∃ existing ∈ school.tenant.billing.studentAllocations, existing.idempotencyKey =
      buildAllocationIdempotencyKey payment.tenantId payment.paymentIntent.id
        (readString payment.ledgerTransactionId <|> readString payment.paymentIntent.ledgerTransactionId) := known
    simp only [allocateConfirmedPayment, read]
    rw [run_bind, run_current]
    simp only [if_pos found]
    rfl
  exact onTenant_ok.mpr ⟨_, onBilling_ok.mpr ⟨_, inner, rfl⟩, rfl⟩

section First

variable {studentId idempotencyKey : String} {paymentIntent : PaymentIntentEntity} {ledgerTransactionId : Option String}
  {applications : List Application} {application : Application}

theorem settleStudentFee_known
    (settled : (settleStudentFee studentId paymentIntent ledgerTransactionId idempotencyKey application).run db =
      .ok ((), after)) : ∃ existing ∈ after.studentAllocations, existing.idempotencyKey = idempotencyKey := by
  simp only [settleStudentFee, applyStudentFeeInvoicePayment, updateInvoice, createStudentFeePaymentAllocation,
    run_bind_ok, run_write_ok, run_current_ok] at settled
  obtain ⟨_, _, rfl, _, _, ⟨rfl, rfl⟩, rest⟩ := settled
  split at rest
  · simp only [run_ite_ok, run_pure_ok, run_write_ok] at rest
    rcases rest with ⟨⟨other, member, same, -⟩, -, rfl⟩ | ⟨-, rfl⟩
    · exact ⟨other, member, same⟩
    · exact ⟨_, List.mem_append_right _ (List.mem_singleton_self _), rfl⟩
  · simp at rest

theorem settleAll_known
    (settled : (settleAll (settleStudentFee studentId paymentIntent ledgerTransactionId idempotencyKey)
      applications).run db = .ok ((), after)) :
    (∃ existing ∈ after.studentAllocations, existing.idempotencyKey = idempotencyKey) ↔
      (∃ existing ∈ db.studentAllocations, existing.idempotencyKey = idempotencyKey) ∨ applications ≠ [] := by
  cases applications with
  | nil =>
    simp only [settleAll, run_pure_ok, true_and] at settled
    simp [settled]
  | cons application applications =>
    simp only [settleAll, run_bind_ok] at settled
    obtain ⟨_, middle, first, rest⟩ := settled
    obtain ⟨row, written, same⟩ := settleStudentFee_known first
    have kept : Maintains (HasAllocation row)
        (settleAll (settleStudentFee studentId paymentIntent ledgerTransactionId idempotencyKey) applications) := by
      clear rest
      induction applications with
      | nil => exact maintains_pure ()
      | cons other others ih => exact maintains_bind (settleStudentFee_maintains _ _ _ _ _) fun _ => ih
    have present : ∃ existing ∈ after.studentAllocations, existing.idempotencyKey = idempotencyKey :=
      ⟨row, kept middle () after written rest, same⟩
    simp [present]

theorem createStudentFeeCredit_allocations {parentUserId : Option String} {paymentIntentId : String} {amountMinor : Nat}
    (credited : (createStudentFeeCredit studentId parentUserId paymentIntentId ledgerTransactionId amountMinor
      idempotencyKey).run db = .ok ((), after)) : after.studentAllocations = db.studentAllocations := by
  simp only [createStudentFeeCredit, run_bind_ok, run_current_ok] at credited
  obtain ⟨_, _, ⟨rfl, rfl⟩, rest⟩ := credited
  split at rest
  · simp only [run_ite_ok, run_pure_ok, run_write_ok] at rest
    rcases rest with ⟨-, -, rfl⟩ | ⟨-, rfl⟩ <;> rfl
  · simp at rest

theorem spreadIntent_known {invoices : List InvoiceEntity} {amountPaidMinor : Nat} {outcome : List Application × Nat}
    (owned : ∀ invoice ∈ invoices, invoice.studentId = some studentId)
    (ran : (spreadIntent studentId paymentIntent ledgerTransactionId idempotencyKey amountPaidMinor invoices).run db =
      .ok (outcome, after)) :
    (∃ existing ∈ after.studentAllocations, existing.idempotencyKey = idempotencyKey) ↔
      (∃ existing ∈ db.studentAllocations, existing.idempotencyKey = idempotencyKey) ∨
        spread amountPaidMinor invoices ≠ [] := by
  rw [spreadIntent, allocateRemaining_eq _ _ (assertInvoiceBelongsToStudent_ok owned)] at ran
  simp only [run_bind_ok, run_pure_ok, run_ite_ok] at ran
  obtain ⟨_, middle, ⟨_, _, settled, rfl, rfl⟩, rest⟩ := ran
  rw [← settleAll_known settled]
  rcases rest with ⟨-, _, _, credited, -, rfl⟩ | ⟨-, -, rfl⟩
  · rw [createStudentFeeCredit_allocations credited]
  · exact Iff.rfl

end First

theorem allocateConfirmedPayment_ok {result : StudentFeePaymentAllocationResult} (unknown : ¬ payment.Known db)
    (ran : (allocateConfirmedPayment payment.tenantId payment.locked payment.paymentIntent payment.amountPaidMinor
      payment.ledgerTransactionId).run db = .ok (result, after)) :
    result.duplicate = false ∧
      (payment.Known after ↔ 0 < payment.amountPaidMinor ∧ payment.invoices db ≠ []) := by
  cases read : readString payment.paymentIntent.studentId with
  | none =>
    simp only [allocateConfirmedPayment, read] at ran
    exact absurd ran run_fail_ok
  | some studentId =>
    have owned := @findStudentFeeInvoicesForAllocation_owned db payment.locked studentId
      (resolveExplicitInvoiceId payment.paymentIntent) (readString_readString read)
    rw [allocateConfirmedPayment_run read unknown] at ran
    simp only [run_bind_ok, run_pure_ok] at ran
    obtain ⟨outcome, last, spreadOut, rfl, rfl⟩ := ran
    have found : payment.invoices db = findStudentFeeInvoicesForAllocation db payment.locked studentId
        (resolveExplicitInvoiceId payment.paymentIntent) := by
      rw [invoices, read]
    have due : ∀ invoice ∈ payment.invoices db, 0 < invoice.balance := by
      intro invoice member
      rw [found] at member
      exact Nat.sub_pos_of_lt (mem_findStudentFeeInvoicesForAllocation member).2.2.2
    refine ⟨rfl, (spreadIntent_known owned spreadOut).trans ?_⟩
    rw [← found, spread, Ne, List.map_eq_nil_iff, fill_eq_nil]
    have none_due : (∀ invoice ∈ payment.invoices db, invoice.balance = 0) ↔ payment.invoices db = [] := by
      constructor
      · intro empty
        apply List.eq_nil_iff_forall_not_mem.mpr
        intro invoice member
        exact absurd (empty invoice member) (Nat.pos_iff_ne_zero.mp (due invoice member))
      · intro nothing
        simp [nothing]
    rw [none_due, not_or, Nat.pos_iff_ne_zero]
    exact or_iff_right unknown

/-- A payment that was allocated once is a duplicate ever after exactly when the first time found it allocated
already, or found an open invoice to pay. -/
theorem repeated_payment_is_duplicate_iff (runtime : PaymentsRuntime) (office : BillingRuntime)
    (payment : ConfirmedPayment) {db after : SchoolDb} {result : StudentFeePaymentAllocationResult}
    (first : payment.allocate.run db = .ok (result, after)) :
    StaysDuplicate runtime office payment after ↔
      payment.Known db.tenant.billing ∨ 0 < payment.amountPaidMinor ∧ payment.invoices db.tenant.billing ≠ [] := by
  have student : (readString payment.paymentIntent.studentId).isSome := by
    cases read : readString payment.paymentIntent.studentId with
    | some studentId => rfl
    | none =>
      obtain ⟨_, inner, -⟩ := onTenant_ok.mp first
      obtain ⟨_, ran, -⟩ := onBilling_ok.mp inner
      simp only [allocateConfirmedPayment, read] at ran
      exact absurd ran run_fail_ok
  have left : payment.Known after.tenant.billing ↔
      payment.Known db.tenant.billing ∨ 0 < payment.amountPaidMinor ∧ payment.invoices db.tenant.billing ≠ [] := by
    by_cases known : payment.Known db.tenant.billing
    · have same := (allocate_of_known student known).symm.trans first
      cases same
      simp [known]
    · obtain ⟨_, inner, rfl⟩ := onTenant_ok.mp first
      obtain ⟨_, ran, rfl⟩ := onBilling_ok.mp inner
      rw [or_iff_right known]
      exact (allocateConfirmedPayment_ok known ran).2
  rw [← left]
  constructor
  · intro stays
    by_contra unknown
    obtain ⟨_, inner, -⟩ := onTenant_ok.mp (stays [] payment ⟨rfl, rfl, rfl, student⟩)
    obtain ⟨_, ran, -⟩ := onBilling_ok.mp inner
    have reported := (allocateConfirmedPayment_ok unknown ran).1
    cases reported
  · rintro ⟨row, present, same⟩ operations again repeats
    apply allocate_of_known repeats.student
    refine ⟨row, ?_, same.trans repeats.key.symm⟩
    clear first left
    induction operations generalizing after with
    | nil => exact present
    | cons operation operations ih => exact ih (perform_keeps_allocation runtime office operation present)

def feePayment : ConfirmedPayment := ⟨"school", fun _ => false, feeIntent, 500, some "ledger-1"⟩

def billedSchool : SchoolDb :=
  { unbilledSchool with tenant := { unbilledSchool.tenant with billing := billed threeFees (by decide) } }

theorem paid_fees_stay_paid :
    StaysDuplicate schoolRuntime officeRuntime feePayment (commit feePayment.allocate billedSchool) :=
  have first : feePayment.allocate.run billedSchool = .ok (⟨false, 500, 0, [("first", 300), ("third", 200)]⟩,
    commit feePayment.allocate billedSchool) := by decide +kernel
  (repeated_payment_is_duplicate_iff schoolRuntime officeRuntime feePayment first).mpr (.inr ⟨by decide, by decide⟩)

def termFees : FeeOperation :=
  .school (.createInvoice ⟨dayMs, "i1", "INV-i1"⟩ ⟨"Term fees", 300, none, none, [("student_id", .str "student")]⟩)

/-- The payment is a credit of 500 by the first call, and pays 300 for the bill by the second. -/
theorem early_payment_is_spent_again :
    (attempt feePayment.allocate unbilledSchool).2 = .ok ⟨false, 0, 500, []⟩ ∧
    (attempt feePayment.allocate (run (FeeOperation.perform schoolRuntime officeRuntime)
      (commit feePayment.allocate unbilledSchool) [termFees])).2 = .ok ⟨false, 300, 200, [("i1", 300)]⟩ ∧
    ¬ StaysDuplicate schoolRuntime officeRuntime feePayment (commit feePayment.allocate unbilledSchool) := by
  have again : (attempt feePayment.allocate (run (FeeOperation.perform schoolRuntime officeRuntime)
      (commit feePayment.allocate unbilledSchool) [termFees])).2 = .ok ⟨false, 300, 200, [("i1", 300)]⟩ := by
    decide +kernel
  refine ⟨by decide +kernel, again, fun stays => ?_⟩
  have ran := attempt_ok.mpr (stays [termFees] feePayment ⟨rfl, rfl, rfl, by decide⟩)
  rw [ran] at again
  cases again

end ConfirmedPayment

end ShuleHub.Billing
