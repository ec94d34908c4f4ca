import ShuleHub.Billing.Invoices
import ShuleHub.Payments.Intents

/-! What billing does when a payment intent completes: a student's payment is spread over the invoices
of the student, any other intent pays the invoice that points at it. -/

namespace ShuleHub.Billing

open Transaction Invoices Payments

variable {studentId idempotencyKey : String} {ledgerTransactionId : Option String} {db after : BillingDb}

def isHexDigit (c : Char) : Bool :=
  ('0' ≤ c && c ≤ '9') || ('a' ≤ c && c ≤ 'f') || ('A' ≤ c && c ≤ 'F')

def isUuid (value : String) : Bool :=
  value.toList.length = 36 && value.toList.zipIdx.all fun (c, index) =>
    if index = 8 ∨ index = 13 ∨ index = 18 ∨ index = 23 then c = '-'
    else if index = 14 then '1' ≤ c && c ≤ '5'
    else if index = 19 then c ∈ ['8', '9', 'a', 'b', 'A', 'B']
    else isHexDigit c

def readUuid (value : Option String) : Option String :=
  (readString value).filter fun text => isUuid text

def resolveExplicitInvoiceId (paymentIntent : PaymentIntentEntity) : Option String :=
  readUuid paymentIntent.externalReference <|> readUuid (some paymentIntent.accountReference) <|>
    readUuid (readStringMetadata paymentIntent.metadata "invoice_id")

def buildAllocationIdempotencyKey (tenantId paymentIntentId : String) (ledgerTransactionId : Option String) :
    String :=
  "student-fee:" ++ tenantId ++ ":" ++ paymentIntentId ++ ":" ++ ledgerTransactionId.getD "no-ledger"

def assertInvoiceBelongsToStudent (studentId : String) (invoice : InvoiceEntity) : Except Exception Unit :=
  failIf (invoice.studentId ≠ some studentId)
    (.badRequest "Student fee invoice does not belong to the payment tenant and student")

def createStudentFeePaymentAllocation (invoiceId studentId : String) (parentUserId : Option String)
    (paymentIntentId : String) (ledgerTransactionId : Option String) (amountMinor : Nat) (idempotencyKey : String) :
    Transaction BillingDb Exception Unit := do
  let db ← current
  if positive : 0 < amountMinor then
    if ∃ other ∈ db.studentAllocations, other.idempotencyKey = idempotencyKey ∧ other.invoiceId = invoiceId then
      return ()
    else
      write fun db => { db with
        studentAllocations := db.studentAllocations ++ [{
          invoiceId, studentId, parentUserId, paymentIntentId, ledgerTransactionId, amountMinor, idempotencyKey
          amountPositive := positive }] }
  else
    fail (.database "ck_student_fee_payment_allocations_amount")

def createStudentFeeCredit (studentId : String) (parentUserId : Option String) (paymentIntentId : String)
    (ledgerTransactionId : Option String) (amountMinor : Nat) (idempotencyKey : String) :
    Transaction BillingDb Exception Unit := do
  let db ← current
  if positive : 0 < amountMinor then
    if ∃ other ∈ db.studentCredits, other.idempotencyKey = idempotencyKey then
      return ()
    else
      write fun db => { db with
        studentCredits := db.studentCredits ++ [{
          studentId, parentUserId, paymentIntentId, ledgerTransactionId, amountMinor, idempotencyKey
          amountPositive := positive }] }
  else
    fail (.database "ck_student_fee_credits_amount")

structure StudentFeePaymentAllocationResult where
  duplicate : Bool
  allocatedAmountMinor : Nat
  creditAmountMinor : Nat
  invoiceAllocations : List (String × Nat)
deriving DecidableEq

def settleStudentFee (studentId : String) (paymentIntent : PaymentIntentEntity)
    (ledgerTransactionId : Option String) (idempotencyKey : String) (application : Application) :
    Transaction BillingDb Exception Unit := do
  applyStudentFeeInvoicePayment application.invoice.id paymentIntent.id application.nextPaid application.nextStatus
  createStudentFeePaymentAllocation application.invoice.id studentId
    (paymentIntent.userId <|> readStringMetadata paymentIntent.metadata "parent_user_id")
    paymentIntent.id ledgerTransactionId application.applied idempotencyKey

def allocateConfirmedPayment (tenantId : String) (locked : String → Bool) (paymentIntent : PaymentIntentEntity)
    (amountPaidMinor : Nat) (ledgerTransactionId : Option String) :
    Transaction BillingDb Exception StudentFeePaymentAllocationResult := do
  match readString paymentIntent.studentId with
  | none => fail (.badRequest "Student fee payment allocation requires paymentIntent.student_id")
  | some studentId =>
    let ledgerTransactionId := readString ledgerTransactionId <|> readString paymentIntent.ledgerTransactionId
    let idempotencyKey := buildAllocationIdempotencyKey tenantId paymentIntent.id ledgerTransactionId
    let db ← current
    if ∃ existing ∈ db.studentAllocations, existing.idempotencyKey = idempotencyKey then
      return ⟨true, 0, 0, []⟩
    else
      let invoices :=
        findStudentFeeInvoicesForAllocation db locked studentId (resolveExplicitInvoiceId paymentIntent)
      let (applications, remaining) ← allocateRemaining (assertInvoiceBelongsToStudent studentId)
        (settleStudentFee studentId paymentIntent ledgerTransactionId idempotencyKey) amountPaidMinor invoices
      if 0 < remaining then
        createStudentFeeCredit studentId
          (paymentIntent.userId <|> readStringMetadata paymentIntent.metadata "parent_user_id")
          paymentIntent.id ledgerTransactionId remaining idempotencyKey
      return {
        duplicate := false
        allocatedAmountMinor := (applications.map (·.applied)).sum
        creditAmountMinor := remaining
        invoiceAllocations := applications.map fun application => (application.invoice.id, application.applied) }

def handlePaymentIntentCompleted (tenantId : String) (locked : String → Bool) (paymentIntent : PaymentIntentEntity)
    (amountPaidMinor : Nat) (ledgerTransactionId : Option String) : Transaction BillingDb Exception Unit := do
  if paymentIntent.studentId.any (· ≠ "") then
    let _ ← allocateConfirmedPayment tenantId locked paymentIntent amountPaidMinor ledgerTransactionId
    return ()
  else
    let db ← current
    match lockByPaymentIntentId db paymentIntent.id with
    | none => return ()
    | some invoice =>
      if invoice.status = .paid then return ()
      else markPaid invoice.id amountPaidMinor

theorem settleStudentFee_invoices {paymentIntent : PaymentIntentEntity} {application : Application}
    (settled : (settleStudentFee studentId paymentIntent ledgerTransactionId idempotencyKey application).run db =
      .ok ((), after)) :
    after.invoices = db.invoices.update application.invoice.id
      (payFromIntent paymentIntent.id application.nextPaid application.nextStatus) fun _ => rfl := by
  simp only [settleStudentFee, applyStudentFeeInvoicePayment, updateInvoice,
    createStudentFeePaymentAllocation, run_bind_ok, run_write_ok, run_current_ok] at settled
  obtain ⟨_, _, rfl, _, _, ⟨rfl, rfl⟩, rest⟩ := settled
  split at rest
  · simp only [run_ite_ok, run_pure_ok, run_write_ok] at rest
    rcases rest with ⟨-, -, rfl⟩ | ⟨-, rfl⟩ <;> rfl
  · simp at rest

theorem createStudentFeeCredit_invoices {paymentIntentId : String}
    {parentUserId : Option String} {amountMinor : Nat}
    (credited : (createStudentFeeCredit studentId parentUserId paymentIntentId ledgerTransactionId amountMinor
      idempotencyKey).run db = .ok ((), after)) : after.invoices = db.invoices := by
  simp only [createStudentFeeCredit, run_bind_ok, run_current_ok] at credited
  obtain ⟨_, _, ⟨rfl, rfl⟩, rest⟩ := credited
  split at rest
  · simp only [run_ite_ok, run_pure_ok, run_write_ok] at rest
    rcases rest with ⟨-, -, rfl⟩ | ⟨-, rfl⟩ <;> rfl
  · simp at rest

end ShuleHub.Billing
