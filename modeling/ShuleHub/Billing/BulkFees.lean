import ShuleHub.Billing.Invoicing
import ShuleHub.Lib.Locking

/-! The invoices of a fee structure for a list of students, by requests that wait for one another on the
advisory lock of the tenant. -/

namespace ShuleHub.Billing

open Transaction BillingLifecycle Locking Runs

structure BulkFeeInvoiceStudentDto where
  studentId : String
  studentName : String
  admissionNumber : Option String
  className : Option String
  guardianPhone : Option String

structure NormalizedBulkFeeStudent where
  studentId : String
  studentName : String
  admissionNumber : Option String
  className : Option String
  guardianPhone : Option String

structure BulkGenerateFeeInvoicesDto where
  feeStructureId : Option String
  idempotencyKey : String
  dueAt : Option String
  targetStudents : List BulkFeeInvoiceStudentDto
  metadata : Metadata

structure BulkCall where
  now : Int
  newInvoiceId : Nat → String
  newInvoiceNumber : Nat → String
  dto : BulkGenerateFeeInvoicesDto

structure SkippedStudent where
  studentId : String
  studentName : String
  invoiceId : String

structure BulkFeeInvoiceGenerationResponse where
  feeStructureId : String
  idempotencyKey : String
  generatedCount : Nat
  skippedCount : Nat
  invoices : List InvoiceEntity
  skipped : List SkippedStudent

namespace BulkFees

variable (feeStructureId : String) (call : BulkCall)

def normalizeStudent (student : BulkFeeInvoiceStudentDto) : NormalizedBulkFeeStudent where
  studentId := JsText.trim student.studentId
  studentName := JsText.trim student.studentName
  admissionNumber := readString student.admissionNumber
  className := readString student.className
  guardianPhone := readString student.guardianPhone

@[grind =] def normalizeBulkFeeStudents :
    List String → List BulkFeeInvoiceStudentDto → Except Exception (List NormalizedBulkFeeStudent)
  | _, [] => return []
  | seenStudentIds, student :: students => do
    let normalized := normalizeStudent student
    failIf (normalized.studentId = "" ∨ normalized.studentName = "")
      (.badRequest "Bulk invoice targets require student id and name")
    failIf (normalized.studentId ∈ seenStudentIds)
      (.conflict ("Student \"" ++ normalized.studentId ++ "\" appears more than once in the bulk invoice request"))
    let rest ← normalizeBulkFeeStudents (normalized.studentId :: seenStudentIds) students
    return normalized :: rest

def newestFirst (left right : InvoiceEntity) : Prop :=
  right.issuedAt < left.issuedAt ∨ right.issuedAt = left.issuedAt ∧ right.createdAt ≤ left.createdAt
deriving Decidable

def listInvoices (db : InvoicingDb) : List InvoiceEntity := db.invoices.rows.insertionSort newestFirst

def isActiveFor (invoice : InvoiceEntity) : Bool :=
  invoice.status ≠ .void && invoice.status ≠ .uncollectible &&
    readStringMetadata invoice.metadata "fee_structure_id" = some feeStructureId

def noteActive (active : JsMap String InvoiceEntity) (invoice : InvoiceEntity) :
    JsMap String InvoiceEntity :=
  if isActiveFor feeStructureId invoice then
    match invoice.studentId with
    | some studentId => if (active.get? studentId).isSome then active else active.set studentId invoice
    | none => active
  else active

def activeInvoiceByStudent (invoices : List InvoiceEntity) : JsMap String InvoiceEntity :=
  invoices.foldl (noteActive feeStructureId) []

def bulkGenerationReason : String := "fee_structure_bulk_generation"

def feeMetadata (feeStructure : FeeStructureEntity) (student : NormalizedBulkFeeStudent) : Metadata :=
  call.dto.metadata.merge
    [("billing_reason", .str bulkGenerationReason),
      ("fee_structure_id", .str feeStructure.id),
      ("idempotency_key", .str (JsText.trim call.dto.idempotencyKey)),
      ("academic_year", .str feeStructure.academicYear),
      ("term", .str feeStructure.term),
      ("grade_level", .str feeStructure.gradeLevel),
      ("class_name", jsonText (student.className <|> feeStructure.className)),
      ("student_id", .str student.studentId),
      ("student_name", .str student.studentName),
      ("admission_number", jsonText student.admissionNumber),
      ("line_items", feeStructure.lineItems)]

def feeInvoiceInput (subscription : SubscriptionEntity) (feeStructure : FeeStructureEntity)
    (dueAt : Int) (position : Nat) (student : NormalizedBulkFeeStudent) : CreateInvoiceInput where
  id := call.newInvoiceId position
  subscriptionId := subscription.id
  invoiceNumber := call.newInvoiceNumber position
  currencyCode := subscription.currencyCode
  description := feeStructure.name ++ " - " ++ student.studentName
  totalAmountMinor := feeStructure.totalAmountMinor
  billingPhoneNumber := student.guardianPhone <|> subscription.billingPhoneNumber
  issuedAt := call.now
  dueAt
  createdAt := call.now
  metadata := feeMetadata call feeStructure student

def generateInvoice (subscription : SubscriptionEntity) (feeStructure : FeeStructureEntity)
    (dueAt : Int) (position : Nat) (student : NormalizedBulkFeeStudent) :
    Transaction InvoicingDb Exception InvoiceEntity := do
  let invoice ← Invoicing.insertInvoice (feeInvoiceInput call subscription feeStructure dueAt position student)
  Invoicing.markInvoiceIssued subscription.id call.now
  return invoice

def generateInvoices (call : BulkCall) (subscription : SubscriptionEntity) (feeStructure : FeeStructureEntity)
    (dueAt : Int) : Nat → JsMap String InvoiceEntity → List NormalizedBulkFeeStudent →
    Transaction InvoicingDb Exception (List InvoiceEntity × List SkippedStudent)
  | _, _, [] => return ([], [])
  | position, active, student :: students =>
    match active.get? student.studentId with
    | some existingInvoice => do
      let (invoices, skipped) ← generateInvoices call subscription feeStructure dueAt (position + 1) active students
      return (invoices, ⟨student.studentId, student.studentName, existingInvoice.id⟩ :: skipped)
    | none => do
      let invoice ← generateInvoice call subscription feeStructure dueAt position student
      let (invoices, skipped) ← generateInvoices call subscription feeStructure dueAt (position + 1)
        (active.set student.studentId invoice) students
      return (invoice :: invoices, skipped)

def uuid (text : String) : String := String.ofList (text.toList.map Char.toLower)

def requireActiveFeeStructure : Transaction InvoicingDb Exception FeeStructureEntity := do
  let db ← current
  match db.feeStructures.find (uuid feeStructureId) with
  | none => fail (.notFound ("Fee structure \"" ++ feeStructureId ++ "\" was not found"))
  | some feeStructure =>
    failIf (feeStructure.status ≠ .active)
      (.conflict ("Fee structure cannot generate invoices while status is \"" ++ feeStructure.status.text ++ "\""))
    return feeStructure

def generateLocked (runtime : Runtime) (call : BulkCall) (feeStructureId : String) (existingInvoices : List InvoiceEntity) :
    Transaction InvoicingDb Exception BulkFeeInvoiceGenerationResponse := do
  let subscription ← Invoicing.requireBillableSubscription
  let feeStructure ← requireActiveFeeStructure feeStructureId
  let students ← monadLift (normalizeBulkFeeStudents [] call.dto.targetStudents)
  let dueAt ← monadLift (Invoicing.resolveDueAt runtime call.dto.dueAt (addDays call.now feeStructure.dueDays))
  let (invoices, skipped) ← generateInvoices call subscription feeStructure dueAt 0
    (activeInvoiceByStudent feeStructure.id existingInvoices) students
  let response : BulkFeeInvoiceGenerationResponse :=
    { feeStructureId := feeStructure.id
      idempotencyKey := JsText.trim call.dto.idempotencyKey
      generatedCount := invoices.length
      skippedCount := skipped.length
      invoices
      skipped }
  return response

def requireFeeStructureId (dto : BulkGenerateFeeInvoicesDto) : Except Exception String :=
  match readString dto.feeStructureId with
  | some feeStructureId => .ok feeStructureId
  | none => .error (.badRequest "Fee structure id is required for bulk invoice generation")

def bulkGenerateFeeInvoices (runtime : Runtime) (call : BulkCall) :
    Transaction InvoicingDb Exception BulkFeeInvoiceGenerationResponse := do
  let feeStructureId ← monadLift (requireFeeStructureId call.dto)
  let db ← current
  generateLocked runtime call feeStructureId (listInvoices db)

end BulkFees

end ShuleHub.Billing
