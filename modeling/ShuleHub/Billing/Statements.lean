import ShuleHub.Billing.RepeatedAllocations
import ShuleHub.Lib.Sorting

/-! The fee statement of a student: a running balance over the invoices and the receipts of the student, and
the balance that is summed up from the same rows. -/

namespace ShuleHub.Billing

open Transaction Finance Runs Totals

variable {Item : Type} (receipt : ManualFeePaymentEntity)

structure InvoiceColumns where
  description : String
  paidAt : Option Int
  updatedAt : Int

variable (columns : String → InvoiceColumns)

inductive StatementEntryKind where
  | invoice
  | receipt
deriving DecidableEq

structure StudentStatementWorkingEntry where
  id : String
  kind : StatementEntryKind
  sourceId : String
  invoiceId : Option String
  reference : String
  description : String
  status : String
  method : String
  debitAmountMinor : Nat
  creditAmountMinor : Nat
  occurredAt : Int
  ledgerTransactionId : Option String

structure StudentFeeStatementEntryResponseDto extends StudentStatementWorkingEntry where
  balanceAfterMinor : Int

structure StudentBalanceAccumulator where
  studentId : String
  studentName : Option String
  currencyCode : String
  invoicedAmountMinor : Nat
  paidAmountMinor : Nat
  creditAmountMinor : Nat
  invoiceCount : Nat
  lastActivityAt : Option Int

variable (found : Option StudentBalanceAccumulator) (invoices : List InvoiceEntity)
  (receipts : List ManualFeePaymentEntity) (runtime : Runtime) (db : BillingDb) (studentId : String)

structure StudentFeeBalanceResponseDto where
  tenantId : String
  studentId : String
  studentName : Option String
  currencyCode : String
  invoicedAmountMinor : Nat
  paidAmountMinor : Nat
  creditAmountMinor : Nat
  balanceAmountMinor : Nat
  invoiceCount : Nat
  lastActivityAt : Option String

structure StudentFeeStatementResponseDto where
  summary : StudentFeeBalanceResponseDto
  entries : List StudentFeeStatementEntryResponseDto

def present (text : Option String) : Option String := text.filter (· ≠ "")

def maxDate (found : Option Int) (candidate : Int) : Int :=
  match found with
  | some date => if date < candidate then candidate else date
  | none => candidate

def getOrCreateStudentBalance
    (studentName : Option String) (currencyCode : String) : StudentBalanceAccumulator :=
  match found with
  | some existing =>
    if present existing.studentName = none ∧ present studentName ≠ none then { existing with studentName }
    else existing
  | none => ⟨studentId, studentName, currencyCode, 0, 0, 0, 0, none⟩

def ManualFeePaymentEntity.studentName : Option String :=
  readStringMetadata receipt.metadata "student_name" <|> receipt.payerName

def addInvoice (invoice : InvoiceEntity) : StudentBalanceAccumulator :=
  let balance := getOrCreateStudentBalance found (invoice.studentId.getD "")
    (readStringMetadata invoice.metadata "student_name") invoice.currencyCode
  { balance with
    invoicedAmountMinor := balance.invoicedAmountMinor + invoice.totalAmountMinor
    paidAmountMinor := balance.paidAmountMinor + invoice.amountPaidMinor
    invoiceCount := balance.invoiceCount + 1
    lastActivityAt := some (maxDate balance.lastActivityAt invoice.issuedAt) }

def addReceipt (receipt : ManualFeePaymentEntity) :
    StudentBalanceAccumulator :=
  let balance := getOrCreateStudentBalance found (receipt.studentId.getD "") receipt.studentName receipt.currencyCode
  { balance with
    creditAmountMinor := balance.creditAmountMinor + receipt.amountMinor
    lastActivityAt := some (maxDate balance.lastActivityAt (receipt.clearedAt.getD receipt.receivedAt)) }

/-- The student to whom a receipt is a credit: it is cleared and names no invoice. Both ids are uuids, so that
one that is there is not empty. -/
def creditedStudent : Option String :=
  if receipt.status = .cleared ∧ receipt.invoiceId = none then receipt.studentId else none

def studentBalances :
    JsMap String StudentBalanceAccumulator :=
  JsMap.accumulate creditedStudent addReceipt (JsMap.accumulate InvoiceEntity.studentId addInvoice [] invoices) receipts

def balanceResponse (balance : StudentBalanceAccumulator) : StudentFeeBalanceResponseDto where
  tenantId := runtime.tenantId
  studentId := balance.studentId
  studentName := balance.studentName
  currencyCode := balance.currencyCode
  invoicedAmountMinor := balance.invoicedAmountMinor
  paidAmountMinor := balance.paidAmountMinor
  creditAmountMinor := balance.creditAmountMinor
  balanceAmountMinor := balance.invoicedAmountMinor - balance.paidAmountMinor - balance.creditAmountMinor
  invoiceCount := balance.invoiceCount
  lastActivityAt := balance.lastActivityAt.map JsDate.toISOString

/-- The largest balance first, and of two that are equal the one that moved last. -/
def balanceBefore (left right : StudentFeeBalanceResponseDto) : Prop :=
  right.balanceAmountMinor < left.balanceAmountMinor ∨ left.balanceAmountMinor = right.balanceAmountMinor ∧
    runtime.localeLe (right.lastActivityAt.getD "") (left.lastActivityAt.getD "") = true
deriving Decidable

def buildStudentBalances (invoices : List InvoiceEntity) (receipts : List ManualFeePaymentEntity) :
    List StudentFeeBalanceResponseDto :=
  (((studentBalances invoices receipts).map Prod.snd).map (balanceResponse runtime)).insertionSort
    (balanceBefore runtime)

def clearedInvoice : Option String :=
  if receipt.status = .cleared then receipt.invoiceId else none

def clearedReceiptCreditsByInvoice : JsMap String Nat :=
  JsMap.accumulate clearedInvoice (fun found receipt => found.getD 0 + receipt.amountMinor) [] receipts

def invoiceEntry (invoice : InvoiceEntity) : StudentStatementWorkingEntry where
  id := "invoice:" ++ invoice.id
  kind := .invoice
  sourceId := invoice.id
  invoiceId := some invoice.id
  reference := invoice.invoiceNumber
  description := (columns invoice.id).description
  status := invoice.status.text
  method := "invoice"
  debitAmountMinor := invoice.totalAmountMinor
  creditAmountMinor := 0
  occurredAt := invoice.issuedAt
  ledgerTransactionId := none

def allocatedPaymentEntry (invoice : InvoiceEntity) (unrepresentedCredit : Nat) :
    StudentStatementWorkingEntry where
  id := "allocated-payment:" ++ invoice.id
  kind := .receipt
  sourceId := invoice.id
  invoiceId := some invoice.id
  reference := "ALLOC-" ++ invoice.invoiceNumber
  description := "Allocated payment"
  status := "cleared"
  method := "allocated_payment"
  debitAmountMinor := 0
  creditAmountMinor := unrepresentedCredit
  occurredAt := (columns invoice.id).paidAt.getD (columns invoice.id).updatedAt
  ledgerTransactionId := none

def describeReceiptStatementEntry : String :=
  match receipt.status with
  | .cleared => "Cleared " ++ receipt.paymentMethod.text ++ " receipt"
  | .bounced => "Bounced " ++ receipt.paymentMethod.text ++ " receipt"
  | .reversed => "Reversed " ++ receipt.paymentMethod.text ++ " receipt"
  | _ => "Pending " ++ receipt.paymentMethod.text ++ " receipt"

def receiptEntry : StudentStatementWorkingEntry where
  id := "receipt:" ++ receipt.id
  kind := .receipt
  sourceId := receipt.id
  invoiceId := receipt.invoiceId
  reference := receipt.receiptNumber
  description := describeReceiptStatementEntry receipt
  status := receipt.status.text
  method := receipt.paymentMethod.text
  debitAmountMinor := 0
  creditAmountMinor := if receipt.status = .cleared then receipt.amountMinor else 0
  occurredAt := receipt.clearedAt.getD (receipt.depositedAt.getD receipt.receivedAt)
  ledgerTransactionId := receipt.ledgerTransactionId

def invoiceEntries (credits : JsMap String Nat) (invoice : InvoiceEntity) :
    List StudentStatementWorkingEntry :=
  let unrepresentedCredit := invoice.amountPaidMinor - (credits.get? invoice.id).getD 0
  invoiceEntry columns invoice ::
    if 0 < unrepresentedCredit then [allocatedPaymentEntry columns invoice unrepresentedCredit] else []

def workingEntries : List StudentStatementWorkingEntry :=
  invoices.flatMap (invoiceEntries columns (clearedReceiptCreditsByInvoice receipts)) ++ receipts.map receiptEntry

def entryBefore (left right : StudentStatementWorkingEntry) : Prop :=
  left.occurredAt < right.occurredAt ∨
    left.occurredAt = right.occurredAt ∧ (left.kind = .invoice ∨ right.kind = .receipt)
deriving Decidable

@[grind =] def runningBalances : Int → List StudentStatementWorkingEntry → List StudentFeeStatementEntryResponseDto
  | _, [] => []
  | runningBalance, entry :: entries =>
    { entry with balanceAfterMinor := runningBalance + (entry.debitAmountMinor - entry.creditAmountMinor) } ::
      runningBalances (runningBalance + (entry.debitAmountMinor - entry.creditAmountMinor)) entries

def buildStudentStatementEntries : List StudentFeeStatementEntryResponseDto :=
  runningBalances 0 ((workingEntries columns invoices receipts).insertionSort entryBefore)

def issuedAfter (left right : InvoiceEntity) : Prop :=
  right.issuedAt < left.issuedAt ∨ left.issuedAt = right.issuedAt ∧ right.createdAt ≤ left.createdAt
deriving Decidable

def listInvoices : List InvoiceEntity := db.invoices.rows.insertionSort issuedAfter

def receivedAfter (left right : ManualFeePaymentEntity) : Prop :=
  right.receivedAt < left.receivedAt ∨ left.receivedAt = right.receivedAt ∧ right.createdAt ≤ left.createdAt
deriving Decidable

def listManualFeePayments : List ManualFeePaymentEntity :=
  db.manualFeePayments.rows.insertionSort receivedAfter

def studentInvoices : List InvoiceEntity :=
  (listInvoices db).filter fun invoice => invoice.studentId = some studentId

def studentReceipts : List ManualFeePaymentEntity :=
  (listManualFeePayments db).filter fun receipt =>
    receipt.studentId = some studentId || receipt.invoiceId.any fun id => id ∈ (studentInvoices db studentId).map (·.id)

def createEmptyStudentBalance (studentName : Option String) :
    StudentFeeBalanceResponseDto :=
  ⟨runtime.tenantId, studentId, studentName, "KES", 0, 0, 0, 0, 0, none⟩

def resolveStudentName : Option String :=
  (invoices.findSome? fun invoice => readStringMetadata invoice.metadata "student_name") <|>
    receipts.findSome? fun receipt => present receipt.studentName

def getStudentStatement (columns : String → InvoiceColumns) (db : BillingDb) (studentId : String) :
    Except Exception StudentFeeStatementResponseDto := do
  let normalizedStudentId := JsText.trim studentId
  failIf (normalizedStudentId = "") (.badRequest "Student id is required for fee statements")
  let invoices := studentInvoices db normalizedStudentId
  let receipts := studentReceipts db normalizedStudentId
  let entries := buildStudentStatementEntries columns invoices receipts
  failIf (entries = [])
    (.notFound ("No fee statement activity was found for student \"" ++ normalizedStudentId ++ "\""))
  let summary := ((buildStudentBalances runtime invoices receipts).find? (·.studentId = normalizedStudentId)).getD
    (createEmptyStudentBalance runtime normalizedStudentId (resolveStudentName invoices receipts))
  return ⟨summary, entries⟩

/-- Each entry's balance is the one before it, plus its debit and minus its credit. -/
def Running : Int → List StudentFeeStatementEntryResponseDto → Prop
  | _, [] => True
  | previous, entry :: entries =>
    entry.balanceAfterMinor = previous + entry.debitAmountMinor - entry.creditAmountMinor ∧
      Running entry.balanceAfterMinor entries

def movement (entry : StudentStatementWorkingEntry) : Int := entry.debitAmountMinor - entry.creditAmountMinor

section Running

variable (start : Int) (entries : List StudentStatementWorkingEntry)

theorem running_runningBalances : Running start (runningBalances start entries) := by
  induction entries generalizing start with
  | nil => trivial
  | cons entry entries ih =>
    have moved : start + ((entry.debitAmountMinor : Int) - entry.creditAmountMinor) =
        start + entry.debitAmountMinor - entry.creditAmountMinor := by omega
    exact ⟨moved, ih _⟩

theorem runningBalances_entries :
    (runningBalances start entries).map (·.toStudentStatementWorkingEntry) = entries := by
  induction entries generalizing start with
  | nil => rfl
  | cons entry entries ih => rw [runningBalances, List.map_cons, ih]

theorem runningBalances_last :
    ((runningBalances start entries).getLast?.map (·.balanceAfterMinor)).getD start =
      start + (entries.map movement).sum := by
  induction entries generalizing start with
  | nil => simp [runningBalances]
  | cons entry entries ih =>
    have rest := ih (start + ((entry.debitAmountMinor : Int) - entry.creditAmountMinor))
    rw [runningBalances, List.getLast?_cons, List.map_cons, List.sum_cons, movement]
    cases found : (runningBalances (start + ((entry.debitAmountMinor : Int) - entry.creditAmountMinor))
      entries).getLast? with
    | none =>
      rw [found] at rest
      simp only [Option.map_none, Option.getD_none] at rest
      simp only [Option.getD_none, Option.map_some, Option.getD_some]
      omega
    | some last =>
      rw [found] at rest
      simp only [Option.map_some, Option.getD_some] at rest ⊢
      omega

end Running

variable {invoices} {receipts studentId}

theorem entryBefore_orders : Sorting.OrdersOn entryBefore fun _ => True where
  total := by
    intro first second _ _
    cases kind : first.kind <;> cases other : second.kind <;> simp only [entryBefore, kind, other] <;> grind
  trans := by
    intro first second third _ _ _ before after
    simp only [entryBefore] at before after ⊢
    grind

theorem buildStudentStatementEntries_chronological (columns : String → InvoiceColumns) (invoices : List InvoiceEntity)
    (receipts : List ManualFeePaymentEntity) :
    (buildStudentStatementEntries columns invoices receipts).Pairwise fun earlier later =>
      earlier.occurredAt ≤ later.occurredAt := by
  have sorted := Sorting.pairwise_insertionSort entryBefore_orders
    (fun (entry : StudentStatementWorkingEntry) (_ : entry ∈ workingEntries columns invoices receipts) => trivial)
  rw [← runningBalances_entries 0 ((workingEntries columns invoices receipts).insertionSort entryBefore)] at sorted
  apply (List.pairwise_map.mp sorted).imp
  intro earlier later before
  rcases before with before | ⟨same, -⟩
  · exact Int.le_of_lt before
  · exact Int.le_of_eq same

def clearedAmount : Nat :=
  if receipt.status = .cleared then receipt.amountMinor else 0

def clearedFor (receipts : List ManualFeePaymentEntity) (invoiceId : String) : Nat :=
  total ManualFeePaymentEntity.amountMinor (fun receipt => clearedInvoice receipt = some invoiceId) receipts

theorem clearedReceiptCreditsByInvoice_get (receipts : List ManualFeePaymentEntity) (invoiceId : String) :
    ((clearedReceiptCreditsByInvoice receipts).get? invoiceId).getD 0 = clearedFor receipts invoiceId := by
  have collected : ∀ (items : List ManualFeePaymentEntity) (found : Option Nat),
      (items.foldl (fun found receipt => some (found.getD 0 + receipt.amountMinor)) found).getD 0 =
        found.getD 0 + (items.map (·.amountMinor)).sum := by
    intro items
    induction items with
    | nil => simp
    | cons receipt items ih =>
      intro found
      rw [List.foldl_cons, ih, List.map_cons, List.sum_cons, Option.getD_some, Nat.add_assoc]
  rw [clearedReceiptCreditsByInvoice, JsMap.get?_accumulate, collected]
  simp [clearedFor, total]

theorem movement_invoiceEntry (columns : String → InvoiceColumns) (invoice : InvoiceEntity) :
    movement (invoiceEntry columns invoice) = invoice.totalAmountMinor := Int.sub_zero _

theorem movement_allocatedPaymentEntry (columns : String → InvoiceColumns) (invoice : InvoiceEntity) (credit : Nat) :
    movement (allocatedPaymentEntry columns invoice credit) = -(credit : Int) := Int.zero_sub _

theorem movement_invoiceEntries (columns : String → InvoiceColumns) (receipts : List ManualFeePaymentEntity)
    (invoice : InvoiceEntity) :
    ((invoiceEntries columns (clearedReceiptCreditsByInvoice receipts) invoice).map movement).sum =
      invoice.totalAmountMinor - ((invoice.amountPaidMinor - clearedFor receipts invoice.id : Nat) : Int) := by
  simp only [invoiceEntries, clearedReceiptCreditsByInvoice_get, List.map_cons, List.sum_cons, movement_invoiceEntry]
  generalize invoice.amountPaidMinor - clearedFor receipts invoice.id = unrepresentedCredit
  split
  · simp only [List.map_cons, List.map_nil, List.sum_cons, List.sum_nil, movement_allocatedPaymentEntry]
    omega
  · simp only [List.map_nil, List.sum_nil]
    omega

theorem movement_receiptEntry (receipt : ManualFeePaymentEntity) :
    movement (receiptEntry receipt) = -(clearedAmount receipt : Int) := Int.zero_sub _

theorem movement_receiptEntries (receipts : List ManualFeePaymentEntity) :
    ((receipts.map receiptEntry).map movement).sum = -(((receipts.map clearedAmount).sum : Nat) : Int) := by
  induction receipts with
  | nil => rfl
  | cons receipt receipts ih =>
    simp only [List.map_cons, List.sum_cons, ih, movement_receiptEntry]
    push_cast
    omega

theorem movement_workingEntries (columns : String → InvoiceColumns) (invoices : List InvoiceEntity)
    (receipts : List ManualFeePaymentEntity) :
    ((workingEntries columns invoices receipts).map movement).sum =
      (((invoices.map (·.totalAmountMinor)).sum : Nat) : Int) -
        ((invoices.map fun invoice => invoice.amountPaidMinor - clearedFor receipts invoice.id).sum : Nat) -
        ((receipts.map clearedAmount).sum : Nat) := by
  have ofInvoices : ((invoices.flatMap (invoiceEntries columns (clearedReceiptCreditsByInvoice receipts))).map
      movement).sum = (((invoices.map (·.totalAmountMinor)).sum : Nat) : Int) -
        ((invoices.map fun invoice => invoice.amountPaidMinor - clearedFor receipts invoice.id).sum : Nat) := by
    induction invoices with
    | nil => rfl
    | cons invoice invoices ih =>
      have head := movement_invoiceEntries columns receipts invoice
      rw [List.flatMap_cons, List.map_append, List.sum_append, head, ih]
      simp only [List.map_cons, List.sum_cons]
      push_cast
      omega
  rw [workingEntries, List.map_append, List.sum_append, ofInvoices, movement_receiptEntries]
  omega

theorem clearedAmount_parts {invoiceIds : List String} (distinct : invoiceIds.Nodup)
    (own : ∀ receipt ∈ receipts, receipt.invoiceId = none → receipt.studentId = some studentId) :
    (receipts.map clearedAmount).sum =
      total ManualFeePaymentEntity.amountMinor (fun receipt => creditedStudent receipt = some studentId) receipts +
        ((invoiceIds.map (clearedFor receipts)).sum +
          total ManualFeePaymentEntity.amountMinor (fun receipt => (clearedInvoice receipt).any (· ∉ invoiceIds))
            receipts) := by
  have named := total_by_key ManualFeePaymentEntity.amountMinor clearedInvoice distinct receipts
  have parts : (receipts.map clearedAmount).sum =
      total ManualFeePaymentEntity.amountMinor (fun receipt => creditedStudent receipt = some studentId) receipts +
        total ManualFeePaymentEntity.amountMinor (fun receipt => (clearedInvoice receipt).isSome) receipts := by
    clear named
    induction receipts with
    | nil => rfl
    | cons receipt receipts ih =>
      obtain ⟨head, tail⟩ := List.forall_mem_cons.mp own
      rw [List.map_cons, List.sum_cons, ih tail, total_cons, total_cons]
      by_cases cleared : receipt.status = .cleared
      · cases invoice : receipt.invoiceId with
        | none =>
          simp only [clearedAmount, creditedStudent, clearedInvoice, cleared, invoice, head invoice, if_true, and_self,
            decide_true, Option.isSome_none, Bool.false_eq_true, if_false]
          omega
        | some invoiceId =>
          simp only [clearedAmount, creditedStudent, clearedInvoice, cleared, invoice, if_true, reduceCtorEq, and_false,
            if_false, decide_false, Bool.false_eq_true, Option.isSome_some]
          omega
      · simp only [clearedAmount, creditedStudent, clearedInvoice, cleared, if_false, false_and, reduceCtorEq,
          decide_false, Bool.false_eq_true, Option.isSome_none]
        omega
  rw [parts, named]
  rfl

/-- The invoiced, the paid and the credited amount of a balance, if there is one. -/
def amounts : Nat × Nat × Nat :=
  match found with
  | none => (0, 0, 0)
  | some balance => (balance.invoicedAmountMinor, balance.paidAmountMinor, balance.creditAmountMinor)

theorem getOrCreateStudentBalance_amounts (found : Option StudentBalanceAccumulator) (studentId : String)
    (studentName : Option String) (currencyCode : String) :
    amounts (some (getOrCreateStudentBalance found studentId studentName currencyCode)) = amounts found := by
  unfold getOrCreateStudentBalance
  split
  · split <;> rfl
  · rfl

theorem getOrCreateStudentBalance_studentId {found : Option StudentBalanceAccumulator}
    (own : ∀ balance ∈ found, balance.studentId = studentId) (studentName : Option String) (currencyCode : String) :
    (getOrCreateStudentBalance found studentId studentName currencyCode).studentId = studentId := by
  unfold getOrCreateStudentBalance
  split
  · next existing =>
    have same := own existing rfl
    split
    · exact same
    · exact same
  · rfl

theorem foldl_addInvoice
    (all : ∀ invoice ∈ invoices, invoice.studentId = some studentId) (found : Option StudentBalanceAccumulator)
    (own : ∀ balance ∈ found, balance.studentId = studentId) :
    amounts (invoices.foldl (fun found invoice => some (addInvoice found invoice)) found) =
        ((amounts found).1 + (invoices.map (·.totalAmountMinor)).sum,
          (amounts found).2.1 + (invoices.map (·.amountPaidMinor)).sum, (amounts found).2.2) ∧
      ∀ balance ∈ invoices.foldl (fun found invoice => some (addInvoice found invoice)) found,
        balance.studentId = studentId := by
  induction invoices generalizing found with
  | nil => exact ⟨rfl, own⟩
  | cons invoice invoices ih =>
    obtain ⟨head, tail⟩ := List.forall_mem_cons.mp all
    have kept : ∀ balance ∈ some (addInvoice found invoice), balance.studentId = studentId := by
      rintro balance ⟨⟩
      rw [addInvoice, head]
      exact getOrCreateStudentBalance_studentId own _ _
    have added : amounts (some (addInvoice found invoice)) = ((amounts found).1 + invoice.totalAmountMinor,
        (amounts found).2.1 + invoice.amountPaidMinor, (amounts found).2.2) := by
      rw [← getOrCreateStudentBalance_amounts found (invoice.studentId.getD "")
        (readStringMetadata invoice.metadata "student_name") invoice.currencyCode]
      rfl
    have rest := ih tail (some (addInvoice found invoice)) kept
    rw [added] at rest
    simp only [List.foldl_cons, List.map_cons, List.sum_cons]
    refine ⟨?_, rest.2⟩
    rw [rest.1, Nat.add_assoc, Nat.add_assoc]

theorem foldl_addReceipt
    (all : ∀ receipt ∈ receipts, receipt.studentId = some studentId) (found : Option StudentBalanceAccumulator)
    (own : ∀ balance ∈ found, balance.studentId = studentId) :
    amounts (receipts.foldl (fun found receipt => some (addReceipt found receipt)) found) =
        ((amounts found).1, (amounts found).2.1, (amounts found).2.2 + (receipts.map (·.amountMinor)).sum) ∧
      ∀ balance ∈ receipts.foldl (fun found receipt => some (addReceipt found receipt)) found,
        balance.studentId = studentId := by
  induction receipts generalizing found with
  | nil => exact ⟨rfl, own⟩
  | cons receipt receipts ih =>
    obtain ⟨head, tail⟩ := List.forall_mem_cons.mp all
    have kept : ∀ balance ∈ some (addReceipt found receipt), balance.studentId = studentId := by
      rintro balance ⟨⟩
      rw [addReceipt, head]
      exact getOrCreateStudentBalance_studentId own _ _
    have added : amounts (some (addReceipt found receipt)) =
        ((amounts found).1, (amounts found).2.1, (amounts found).2.2 + receipt.amountMinor) := by
      rw [← getOrCreateStudentBalance_amounts found (receipt.studentId.getD "") receipt.studentName receipt.currencyCode]
      rfl
    have rest := ih tail (some (addReceipt found receipt)) kept
    rw [added] at rest
    simp only [List.foldl_cons, List.map_cons, List.sum_cons]
    refine ⟨?_, rest.2⟩
    rw [rest.1, Nat.add_assoc]

theorem creditedStudent_studentId {receipt : ManualFeePaymentEntity}
    (credited : creditedStudent receipt = some studentId) : receipt.studentId = some studentId := by
  unfold creditedStudent at credited
  split at credited
  · exact credited
  · cases credited

theorem studentBalances_get (invoices : List InvoiceEntity) (receipts : List ManualFeePaymentEntity)
    (studentId : String) :
    amounts ((studentBalances invoices receipts).get? studentId) =
        (((invoices.filter fun invoice => invoice.studentId = some studentId).map (·.totalAmountMinor)).sum,
          ((invoices.filter fun invoice => invoice.studentId = some studentId).map (·.amountPaidMinor)).sum,
          total ManualFeePaymentEntity.amountMinor (fun receipt => creditedStudent receipt = some studentId) receipts) ∧
      ∀ balance ∈ (studentBalances invoices receipts).get? studentId, balance.studentId = studentId := by
  have billed : ∀ invoice ∈ invoices.filter (fun invoice => invoice.studentId = some studentId),
      invoice.studentId = some studentId := fun invoice member => of_decide_eq_true (List.mem_filter.mp member).2
  have credited : ∀ receipt ∈ receipts.filter (fun receipt => creditedStudent receipt = some studentId),
      receipt.studentId = some studentId :=
    fun receipt member => creditedStudent_studentId (of_decide_eq_true (List.mem_filter.mp member).2)
  obtain ⟨ofInvoices, own⟩ := foldl_addInvoice billed none (fun balance absent => by cases absent)
  obtain ⟨ofReceipts, kept⟩ := foldl_addReceipt credited _ own
  rw [studentBalances, JsMap.get?_accumulate, JsMap.get?_accumulate, JsMap.get?_nil]
  refine ⟨?_, kept⟩
  rw [ofReceipts, ofInvoices]
  simp only [amounts, Nat.zero_add, total]

theorem summary_amounts (runtime : Runtime) (invoices : List InvoiceEntity) (receipts : List ManualFeePaymentEntity)
    (studentId : String) (studentName : Option String) {summary : StudentFeeBalanceResponseDto}
    (taken : summary = ((buildStudentBalances runtime invoices receipts).find? (·.studentId = studentId)).getD
      (createEmptyStudentBalance runtime studentId studentName)) :
    (summary.invoicedAmountMinor, summary.paidAmountMinor, summary.creditAmountMinor) =
      amounts ((studentBalances invoices receipts).get? studentId) := by
  have distinct : ((studentBalances invoices receipts).map Prod.fst).Nodup :=
    JsMap.nodup_accumulate _ _ (@JsMap.nodup_accumulate _ _ _ _ _ _ [] List.nodup_nil _) _
  have members : ∀ response, response ∈ buildStudentBalances runtime invoices receipts ↔
      ∃ id balance, (id, balance) ∈ studentBalances invoices receipts ∧ balanceResponse runtime balance = response := by
    intro response
    rw [buildStudentBalances, List.mem_insertionSort, List.map_map, List.mem_map]
    exact Prod.exists
  rw [taken]
  cases found : (buildStudentBalances runtime invoices receipts).find? (·.studentId = studentId) with
  | some response =>
    obtain ⟨id, balance, member, rfl⟩ := (members response).mp (List.mem_of_find?_eq_some found)
    have chosen := List.find?_some found
    have own : balance.studentId = studentId := of_decide_eq_true chosen
    have known := JsMap.get?_of_mem distinct member
    have same : balance.studentId = id := (studentBalances_get invoices receipts id).2 balance known
    rw [← own, same, known]
    rfl
  | none =>
    cases known : (studentBalances invoices receipts).get? studentId with
    | none => rfl
    | some balance =>
      have own := (studentBalances_get invoices receipts studentId).2 balance known
      have absent := List.find?_eq_none.mp found _ ((members _).mpr ⟨studentId, balance, JsMap.mem_of_get? known, rfl⟩)
      exact absurd (decide_eq_true own) absent

/-- The balance runs on through the entries in their order of time, and ends where the summary says. -/
structure StudentFeeStatementResponseDto.Agrees (statement : StudentFeeStatementResponseDto) : Prop where
  running : Running 0 statement.entries
  chronological : statement.entries.Pairwise fun earlier later => earlier.occurredAt ≤ later.occurredAt
  last : statement.entries.getLast?.map (·.balanceAfterMinor) =
    some ((statement.summary.invoicedAmountMinor : Int) - statement.summary.paidAmountMinor -
      statement.summary.creditAmountMinor)

/-- The cleared receipts that name an invoice name one of the student's, and are paid on it. -/
structure ReceiptsPaid (studentId : String) : Prop where
  covered : ∀ invoice ∈ studentInvoices db studentId,
    clearedFor (studentReceipts db studentId) invoice.id ≤ invoice.amountPaidMinor
  own : ∀ receipt ∈ studentReceipts db studentId, ∀ invoiceId ∈ clearedInvoice receipt,
    invoiceId ∈ (studentInvoices db studentId).map (·.id)

theorem sum_le_asked (asked paid : Item → Nat) (items : List Item) :
    (items.map paid).sum ≤ (items.map fun item => paid item - asked item).sum + (items.map asked).sum := by
  induction items with
  | nil => simp
  | cons item items ih =>
    simp only [List.map_cons, List.sum_cons]
    omega

theorem sum_asked_iff (asked paid : Item → Nat) (items : List Item) (outside : Nat) :
    (items.map fun item => paid item - asked item).sum + ((items.map asked).sum + outside) = (items.map paid).sum ↔
      (∀ item ∈ items, asked item ≤ paid item) ∧ outside = 0 := by
  induction items with
  | nil => simp
  | cons item items ih =>
    have least := sum_le_asked asked paid items
    simp only [List.map_cons, List.sum_cons, List.forall_mem_cons]
    rw [and_assoc, ← ih]
    omega

theorem studentInvoices_ids (db : BillingDb) (studentId : String) :
    ((studentInvoices db studentId).map (·.id)).Nodup := by
  have sorted := (List.perm_insertionSort issuedAfter db.invoices.rows).map InvoiceEntity.id
  exact (sorted.nodup_iff.mpr db.invoices.distinct).sublist (List.filter_sublist.map _)

theorem studentReceipts_own {db : BillingDb} :
    ∀ receipt ∈ studentReceipts db studentId, receipt.invoiceId = none → receipt.studentId = some studentId := by
  intro receipt member unnamed
  simpa [unnamed] using (List.mem_filter.mp member).2

theorem receiptsPaid_iff (db : BillingDb) (studentId : String) :
    ReceiptsPaid db studentId ↔
      ((studentInvoices db studentId).map fun invoice =>
          invoice.amountPaidMinor - clearedFor (studentReceipts db studentId) invoice.id).sum +
        (((studentInvoices db studentId).map fun invoice => clearedFor (studentReceipts db studentId) invoice.id).sum +
          total ManualFeePaymentEntity.amountMinor (fun receipt => (clearedInvoice receipt).any
            (· ∉ (studentInvoices db studentId).map (·.id))) (studentReceipts db studentId)) =
        ((studentInvoices db studentId).map (·.amountPaidMinor)).sum := by
  rw [sum_asked_iff, total_eq_zero _ fun receipt => receipt.amountPositive]
  constructor
  · intro paid
    refine ⟨paid.covered, fun receipt member => ?_⟩
    cases named : clearedInvoice receipt with
    | none => rfl
    | some invoiceId => simpa using paid.own receipt member invoiceId named
  · rintro ⟨covered, own⟩
    refine ⟨covered, fun receipt member invoiceId named => ?_⟩
    have known := own receipt member
    rw [Option.mem_def.mp named] at known
    simpa using known

theorem buildStudentStatementEntries_last {columns : String → InvoiceColumns} (active : buildStudentStatementEntries columns invoices receipts ≠ []) :
    (buildStudentStatementEntries columns invoices receipts).getLast?.map (·.balanceAfterMinor) =
      some ((((invoices.map (·.totalAmountMinor)).sum : Nat) : Int) -
        ((invoices.map fun invoice => invoice.amountPaidMinor - clearedFor receipts invoice.id).sum : Nat) -
        ((receipts.map clearedAmount).sum : Nat)) := by
  have ended := runningBalances_last 0 ((workingEntries columns invoices receipts).insertionSort entryBefore)
  have moved := ((List.perm_insertionSort entryBefore (workingEntries columns invoices receipts)).map movement).sum_eq
  change ((buildStudentStatementEntries columns invoices receipts).getLast?.map (·.balanceAfterMinor)).getD 0 = _ at ended
  rw [moved, movement_workingEntries, Int.zero_add] at ended
  rw [List.getLast?_eq_some_getLast active] at ended ⊢
  exact congrArg some ended

def feeSchool : SchoolDb := { unbilledSchool with tenant := office }

def counterPayment (amountMinor : String) : FeeOperation :=
  .receipt (officeCall 1) (.create { cashFor "student" amountMinor "receipt-1" with invoiceId := some "i1" })

def afterCounterPayment (amountMinor : String) : BillingDb :=
  (run (FeeOperation.perform schoolRuntime officeRuntime) feeSchool
    [ConfirmedPayment.termFees, counterPayment amountMinor]).tenant.billing

def sampleColumns (_ : String) : InvoiceColumns := ⟨"Term fees", none, 0⟩

def statementOf (amountMinor : String) : Except Exception StudentFeeStatementResponseDto :=
  getStudentStatement schoolRuntime.toRuntime sampleColumns (afterCounterPayment amountMinor) "student"

instance (db : BillingDb) (studentId : String) : Decidable (ReceiptsPaid db studentId) :=
  decidable_of_iff ((∀ invoice ∈ studentInvoices db studentId,
      clearedFor (studentReceipts db studentId) invoice.id ≤ invoice.amountPaidMinor) ∧
    ∀ receipt ∈ studentReceipts db studentId, ∀ invoiceId ∈ clearedInvoice receipt,
      invoiceId ∈ (studentInvoices db studentId).map (·.id))
    ⟨fun paid => ⟨paid.1, paid.2⟩, fun paid => ⟨paid.covered, paid.own⟩⟩

end ShuleHub.Billing
