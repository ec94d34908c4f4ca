import ShuleHub.Billing.StudentFees
import ShuleHub.Security.FraudDetection

/-! `PaymentAllocationService`: a confirmed payment of a school's fees goes to the invoices that its references
name, and how much of it they get in all. -/

namespace ShuleHub.Payments

open Transaction Finance Billing Security

abbrev InvoiceTable := KeyedTable InvoiceEntity String InvoiceEntity.id

structure TenantFeePayment where
  tenantId : String
  paymentIntent : PaymentIntentEntity
  amountMinor : Nat
  ledgerTransactionId : String
  amountPositive : 0 < amountMinor

structure TenantFeeAllocation where
  allocated : Bool
  invoiceId : Option String

namespace TenantFeePayment

variable (payment : TenantFeePayment) (invoice : InvoiceEntity)

def invoiceId : Option String :=
  (payment.paymentIntent.externalReference.filter fun text => isUuid text).map fun text =>
    String.ofList (text.toList.map Char.toLower)

def matchesInvoice : Bool :=
  invoice.isPayable &&
    (payment.invoiceId = some invoice.id || invoice.invoiceNumber = payment.paymentIntent.accountReference)

def paidAfter : Nat :=
  min invoice.totalAmountMinor (invoice.amountPaidMinor + payment.amountMinor)

def allocatedTo : InvoiceEntity :=
  { invoice with
    amountPaidMinor := payment.paidAfter invoice
    status := if invoice.totalAmountMinor ≤ payment.paidAfter invoice then .paid else .pendingPayment
    paymentIntentId := invoice.paymentIntentId <|> some payment.paymentIntent.id
    metadata := invoice.metadata.merge [("last_payment_allocation", .obj [
      ("payment_intent_id", .str payment.paymentIntent.id),
      ("ledger_transaction_id", .str payment.ledgerTransactionId)])] }

def allocatedIfMatched : InvoiceEntity :=
  if payment.matchesInvoice invoice then payment.allocatedTo invoice else invoice

theorem allocatedIfMatched_id (invoice : InvoiceEntity) : (payment.allocatedIfMatched invoice).id = invoice.id := by
  rw [allocatedIfMatched]
  split <;> rfl

/-- The statement updates every invoice it matches, and returns their ids. -/
def updateMatched : Transaction InvoiceTable Exception (List String) := do
  let invoices ← current
  let matched := invoices.rows.filter payment.matchesInvoice
  failIf (∃ invoice ∈ matched, bigintLimit ≤ invoice.amountPaidMinor + payment.amountMinor)
    (.database "bigint out of range")
  write fun invoices => invoices.modify payment.allocatedIfMatched payment.allocatedIfMatched_id
  return matched.map (·.id)

def allocationEvent (invoiceId : String) : SecurityEvent where
  tenantId := some payment.tenantId
  action := "payment.allocated"
  resourceType := "invoice"
  resourceId := some invoiceId
  metadata := .obj [
    ("payment_intent_id", .str payment.paymentIntent.id),
    ("student_id", jsonText payment.paymentIntent.studentId),
    ("amount_minor", jsonNat payment.amountMinor),
    ("ledger_transaction_id", .str payment.ledgerTransactionId),
    ("account_reference", .str payment.paymentIntent.accountReference)]

end TenantFeePayment

def recordAuditLog (runtime : FraudRuntime) (context : RequestContext) (event : SecurityEvent) :
    Transaction (List AuditLog) Exception Unit :=
  match (event.tenantId <|> context.tenantId).filter (· ≠ "") with
  | none => fail (.badRequest "Tenant context is required for audit logging")
  | some tenantId => createAuditLog runtime (auditLog context event tenantId)

/-- Each statement stands when a later one fails, unless a transaction around the call is rolled back. -/
def allocateTenantFeePayment (runtime : FraudRuntime) (context : RequestContext) (payment : TenantFeePayment) :
    Effect (Audited InvoiceTable) Exception TenantFeeAllocation :=
  if payment.paymentIntent.paymentOwner ≠ .tenant then return ⟨false, none⟩
  else do
    let ids ← Effect.zoom (·.tables) (fun db tables => { db with tables }) (Effect.transact payment.updateMatched)
    match ids.head? with
    | none => return ⟨false, none⟩
    | some invoiceId => do
      Effect.zoom (·.auditLogs) (fun db auditLogs => { db with auditLogs })
        (Effect.transact (recordAuditLog runtime context (payment.allocationEvent invoiceId)))
      return ⟨true, some invoiceId⟩

def paidMore (before after : InvoiceTable) : Nat :=
  (before.rows.map fun invoice => ((after.find invoice.id).elim 0 (·.amountPaidMinor)) - invoice.amountPaidMinor).sum

/-- No more is paid on the invoices than the amount, and each one that has changed is the one that is returned and
that the one new audit row is about. -/
structure Conserves (payment : TenantFeePayment) (before after : Audited InvoiceTable) (result : TenantFeeAllocation) :
    Prop where
  bounded : paidMore before.tables after.tables ≤ payment.amountMinor
  named : ∀ invoice ∈ after.tables.rows, invoice ∉ before.tables.rows → result.invoiceId = some invoice.id ∧
    ∃ log, after.auditLogs = before.auditLogs ++ [log] ∧ log.action = "payment.allocated" ∧
      log.resourceId = some invoice.id

/-- The references of a payment to the school name at most one invoice that is still to be paid. -/
def NamesAtMostOne (payment : TenantFeePayment) (invoices : InvoiceTable) : Prop :=
  payment.paymentIntent.paymentOwner = .tenant → ∀ first ∈ invoices.rows, ∀ second ∈ invoices.rows,
    payment.matchesInvoice first = true → payment.matchesInvoice second = true → first = second

section Allocation

variable {runtime : FraudRuntime} {context : RequestContext} {payment : TenantFeePayment}
  {before after : Audited InvoiceTable} {result : TenantFeeAllocation}
  {invoice : InvoiceEntity} {invoices : InvoiceTable}

theorem allocatedTo_ne (matched : payment.matchesInvoice invoice = true) :
    payment.allocatedTo invoice ≠ invoice := by
  intro same
  have payable : invoice.isPayable = true := (Bool.and_eq_true_iff.mp matched).1
  have paid : payment.paidAfter invoice = invoice.amountPaidMinor := congrArg InvoiceEntity.amountPaidMinor same
  have status : (if invoice.totalAmountMinor ≤ payment.paidAfter invoice then .paid else .pendingPayment) =
      invoice.status := congrArg InvoiceEntity.status same
  split at status
  · rw [InvoiceEntity.isPayable, ← status] at payable
    exact absurd payable (by decide)
  · next short =>
    have positive := payment.amountPositive
    rw [TenantFeePayment.paidAfter] at paid short
    omega

theorem recordAuditLog_ok {event : SecurityEvent} {logs later : List AuditLog}
    (ran : (recordAuditLog runtime context event).run logs = .ok ((), later)) :
    ∃ log, later = logs ++ [log] ∧ log.action = event.action ∧ log.resourceId = event.resourceId := by
  rw [recordAuditLog] at ran
  split at ran
  · exact absurd ran run_fail_ok
  · simp only [createAuditLog, run_bind_ok, run_failIf_ok, run_write_ok] at ran
    obtain ⟨_, _, ⟨-, rfl⟩, _, _, ⟨-, rfl⟩, _, _, ⟨-, rfl⟩, stored⟩ := ran
    exact ⟨_, stored.symm, rfl, rfl⟩

theorem updateMatched_ok {later : InvoiceTable} {ids : List String}
    (ran : payment.updateMatched.run invoices = .ok (ids, later)) :
    ids = (invoices.rows.filter payment.matchesInvoice).map (·.id) ∧
      later = invoices.modify payment.allocatedIfMatched payment.allocatedIfMatched_id := by
  simp only [TenantFeePayment.updateMatched, run_bind_ok, run_current_ok, run_failIf_ok, run_write_ok,
    run_pure_ok] at ran
  obtain ⟨_, _, ⟨rfl, rfl⟩, _, _, ⟨-, rfl⟩, _, _, rfl, rfl, rfl⟩ := ran
  exact ⟨rfl, rfl⟩

structure Allocated (payment : TenantFeePayment) (before after : Audited InvoiceTable) (result : TenantFeeAllocation) :
    Prop where
  tables : after.tables = before.tables.modify payment.allocatedIfMatched payment.allocatedIfMatched_id
  invoiceId : result.invoiceId = ((before.tables.rows.filter payment.matchesInvoice).head?).map (·.id)
  audited : ∀ id, result.invoiceId = some id → ∃ log, after.auditLogs = before.auditLogs ++ [log] ∧
    log.action = "payment.allocated" ∧ log.resourceId = some id

theorem allocateTenantFeePayment_ok (owned : payment.paymentIntent.paymentOwner = .tenant)
    (ran : (allocateTenantFeePayment runtime context payment).run before = (after, .ok result)) :
    Allocated payment before after result := by
  rw [allocateTenantFeePayment, if_neg (not_not.mpr owned), Effect.run_bind_ok] at ran
  obtain ⟨ids, middle, updated, ran⟩ := ran
  rw [Effect.run_zoom, Prod.mk.injEq] at updated
  obtain ⟨rfl, returned⟩ := updated
  have stored := Transaction.attempt_ok.mp (Prod.ext rfl returned)
  obtain ⟨named, same⟩ := updateMatched_ok stored
  split at ran
  · next none =>
    obtain ⟨rfl, rfl⟩ := Effect.run_pure_ok.mp ran
    rw [named, List.head?_map] at none
    constructor
    · exact same
    · exact none.symm
    · intro id absent
      cases absent
  · next id some =>
    rw [Effect.run_bind_ok] at ran
    obtain ⟨_, audited, recorded, ran⟩ := ran
    obtain ⟨rfl, rfl⟩ := Effect.run_pure_ok.mp ran
    rw [Effect.run_zoom, Prod.mk.injEq] at recorded
    obtain ⟨rfl, written⟩ := recorded
    have log := recordAuditLog_ok (Transaction.attempt_ok.mp (Prod.ext rfl written))
    rw [named, List.head?_map] at some
    constructor
    · exact same
    · exact some.symm
    · intro own equal
      rw [← Option.some.inj equal]
      exact log

theorem paid_of_modified (member : invoice ∈ invoices.rows) :
    (((invoices.modify payment.allocatedIfMatched payment.allocatedIfMatched_id).find invoice.id).elim 0
      (·.amountPaidMinor)) - invoice.amountPaidMinor ≤
        if payment.matchesInvoice invoice = true then payment.amountMinor else 0 := by
  rw [KeyedTable.find_modify, invoices.find_self member, Option.map_some, Option.elim_some,
    TenantFeePayment.allocatedIfMatched]
  split
  · have least : (payment.allocatedTo invoice).amountPaidMinor ≤ invoice.amountPaidMinor + payment.amountMinor :=
      Nat.min_le_right _ _
    omega
  · omega

theorem paidMore_le (invoices : InvoiceTable) :
    paidMore invoices (invoices.modify payment.allocatedIfMatched payment.allocatedIfMatched_id) ≤
      (invoices.rows.filter payment.matchesInvoice).length * payment.amountMinor := by
  calc
    _ ≤ (invoices.rows.map fun invoice =>
        if payment.matchesInvoice invoice = true then payment.amountMinor else 0).sum :=
      List.sum_le_sum fun invoice member => paid_of_modified member
    _ = _ := by
      induction invoices.rows with
      | nil => simp
      | cons invoice rows ih =>
        rw [List.map_cons, List.sum_cons, ih, List.filter_cons]
        split
        · rw [List.length_cons, Nat.succ_mul, Nat.add_comm]
        · rw [Nat.zero_add]

theorem matched_eq_nil_or_singleton
    (atMostOne : ∀ first ∈ invoices.rows, ∀ second ∈ invoices.rows, payment.matchesInvoice first = true →
      payment.matchesInvoice second = true → first = second) :
    invoices.rows.filter payment.matchesInvoice = [] ∨
      ∃ invoice, invoices.rows.filter payment.matchesInvoice = [invoice] := by
  have distinct : (invoices.rows.filter payment.matchesInvoice).Nodup :=
    (List.Nodup.of_map _ invoices.distinct).filter _
  cases matched : invoices.rows.filter payment.matchesInvoice with
  | nil => exact .inl rfl
  | cons first rest =>
    cases rest with
    | nil => exact .inr ⟨first, rfl⟩
    | cons second rest =>
      rw [matched] at distinct
      have firstIn : first ∈ invoices.rows.filter payment.matchesInvoice := by simp [matched]
      have secondIn : second ∈ invoices.rows.filter payment.matchesInvoice := by simp [matched]
      rw [List.mem_filter] at firstIn secondIn
      have same := atMostOne first firstIn.1 second secondIn.1 firstIn.2 secondIn.2
      exact absurd (List.mem_cons.mpr (.inl same)) (List.nodup_cons.mp distinct).1

/-- A payment keeps within its amount and its one invoice exactly if its references name at most one. -/
theorem allocation_conserves_iff
    (ran : (allocateTenantFeePayment runtime context payment).run before = (after, .ok result)) :
    Conserves payment before after result ↔ NamesAtMostOne payment before.tables := by
  by_cases owned : payment.paymentIntent.paymentOwner = .tenant
  · have allocated := allocateTenantFeePayment_ok owned ran
    constructor
    · intro conserves _ first firstMember second secondMember firstMatched secondMatched
      have named : ∀ invoice ∈ before.tables.rows, payment.matchesInvoice invoice = true →
          result.invoiceId = some invoice.id := by
        intro invoice member matched
        have moved : payment.allocatedTo invoice ∈ after.tables.rows := by
          rw [allocated.tables, KeyedTable.mem_modify]
          exact ⟨invoice, member, if_pos matched⟩
        have changed : payment.allocatedTo invoice ∉ before.tables.rows := fun still =>
          allocatedTo_ne matched (KeyedTable.eq_of_key still member rfl)
        exact (conserves.named _ moved changed).1
      have same := (named first firstMember firstMatched).symm.trans (named second secondMember secondMatched)
      exact KeyedTable.eq_of_key firstMember secondMember (Option.some.inj same)
    · intro atMostOne
      have few := matched_eq_nil_or_singleton (atMostOne owned)
      constructor
      · have most := @paidMore_le payment before.tables
        rw [allocated.tables]
        rcases few with none | ⟨invoice, one⟩
        · rw [none, List.length_nil, Nat.zero_mul] at most
          omega
        · rw [one, List.length_singleton, Nat.one_mul] at most
          exact most
      · intro invoice member changed
        rw [allocated.tables, KeyedTable.mem_modify] at member
        obtain ⟨old, present, rfl⟩ := member
        by_cases matched : payment.matchesInvoice old = true
        · have listed : old ∈ before.tables.rows.filter payment.matchesInvoice :=
            List.mem_filter.mpr ⟨present, matched⟩
          rcases few with none | ⟨only, one⟩
          · rw [none] at listed
            exact absurd listed List.not_mem_nil
          · rw [one, List.mem_singleton] at listed
            have returned : result.invoiceId = some old.id := by
              rw [allocated.invoiceId, one, listed]
              rfl
            rw [payment.allocatedIfMatched_id]
            exact ⟨returned, allocated.audited _ returned⟩
        · rw [TenantFeePayment.allocatedIfMatched, if_neg matched] at changed
          exact absurd present changed
  · rw [allocateTenantFeePayment, if_pos owned] at ran
    obtain ⟨-, rfl⟩ := Effect.run_pure_ok.mp ran
    have unpaid : paidMore before.tables before.tables = 0 := by
      rw [paidMore, List.sum_eq_zero]
      intro more listed
      obtain ⟨invoice, member, rfl⟩ := List.mem_map.mp listed
      rw [before.tables.find_self member, Option.elim_some, Nat.sub_self]
    apply iff_of_true
    · exact ⟨unpaid ▸ Nat.zero_le _, fun invoice member changed => absurd member changed⟩
    · exact fun own => absurd own owned

end Allocation

def allocationRuntime : FraudRuntime where
  fraudVelocityWindowSeconds := 900
  fraudCallbackFailureThreshold := 3
  acceptsAuditLog _ := true

def allocationContext : RequestContext where
  tenantId := some "greenfield"
  userId := "bursar"
  requestId := "req-1"
  clientIp := none
  userAgent := none
  now := 1000
  counterStoreFailure := none

def termInvoice (id invoiceNumber : String) : InvoiceEntity where
  id
  subscriptionId := "plan"
  invoiceNumber
  status := .opened
  currencyCode := "KES"
  totalAmountMinor := 100
  amountPaidMinor := 0
  billingPhoneNumber := none
  paymentIntentId := none
  issuedAt := 0
  dueAt := 0
  createdAt := 0
  metadata := []
  totalPositive := by decide

def termPayment : TenantFeePayment where
  tenantId := "greenfield"
  paymentIntent := {
    id := "3f0c1a52-8b1e-4d6f-9a70-0c5d1e2f3a4b"
    idempotencyKeyId := "key"
    userId := none
    studentId := none
    externalReference := some "9B2D7C11-5E0A-4F3B-8C6D-1A2B3C4D5E6F"
    accountReference := "INV-2"
    transactionDesc := "Fees"
    phoneNumber := "254700000001"
    amountMinor := 100
    currencyCode := "KES"
    paymentOwner := .tenant
    mpesaShortCode := none
    paymentChannelType := none
    ledgerDebitAccountCode := none
    ledgerCreditAccountCode := none
    status := .completed
    merchantRequestId := none
    checkoutRequestId := none
    responseCode := none
    responseDescription := none
    customerMessage := none
    ledgerTransactionId := none
    failureReason := none
    stkRequestedAt := none
    expiresAt := none
    metadata := []
    createdAt := 0
    amountPositive := by decide }
  amountMinor := 100
  ledgerTransactionId := "5a1f0e3c-2b4d-4c6e-8f70-112233445566"
  amountPositive := by decide

def audited (invoices : List InvoiceEntity) (distinct : (invoices.map (·.id)).Nodup) : Audited InvoiceTable :=
  ⟨⟨invoices, distinct⟩, []⟩

def firstInvoice : InvoiceEntity := termInvoice "9b2d7c11-5e0a-4f3b-8c6d-1a2b3c4d5e6f" "INV-1"

def secondInvoice : InvoiceEntity := termInvoice "0d4f8e22-6a1b-4c3d-9e5f-6a7b8c9d0e1f" "INV-2"

def oneTerm : Audited InvoiceTable := audited [firstInvoice] (by decide)

def twoTerms : Audited InvoiceTable := audited [firstInvoice, secondInvoice] (by decide)

theorem allocation_conserves_sample :
    ∃ after result, (allocateTenantFeePayment allocationRuntime allocationContext termPayment).run oneTerm =
        (after, .ok result) ∧ Conserves termPayment oneTerm after result := by
  have ran : (allocateTenantFeePayment allocationRuntime allocationContext termPayment).run oneTerm = (_, .ok _) := rfl
  refine ⟨_, _, ran, (allocation_conserves_iff ran).mpr ?_⟩
  unfold NamesAtMostOne
  decide +kernel

/-- One payment of 100 pays two invoices of 100, and names the first. -/
theorem two_invoices_are_paid_at_once :
    ∃ after result, (allocateTenantFeePayment allocationRuntime allocationContext termPayment).run twoTerms =
        (after, .ok result) ∧ paidMore twoTerms.tables after.tables = 200 ∧
      ¬ Conserves termPayment twoTerms after result := by
  refine ⟨_, _, rfl, by decide +kernel, ?_⟩
  intro conserves
  have bounded := conserves.bounded
  revert bounded
  decide +kernel

end ShuleHub.Payments
