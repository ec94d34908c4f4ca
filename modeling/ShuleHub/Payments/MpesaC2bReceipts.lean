import ShuleHub.Billing.ManualFeePaymentRuns
import ShuleHub.Lib.Locking
import ShuleHub.Payments.MpesaC2b

/-! Confirmations and reconciliations that run at the same time under READ COMMITTED. A request reads what was
committed before each of its statements and writes when it finishes; the statements that lock are its stages. -/

namespace ShuleHub.Payments

open Transaction Locking MpesaC2b

variable (runtime : C2bRuntime)

inductive C2bRequest where
  | confirm (call : C2bCall) (payload : Metadata)
  | reconcile (call : C2bCall) (paymentId : String) (dto : ReconcileMpesaC2bPaymentDto)

/-- The locks on a key of `mpesa_c2b_payments` that is being inserted and on a row of it. -/
inductive C2bLock where
  | transId (transId : String)
  | payment (id : String)
deriving DecidableEq

inductive C2bView where
  | begun
  | found (existing : Option MpesaC2bPaymentEntity)
  | received (conflicting : Option MpesaC2bPaymentEntity)
  | targeted (target : AllocationTarget)
  | locked (payment : Option MpesaC2bPaymentEntity)

inductive C2bAnswer where
  | confirmed (result : Option MpesaC2bConfirmationResult)
  | reconciled (payment : MpesaC2bPaymentEntity)

def C2bView.reads : C2bView → ConfirmationReads
  | .begun => ⟨none, none, ⟨none, none, "unmatched_reference"⟩⟩
  | .found existing => ⟨existing, none, ⟨none, none, "unmatched_reference"⟩⟩
  | .received conflicting => ⟨none, conflicting, ⟨none, none, "unmatched_reference"⟩⟩
  | .targeted target => ⟨none, none, target⟩
  | .locked _ => ⟨none, none, ⟨none, none, "unmatched_reference"⟩⟩

def C2bView.row : C2bView → Option MpesaC2bPaymentEntity
  | .locked payment => payment
  | _ => none

def confirmedPayment (payload : Metadata) : Option ParsedMpesaC2bPayment :=
  match ownConfirmation runtime payload with
  | .ok (some (parsed, _)) => some parsed
  | _ => none

@[grind =] def confirmationStage (parsed : ParsedMpesaC2bPayment) : C2bView → C2bDb → C2bView
  | .begun, db => .found (findByTransId db parsed.transId)
  | .found _, db => .received (findByTransId db parsed.transId)
  | .received _, db => .targeted (resolveAllocationTarget runtime db parsed)
  | view, _ => view

def c2bStage (request : C2bRequest) (view : C2bView) (db : C2bDb) : C2bView :=
  match request with
  | .confirm _ payload =>
    match confirmedPayment runtime payload with
    | some parsed => confirmationStage runtime parsed view db
    | none => view
  | .reconcile _ paymentId _ => .locked (db.c2bPayments.find paymentId)

/-- The insertion holds its key, unless a row has it already; the row that a reconciliation reads is locked. The
locks on receipts, invoices and keys of the ledger that the rest of a request takes only delay, because that rest
runs at once. -/
@[grind =] def c2bLocks : C2bRequest → C2bView → List C2bLock
  | .confirm _ payload, .received none | .confirm _ payload, .targeted _ =>
    ((confirmedPayment runtime payload).map fun parsed => C2bLock.transId parsed.transId).toList
  | .reconcile _ _ _, .locked (some payment) => [.payment payment.id]
  | _, _ => []

@[grind =] def confirmationReady : C2bView → Bool
  | .found existing => existing.isSome
  | .received conflicting => conflicting.isSome
  | .targeted _ => true
  | _ => false

@[grind =] def c2bReady (request : C2bRequest) (view : C2bView) : Bool :=
  match request with
  | .confirm _ payload => (confirmedPayment runtime payload).isNone || confirmationReady view
  | .reconcile _ _ _ =>
    match view with
    | .locked _ => true
    | _ => false

def C2bRequest.perform (view : C2bView) : C2bRequest → Transaction C2bDb Exception C2bAnswer
  | .confirm call payload => do
    let result ← MpesaC2b.confirm runtime call payload fun _ => view.reads
    return .confirmed result
  | .reconcile call paymentId dto => do
    let payment ← reconcileRow runtime call paymentId dto view.row
    return .reconciled payment

def c2bProtocol :
    Protocol C2bDb C2bRequest C2bLock C2bView (Except Exception C2bAnswer) where
  start _ := .begun
  stage request _ view db := c2bStage runtime request view db
  held request _ view := c2bLocks runtime request view
  ready request _ view := c2bReady runtime request view
  settle request view db := attempt (request.perform runtime view) db

end ShuleHub.Payments

/-! One confirmed payment, one receipt: what any interleaving of confirmations and reconciliations leaves. -/

namespace ShuleHub.Payments

open Transaction Finance Billing Locking MpesaC2b

variable {tenantId transId : String} {db after : C2bDb}

theorem trim_manualKey (trimmed : JsText.trim transId = transId) (present : transId ≠ "") :
    JsText.trim (manualKey tenantId transId) = manualKey tenantId transId := by
  obtain ⟨last, ends, visible⟩ := JsText.last_of_trimmed trimmed present
  have begins : (manualKey tenantId transId).toList.head? = some 'm' :=
    toList_head?_append (toList_head?_append (toList_head?_append (by decide)))
  exact JsText.trim_of_visible begins (toList_getLast?_append ends) (by decide) visible

theorem manualKey_inj {other : String} (same : manualKey tenantId transId = manualKey tenantId other) :
    transId = other :=
  (String.append_right_inj _).mp same

def receiptsOf (tenantId transId : String) (db : C2bDb) : List ManualFeePaymentEntity :=
  db.tenant.billing.manualFeePayments.rows.filter fun receipt => receipt.idempotencyKey = manualKey tenantId transId

theorem mem_receiptsOf {receipt : ManualFeePaymentEntity} :
    receipt ∈ receiptsOf tenantId transId db ↔
      receipt ∈ db.tenant.billing.manualFeePayments.rows ∧ receipt.idempotencyKey = manualKey tenantId transId := by
  simp [receiptsOf]

def NamesReceiptOf (tenantId transId : String) (db : C2bDb) (transaction : FinancialTransactionEntity) : Prop :=
  ∃ receipt ∈ receiptsOf tenantId transId db,
    metadataText transaction "manual_payment_id" = some receipt.id
deriving Decidable

def postingsOf (tenantId transId : String) (db : C2bDb) : List FinancialTransactionEntity :=
  db.tenant.finance.transactions.filter fun transaction => NamesReceiptOf tenantId transId db transaction

structure MatchedBy (tenantId : String) (payment : MpesaC2bPaymentEntity) (receipt : ManualFeePaymentEntity) : Prop where
  key : receipt.idempotencyKey = manualKey tenantId payment.transId
  amount : receipt.amountMinor = payment.amountMinor
  manualFeePaymentId : payment.manualFeePaymentId = some receipt.id
  ledgerTransactionId : payment.ledgerTransactionId = receipt.ledgerTransactionId
  cleared : receipt.status = .cleared

/-- A payment has at most one receipt and one posting, and the row of a matched one names both. -/
structure OnceReceipted (tenantId transId : String) (db : C2bDb) : Prop where
  receipts : (receiptsOf tenantId transId db).length ≤ 1
  postings : (postingsOf tenantId transId db).length ≤ 1
  matched : ∀ payment ∈ db.c2bPayments.rows, payment.transId = transId → payment.status = .matched →
    ∃ receipt posting, receiptsOf tenantId transId db = [receipt] ∧ postingsOf tenantId transId db = [posting] ∧
      MatchedBy tenantId payment receipt ∧ payment.ledgerTransactionId = some posting.id ∧
      ∃ assetAccount feeControlAccount, movements db.tenant.finance posting.id = [
        ⟨assetAccount, .debit, payment.amountMinor, normalizeCurrency receipt.currencyCode⟩,
        ⟨feeControlAccount, .credit, payment.amountMinor, normalizeCurrency receipt.currencyCode⟩]
  unmatched : (∀ payment ∈ db.c2bPayments.rows, payment.transId = transId → payment.status ≠ .matched) →
    receiptsOf tenantId transId db = [] ∧ postingsOf tenantId transId db = []

/-- A school that has been told of no payment yet, whatever else is in its tables. -/
structure Unconfirmed (tenantId : String) (db : C2bDb) : Prop where
  receipts : Receipts db.tenant
  keys : ∀ receipt ∈ db.tenant.billing.manualFeePayments.rows, ∀ other ∈ db.tenant.billing.manualFeePayments.rows,
    receipt.idempotencyKey = other.idempotencyKey → receipt.id = other.id
  free : ∀ receipt ∈ db.tenant.billing.manualFeePayments.rows, ∀ transId,
    receipt.idempotencyKey ≠ manualKey tenantId transId
  payments : db.c2bPayments.rows = []

structure C2bReceipts (tenantId : String) (start db : C2bDb) : Prop where
  receipts : Receipts db.tenant
  keys : ∀ receipt ∈ db.tenant.billing.manualFeePayments.rows, ∀ other ∈ db.tenant.billing.manualFeePayments.rows,
    receipt.idempotencyKey = other.idempotencyKey → receipt.id = other.id
  transIds : ∀ payment ∈ db.c2bPayments.rows, ∀ other ∈ db.c2bPayments.rows,
    payment.transId = other.transId → payment.id = other.id
  texts : ∀ payment ∈ db.c2bPayments.rows, JsText.trim payment.transId = payment.transId ∧ payment.transId ≠ ""
  accepted : ∀ payment ∈ db.c2bPayments.rows, payment.status = .pendingReview ∨ payment.status = .matched
  pending : ∀ payment ∈ db.c2bPayments.rows, payment.status = .pendingReview →
    receiptsOf tenantId payment.transId db = []
  matched : ∀ payment ∈ db.c2bPayments.rows, payment.status = .matched →
    ∃ receipt ∈ db.tenant.billing.manualFeePayments.rows, MatchedBy tenantId payment receipt
  made : ∀ receipt ∈ db.tenant.billing.manualFeePayments.rows,
    receipt ∈ start.tenant.billing.manualFeePayments.rows ∨ ∃ payment ∈ db.c2bPayments.rows,
      receipt ∈ receiptsOf tenantId payment.transId db
  posted : ∀ transaction ∈ db.tenant.finance.transactions, transaction ∈ start.tenant.finance.transactions ∨
    ∃ payment ∈ db.c2bPayments.rows, transaction ∈ postingsOf tenantId payment.transId db

theorem c2bReceipts_unconfirmed {start : C2bDb} (unconfirmed : Unconfirmed tenantId start) :
    C2bReceipts tenantId start start where
  receipts := unconfirmed.receipts
  keys := unconfirmed.keys
  transIds := by simp [unconfirmed.payments]
  texts := by simp [unconfirmed.payments]
  accepted := by simp [unconfirmed.payments]
  pending := by simp [unconfirmed.payments]
  matched := by simp [unconfirmed.payments]
  made receipt member := .inl member
  posted transaction member := .inl member

/-- How the rows of payments may change: a row stays, and a matched one stays as it is. -/
def Advances (db after : C2bDb) : Prop :=
  ∀ payment ∈ db.c2bPayments.rows, ∃ later ∈ after.c2bPayments.rows, later.id = payment.id ∧
    later.transId = payment.transId ∧ later.amountMinor = payment.amountMinor ∧
    (later = payment ∨ payment.status = .pendingReview ∧ later.status = .matched)

theorem Advances.refl (db : C2bDb) : Advances db db :=
  fun payment member => ⟨payment, member, rfl, rfl, rfl, .inl rfl⟩

theorem Advances.trans {middle : C2bDb} (first : Advances db middle) (second : Advances middle after) :
    Advances db after := by
  intro payment member
  obtain ⟨next, present, sameId, sameText, sameAmount, step⟩ := first payment member
  obtain ⟨last, kept, lastId, lastText, lastAmount, rest⟩ := second next present
  refine ⟨last, kept, lastId.trans sameId, lastText.trans sameText, lastAmount.trans sameAmount, ?_⟩
  rcases step with rfl | ⟨pending, matched⟩
  · exact rest
  · rcases rest with rfl | ⟨review, -⟩
    · exact .inr ⟨pending, matched⟩
    · rw [matched] at review
      cases review

structure Records (tenantId : String) (db : C2bDb) (payment : MpesaC2bPaymentEntity) (after : C2bDb) : Prop where
  put : db.c2bPayments.Put payment.id payment after.c2bPayments
  before : (∀ other ∈ db.c2bPayments.rows, other.id ≠ payment.id ∧ other.transId ≠ payment.transId) ∨
    ∃ old ∈ db.c2bPayments.rows, old.id = payment.id ∧ old.transId = payment.transId ∧
      old.amountMinor = payment.amountMinor ∧ old.status = .pendingReview ∧ payment.status = .matched
  text : JsText.trim payment.transId = payment.transId ∧ payment.transId ≠ ""
  outcome : payment.status = .pendingReview ∧ after.tenant = db.tenant ∨
    payment.status = .matched ∧ ∃ receipt dto, NewReceipt dto db.tenant receipt after.tenant ∧
      MatchedBy tenantId payment receipt

section Recording

variable {tenantId : String} {start db after : C2bDb} {payment : MpesaC2bPaymentEntity}
  {transId : String} {receipt : ManualFeePaymentEntity} {transaction : FinancialTransactionEntity}

theorem Records.advances (records : Records tenantId db payment after) : Advances db after := by
  intro other member
  by_cases same : other.id = payment.id
  · rcases records.before with fresh | ⟨old, present, sameId, sameText, sameAmount, pending, matched⟩
    · exact absurd same (fresh other member).1
    · obtain rfl := KeyedTable.eq_of_key present member (sameId.trans same.symm)
      exact ⟨payment, records.put.own.1, sameId.symm, sameText.symm, sameAmount.symm, .inr ⟨pending, matched⟩⟩
  · exact ⟨other, (records.put.others other same).mpr member, rfl, rfl, rfl, .inl rfl⟩

theorem Records.keeps_receipts (records : Records tenantId db payment after) :
    ∀ receipt ∈ db.tenant.billing.manualFeePayments.rows, receipt ∈ after.tenant.billing.manualFeePayments.rows := by
  intro receipt member
  rcases records.outcome with ⟨-, same⟩ | ⟨-, made, dto, new, -⟩
  · rwa [same]
  · exact new.mem_rows.mpr (.inl member)

theorem Records.receiptsOf_mono (records : Records tenantId db payment after) (member : receipt ∈ receiptsOf tenantId transId db) :
    receipt ∈ receiptsOf tenantId transId after := by
  obtain ⟨present, filed⟩ := mem_receiptsOf.mp member
  exact mem_receiptsOf.mpr ⟨records.keeps_receipts receipt present, filed⟩

theorem Records.receipt_cases (records : Records tenantId db payment after)
    (member : receipt ∈ after.tenant.billing.manualFeePayments.rows) :
    receipt ∈ db.tenant.billing.manualFeePayments.rows ∨
      payment.status = .matched ∧ receipt ∈ receiptsOf tenantId payment.transId after := by
  rcases records.outcome with ⟨-, same⟩ | ⟨matched, made, dto, new, own⟩
  · rw [same] at member
    exact .inl member
  · rcases new.mem_rows.mp member with old | rfl
    · exact .inl old
    · exact .inr ⟨matched, mem_receiptsOf.mpr ⟨member, own.key⟩⟩

theorem NamesReceiptOf.mono (records : Records tenantId db payment after) (names : NamesReceiptOf tenantId transId db transaction) :
    NamesReceiptOf tenantId transId after transaction := by
  obtain ⟨receipt, member, named⟩ := names
  exact ⟨receipt, records.receiptsOf_mono member, named⟩

theorem Records.transaction_cases (records : Records tenantId db payment after) (member : transaction ∈ after.tenant.finance.transactions) :
    transaction ∈ db.tenant.finance.transactions ∨ NamesReceiptOf tenantId payment.transId after transaction := by
  rcases records.outcome with ⟨-, same⟩ | ⟨-, receipt, dto, new, own⟩
  · rw [same] at member
    exact .inl member
  · obtain ⟨entry, transactions, -, posting, -⟩ := new.posting
    rw [transactions, List.mem_append, List.mem_singleton] at member
    rcases member with old | rfl
    · exact .inl old
    · exact .inr ⟨receipt, mem_receiptsOf.mpr ⟨new.put.own.1, own.key⟩, posting.2⟩

theorem Records.transIds (records : Records tenantId db payment after)
    (distinct : ∀ payment ∈ db.c2bPayments.rows, ∀ other ∈ db.c2bPayments.rows,
      payment.transId = other.transId → payment.id = other.id) :
    ∀ first ∈ after.c2bPayments.rows, ∀ second ∈ after.c2bPayments.rows,
      first.transId = second.transId → first.id = second.id := by
  have own : ∀ other ∈ db.c2bPayments.rows, other.transId = payment.transId → other.id = payment.id := by
    intro other member same
    rcases records.before with fresh | ⟨old, present, sameId, sameText, -⟩
    · exact absurd same (fresh other member).2
    · exact (distinct other member old present (same.trans sameText.symm)).trans sameId
  intro first member second other same
  rcases records.put.cases member with rfl | ⟨present, -⟩
  · rcases records.put.cases other with rfl | ⟨present, -⟩
    · rfl
    · exact (own second present same.symm).symm
  · rcases records.put.cases other with rfl | ⟨otherPresent, -⟩
    · exact own first present same
    · exact distinct first present second otherPresent same

theorem Records.others (records : Records tenantId db payment after)
    (inv : C2bReceipts tenantId start db) {other : MpesaC2bPaymentEntity} (member : other ∈ db.c2bPayments.rows)
    (differs : other.id ≠ payment.id) : other.transId ≠ payment.transId := by
  intro same
  rcases records.before with fresh | ⟨old, present, sameId, sameText, -⟩
  · exact (fresh other member).2 same
  · exact differs ((inv.transIds other member old present (same.trans sameText.symm)).trans sameId)

theorem C2bReceipts.record (inv : C2bReceipts tenantId start db) (records : Records tenantId db payment after)
    (unreceipted : receiptsOf tenantId payment.transId db = []) : C2bReceipts tenantId start after := by
  have carried {other : MpesaC2bPaymentEntity} (member : other ∈ db.c2bPayments.rows) :
      ∃ later ∈ after.c2bPayments.rows, later.transId = other.transId := by
    obtain ⟨later, present, -, sameText, -⟩ := records.advances other member
    exact ⟨later, present, sameText⟩
  constructor
  · rcases records.outcome with ⟨-, same⟩ | ⟨-, receipt, dto, new, -⟩
    · rw [same]
      exact inv.receipts
    · exact new.receipts
  · rcases records.outcome with ⟨-, same⟩ | ⟨-, receipt, dto, new, own⟩
    · rw [same]
      exact inv.keys
    · have free : ∀ other ∈ db.tenant.billing.manualFeePayments.rows, other.idempotencyKey ≠ receipt.idempotencyKey := by
        intro other member same
        have filed := mem_receiptsOf.mpr ⟨member, same.trans own.key⟩
        rw [unreceipted] at filed
        cases filed
      intro first member second other same
      rcases new.mem_rows.mp member with present | rfl
      · rcases new.mem_rows.mp other with otherPresent | rfl
        · exact inv.keys first present second otherPresent same
        · exact absurd same (free first present)
      · rcases new.mem_rows.mp other with otherPresent | rfl
        · exact absurd same.symm (free second otherPresent)
        · rfl
  · exact records.transIds inv.transIds
  · intro other member
    rcases records.put.cases member with rfl | ⟨present, -⟩
    · exact records.text
    · exact inv.texts other present
  · intro other member
    rcases records.put.cases member with rfl | ⟨present, -⟩
    · exact records.outcome.imp And.left And.left
    · exact inv.accepted other present
  · intro other member pending
    rw [List.eq_nil_iff_forall_not_mem]
    intro receipt filed
    obtain ⟨present, key⟩ := mem_receiptsOf.mp filed
    rcases records.put.cases member with rfl | ⟨old, differs⟩
    · rcases records.receipt_cases present with kept | ⟨matched, -⟩
      · have earlier := mem_receiptsOf.mpr ⟨kept, key⟩
        rw [unreceipted] at earlier
        cases earlier
      · rw [pending] at matched
        cases matched
    · rcases records.receipt_cases present with kept | ⟨-, own⟩
      · have earlier := mem_receiptsOf.mpr ⟨kept, key⟩
        rw [inv.pending other old pending] at earlier
        cases earlier
      · exact records.others inv old differs (manualKey_inj (key.symm.trans (mem_receiptsOf.mp own).2))
  · intro other member matched
    rcases records.put.cases member with rfl | ⟨old, -⟩
    · rcases records.outcome with ⟨pending, -⟩ | ⟨-, receipt, dto, new, own⟩
      · rw [matched] at pending
        cases pending
      · exact ⟨receipt, new.put.own.1, own⟩
    · obtain ⟨receipt, present, by_⟩ := inv.matched other old matched
      exact ⟨receipt, records.keeps_receipts receipt present, by_⟩
  · intro receipt member
    rcases records.receipt_cases member with kept | ⟨-, own⟩
    · rcases inv.made receipt kept with first | ⟨other, present, filed⟩
      · exact .inl first
      · obtain ⟨later, now, sameText⟩ := carried present
        exact .inr ⟨later, now, sameText ▸ records.receiptsOf_mono filed⟩
    · exact .inr ⟨payment, records.put.own.1, own⟩
  · intro transaction member
    rcases records.transaction_cases member with kept | names
    · rcases inv.posted transaction kept with first | ⟨other, present, posted⟩
      · exact .inl first
      · obtain ⟨later, now, sameText⟩ := carried present
        have names := of_decide_eq_true (List.mem_filter.mp posted).2
        rw [← sameText] at names
        exact .inr ⟨later, now, List.mem_filter.mpr ⟨member, decide_eq_true (names.mono records)⟩⟩
    · exact .inr ⟨payment, records.put.own.1, List.mem_filter.mpr ⟨member, decide_eq_true names⟩⟩

end Recording

section Requests

variable {runtime : C2bRuntime} {call : C2bCall} {start db after : C2bDb}
  {tenantId transId : String} {payload : Metadata} {settled : MpesaC2bPaymentEntity}

theorem C2bReceipts.unreceipted (inv : C2bReceipts tenantId start db)
    (unconfirmed : Unconfirmed tenantId start) (absent : ∀ payment ∈ db.c2bPayments.rows, payment.transId ≠ transId) :
    receiptsOf tenantId transId db = [] := by
  rw [List.eq_nil_iff_forall_not_mem]
  intro receipt filed
  obtain ⟨present, key⟩ := mem_receiptsOf.mp filed
  rcases inv.made receipt present with first | ⟨payment, member, own⟩
  · exact unconfirmed.free receipt first transId key
  · exact absent payment member (manualKey_inj ((mem_receiptsOf.mp own).2.symm.trans key))

theorem receipt_new {dto : CreateManualFeePaymentDto} {receipt : ManualFeePaymentEntity} {tenant : TenantDb} (receipts : Receipts db.tenant)
    (created : (createManualFeePayment runtime.toBillingRuntime call.toManualCall dto).run db.tenant =
      .ok (receipt, tenant))
    (method : dto.paymentMethod = .mpesaC2b) (keyed : dto.idempotencyKey = manualKey tenantId transId)
    (text : JsText.trim transId = transId ∧ transId ≠ "") (unreceipted : receiptsOf tenantId transId db = []) :
    NewReceipt dto db.tenant receipt tenant ∧ receipt.idempotencyKey = manualKey tenantId transId := by
  have key : JsText.trim dto.idempotencyKey = manualKey tenantId transId := by
    rw [keyed, trim_manualKey text.1 text.2]
  have new := createManualFeePayment_new receipts created (by simp [method]) fun other member same => by
    have filed := mem_receiptsOf.mpr ⟨member, same.trans key⟩
    rw [unreceipted] at filed
    cases filed
  exact ⟨new, new.key.trans key⟩

theorem allocateConfirmation_records {mpesaConfig : ResolvedTenantMpesaConfig}
    {parsed : ParsedMpesaC2bPayment} {target : AllocationTarget}
    {fresh : ∀ other ∈ db.c2bPayments.rows, other.id ≠ call.newC2bPaymentId}
    (receipts : Receipts db.tenant)
    (absent : ∀ payment ∈ db.c2bPayments.rows, payment.transId ≠ parsed.transId)
    (text : JsText.trim parsed.transId = parsed.transId ∧ parsed.transId ≠ "")
    (unreceipted : receiptsOf mpesaConfig.tenantId parsed.transId db = [])
    (succeeded : (allocateConfirmation runtime call mpesaConfig parsed call.newC2bPaymentId target).run
      { db with c2bPayments := db.c2bPayments.insert (receivedPayment call mpesaConfig payload parsed) fresh } =
        .ok (settled, after)) :
    settled.transId = parsed.transId ∧ Records mpesaConfig.tenantId db settled after := by
  let received := receivedPayment call mpesaConfig payload parsed
  have inserted : db.c2bPayments.Put received.id received (db.c2bPayments.insert received fresh) :=
    KeyedTable.Put.insert fresh
  unfold allocateConfirmation at succeeded
  split at succeeded
  · obtain ⟨rfl, put, tenant⟩ := updatePayment_put succeeded inserted.own.1 rfl
    exact ⟨rfl, inserted.trans put, .inl fun other member => ⟨fresh other member, absent other member⟩, text,
      .inl ⟨rfl, tenant⟩⟩
  · simp only [receiptConfirmation, run_bind_ok, onC2bTenant_ok] at succeeded
    obtain ⟨receipt, _, ⟨tenant, created, rfl⟩, marked⟩ := succeeded
    obtain ⟨new, key⟩ := receipt_new receipts created rfl rfl text unreceipted
    obtain ⟨rfl, put, same⟩ := updatePayment_put marked inserted.own.1 rfl
    rw [← show after.tenant = tenant from same] at new
    exact ⟨rfl, inserted.trans put, .inl fun other member => ⟨fresh other member, absent other member⟩, text,
      .inr ⟨rfl, receipt, _, new, key, new.amount _ rfl, rfl, rfl, new.status⟩⟩

theorem reconcileLocked_records {payment : MpesaC2bPaymentEntity} {dto : ReconcileMpesaC2bPaymentDto}
    (receipts : Receipts db.tenant) (member : payment ∈ db.c2bPayments.rows)
    (text : JsText.trim payment.transId = payment.transId ∧ payment.transId ≠ "")
    (pending : payment.status = .pendingReview)
    (unreceipted : receiptsOf runtime.tenantId payment.transId db = [])
    (succeeded : (reconcileLocked runtime call payment dto).run db = .ok (settled, after)) :
    settled.id = payment.id ∧ settled.transId = payment.transId ∧ Records runtime.tenantId db settled after := by
  obtain ⟨studentId, mpesaConfig, receipt, tenant, created, marked⟩ := reconcileLocked_ok succeeded
  obtain ⟨new, key⟩ := receipt_new receipts created rfl rfl text unreceipted
  obtain ⟨rfl, put, same⟩ := updatePayment_put marked member rfl
  rw [← show after.tenant = tenant from same] at new
  exact ⟨rfl, rfl, put, .inr ⟨payment, member, rfl, rfl, rfl, pending, rfl⟩, text,
    .inr ⟨rfl, receipt, _, new, key, new.amount _ rfl, rfl, rfl, new.status⟩⟩

theorem confirm_records {reads : ConfirmationReads} {result : Option MpesaC2bConfirmationResult}
    (inv : C2bReceipts runtime.tenantId start db) (unconfirmed : Unconfirmed runtime.tenantId start)
    (succeeded : (confirm runtime call payload fun _ => reads).run db = .ok (result, after))
    (covered : reads.existing = none → reads.conflicting = none → ∀ parsed ∈ confirmedPayment runtime payload,
      ∀ payment ∈ db.c2bPayments.rows, payment.transId ≠ parsed.transId) :
    after = db ∨ reads.existing = none ∧ reads.conflicting = none ∧
      ∃ parsed ∈ confirmedPayment runtime payload, ∃ payment, payment.transId = parsed.transId ∧
      (∀ other ∈ db.c2bPayments.rows, other.transId ≠ payment.transId) ∧
      receiptsOf runtime.tenantId payment.transId db = [] ∧ Records runtime.tenantId db payment after := by
  simp only [confirm, run_bind_ok, run_lift_ok] at succeeded
  obtain ⟨own, _, ⟨found, rfl⟩, rest⟩ := succeeded
  obtain ⟨parsed, mpesaConfig, parses, -, decided⟩ := ownConfirmation_ok found
  split at rest
  · simp only [run_pure_ok] at rest
    exact .inl rest.2.symm
  · next known config =>
    have same : mpesaConfig.tenantId = runtime.tenantId ∧ known = parsed ∧ config = mpesaConfig := by
      split at decided
      · next tenant =>
        cases decided
        exact ⟨tenant, rfl, rfl⟩
      · cases decided
    obtain ⟨tenant, rfl, rfl⟩ := same
    simp only [run_bind_ok, run_pure_ok] at rest
    obtain ⟨result, _, recorded, -, rfl⟩ := rest
    rcases recordConfirmation_ok recorded with ⟨same, -⟩ | ⟨existing, conflicting, -, fresh, settled, allocated⟩
    · exact .inl same
    · have own : known ∈ confirmedPayment runtime payload := by
        simp [confirmedPayment, found]
      have absent := covered existing conflicting known own
      have unreceipted := inv.unreceipted unconfirmed absent
      obtain ⟨sameText, records⟩ := allocateConfirmation_records inv.receipts absent (parseC2bPayload_transId parses)
        (by rw [tenant]; exact unreceipted) allocated
      rw [tenant] at records
      exact .inr ⟨existing, conflicting, known, own, settled, sameText, by rwa [sameText], by rwa [sameText], records⟩

end Requests

def C2bCovers (db : C2bDb) (view : C2bView) : C2bLock → Prop
  | .transId transId => ∀ payment ∈ db.c2bPayments.rows, payment.transId ≠ transId
  | .payment id => ∃ payment ∈ db.c2bPayments.rows, payment.id = id ∧ view.row = some payment

theorem Records.covers {payment : MpesaC2bPaymentEntity} {view : C2bView}
    {lock : C2bLock} (records : Records tenantId db payment after) (covers : C2bCovers db view lock)
    (inserting : (∀ other ∈ db.c2bPayments.rows, other.transId ≠ payment.transId) → lock ≠ .transId payment.transId)
    (updating : (∃ other ∈ db.c2bPayments.rows, other.id = payment.id) → lock ≠ .payment payment.id) :
    C2bCovers after view lock := by
  cases lock with
  | transId transId =>
    intro other member
    rcases records.put.cases member with rfl | ⟨old, -⟩
    · rcases records.before with fresh | ⟨old, present, -, sameText, -⟩
      · exact fun same => inserting (fun other member => (fresh other member).2) (by rw [same])
      · rw [← sameText]
        exact covers old present
    · exact covers other old
  | payment id =>
    obtain ⟨other, member, rfl, seen⟩ := covers
    refine ⟨other, (records.put.others other fun same => ?_).mpr member, rfl, seen⟩
    exact updating ⟨other, member, same⟩ (by rw [same])

section Coverage

variable {runtime : C2bRuntime} {start db : C2bDb}

theorem c2b_acquires (transaction : InFlight C2bRequest C2bView)
    (relies : Relies (c2bProtocol runtime) C2bCovers db transaction)
    (unready : c2bReady runtime transaction.request transaction.view = false) :
    Relies (c2bProtocol runtime) C2bCovers db (next (c2bProtocol runtime) transaction db) := by
  obtain ⟨request, stages, view⟩ := transaction
  intro lock held
  change lock ∈ c2bLocks runtime request (c2bStage runtime request view db) at held
  change C2bCovers db (c2bStage runtime request view db) lock
  cases request with
  | reconcile call paymentId dto =>
    simp only [c2bStage, c2bLocks] at held ⊢
    cases found : db.c2bPayments.find paymentId with
    | none =>
      rw [found] at held
      cases held
    | some payment =>
      rw [found] at held
      obtain rfl := List.mem_singleton.mp held
      exact ⟨payment, ((KeyedTable.find_eq_some _).mp found).1, rfl, rfl⟩
  | confirm call payload =>
    cases own : confirmedPayment runtime payload with
    | none =>
      cases view <;> simp [c2bReady, own] at unready
    | some parsed =>
      simp only [c2bStage, own] at held ⊢
      cases view with
      | begun => cases held
      | locked payment => cases held
      | targeted target => simp [c2bReady, confirmationReady] at unready
      | found existing =>
        cases absent : findByTransId db parsed.transId with
        | some payment =>
          simp only [confirmationStage, absent] at held
          cases held
        | none =>
          simp only [confirmationStage, absent, c2bLocks, own, Option.map_some, Option.toList_some,
            List.mem_singleton] at held
          subst held
          exact findByTransId_none absent
      | received conflicting =>
        cases conflicting with
        | some payment => simp [c2bReady, confirmationReady] at unready
        | none =>
          -- The key that it waited for it still holds, and nothing but itself can insert it.
          have kept := relies lock held
          cases lock with
          | transId transId => exact kept
          | payment id => simp [c2bLocks, confirmationStage] at held

theorem perform_records {request : C2bRequest} {stages : Nat} {view : C2bView} {answer : C2bAnswer} {after : C2bDb}
    (unconfirmed : Unconfirmed runtime.tenantId start) (inv : C2bReceipts runtime.tenantId start db)
    (relies : Relies (c2bProtocol runtime) C2bCovers db ⟨request, stages, view⟩)
    (ready : c2bReady runtime request view = true)
    (succeeded : (request.perform runtime view).run db = .ok (answer, after)) :
    after = db ∨ ∃ payment, receiptsOf runtime.tenantId payment.transId db = [] ∧
      Records runtime.tenantId db payment after ∧ ∀ lock ∉ c2bLocks runtime request view,
        ((∀ other ∈ db.c2bPayments.rows, other.transId ≠ payment.transId) → lock ≠ .transId payment.transId) ∧
          ((∃ other ∈ db.c2bPayments.rows, other.id = payment.id) → lock ≠ .payment payment.id) := by
  cases request with
  | confirm call payload =>
    simp only [C2bRequest.perform, run_bind_ok, run_pure_ok] at succeeded
    obtain ⟨result, _, confirmed, -, rfl⟩ := succeeded
    have targeted : view.reads.existing = none → view.reads.conflicting = none →
        ∀ parsed ∈ confirmedPayment runtime payload, ∃ target, view = .targeted target := by
      intro existing conflicting parsed own
      rw [Option.mem_def] at own
      cases view with
      | targeted target => exact ⟨target, rfl⟩
      | found payment =>
        obtain rfl : payment = none := existing
        simp [c2bReady, confirmationReady, own] at ready
      | received payment =>
        obtain rfl : payment = none := conflicting
        simp [c2bReady, confirmationReady, own] at ready
      | begun => simp [c2bReady, confirmationReady, own] at ready
      | locked payment => simp [c2bReady, confirmationReady, own] at ready
    have holds : ∀ parsed ∈ confirmedPayment runtime payload, (∃ target, view = .targeted target) →
        C2bLock.transId parsed.transId ∈ c2bLocks runtime (.confirm call payload) view := by
      rintro parsed own ⟨target, rfl⟩
      simp [c2bLocks, Option.mem_def.mp own]
    have covered : view.reads.existing = none → view.reads.conflicting = none →
        ∀ parsed ∈ confirmedPayment runtime payload, ∀ payment ∈ db.c2bPayments.rows,
          payment.transId ≠ parsed.transId := by
      intro existing conflicting parsed own
      exact relies _ (holds parsed own (targeted existing conflicting parsed own))
    rcases confirm_records inv unconfirmed confirmed covered with same |
      ⟨existing, conflicting, parsed, own, payment, sameText, absent, free, records⟩
    · exact .inl same
    · refine .inr ⟨payment, free, records, fun lock apart => ⟨fun _ same => ?_, ?_⟩⟩
      · rw [same, sameText] at apart
        exact apart (holds parsed own (targeted existing conflicting parsed own))
      · rintro ⟨other, member, same⟩ -
        rcases records.before with fresh | ⟨old, present, -, sameOld, -⟩
        · exact (fresh other member).1 same
        · exact absent old present sameOld
  | reconcile call paymentId dto =>
    simp only [C2bRequest.perform, run_bind_ok, run_pure_ok] at succeeded
    obtain ⟨result, _, reconciled, -, rfl⟩ := succeeded
    obtain ⟨payment, locked, ⟨-, -, same⟩ | ⟨pending, settled⟩⟩ := reconcileRow_ok reconciled
    · exact .inl same
    · cases view with
      | locked row =>
        obtain rfl : row = some payment := locked
        have held : C2bLock.payment payment.id ∈ c2bLocks runtime (.reconcile call paymentId dto) (.locked (some payment)) :=
          List.mem_singleton.mpr rfl
        obtain ⟨other, member, -, seen⟩ := relies _ held
        obtain rfl : payment = other := Option.some.inj seen
        have free := inv.pending payment member pending
        obtain ⟨sameId, sameText, records⟩ := reconcileLocked_records inv.receipts member (inv.texts payment member) pending
          free settled
        refine .inr ⟨result, by rwa [sameText], records, fun lock apart => ⟨fun absent => ?_, fun _ same => ?_⟩⟩
        · exact absurd sameText.symm (absent payment member)
        · rw [same, sameId] at apart
          exact apart held
      | begun => cases locked
      | found existing => cases locked
      | received conflicting => cases locked
      | targeted target => cases locked

theorem c2b_guards (unconfirmed : Unconfirmed runtime.tenantId start) :
    Guards (c2bProtocol runtime) C2bCovers (C2bReceipts runtime.tenantId start) Advances where
  startsFree request := by cases request <;> rfl
  acquires transaction db _ relies unready := c2b_acquires transaction relies unready
  settles := by
    rintro ⟨request, stages, view⟩ db inv relies ready
    change C2bReceipts _ start (attempt (request.perform runtime view) db).1 ∧
      Advances db (attempt (request.perform runtime view) db).1 ∧ ∀ other lock, lock ∉ c2bLocks runtime request view →
        C2bCovers db other lock → C2bCovers (attempt (request.perform runtime view) db).1 other lock
    cases ran : (request.perform runtime view).run db with
    | error error =>
      have unchanged : attempt (request.perform runtime view) db = (db, .error error) := attempt_error.mpr ⟨ran, rfl⟩
      rw [unchanged]
      exact ⟨inv, Advances.refl db, fun _ _ _ covers => covers⟩
    | ok outcome =>
      have changed : attempt (request.perform runtime view) db = (outcome.2, .ok outcome.1) := attempt_ok.mpr ran
      rw [changed]
      rcases perform_records unconfirmed inv relies ready ran with same | ⟨payment, free, records, untouched⟩
      · rw [same]
        exact ⟨inv, Advances.refl db, fun _ _ _ covers => covers⟩
      · refine ⟨inv.record records free, records.advances, fun other lock apart covers => ?_⟩
        obtain ⟨inserting, updating⟩ := untouched lock apart
        exact records.covers covers inserting updating

end Coverage

section OnceReceipted

variable {tenantId transId : String} {start db : C2bDb} {receipt : ManualFeePaymentEntity}

theorem mem_postingsOf {transaction : FinancialTransactionEntity} :
    transaction ∈ postingsOf tenantId transId db ↔
      transaction ∈ db.tenant.finance.transactions ∧ NamesReceiptOf tenantId transId db transaction := by
  simp [postingsOf]

theorem C2bReceipts.matched_of_receipt (inv : C2bReceipts tenantId start db) (unconfirmed : Unconfirmed tenantId start) (filed : receipt ∈ receiptsOf tenantId transId db) :
    ∃ payment ∈ db.c2bPayments.rows, payment.transId = transId ∧ payment.status = .matched ∧
      MatchedBy tenantId payment receipt := by
  obtain ⟨present, key⟩ := mem_receiptsOf.mp filed
  rcases inv.made receipt present with first | ⟨payment, member, own⟩
  · exact absurd key (unconfirmed.free receipt first transId)
  · obtain rfl := manualKey_inj ((mem_receiptsOf.mp own).2.symm.trans key)
    rcases inv.accepted payment member with pending | matched
    · rw [inv.pending payment member pending] at own
      cases own
    · obtain ⟨other, otherPresent, by_⟩ := inv.matched payment member matched
      obtain rfl := KeyedTable.eq_of_key otherPresent present
        (inv.keys other otherPresent receipt present (by_.key.trans key.symm))
      exact ⟨payment, member, rfl, matched, by_⟩

theorem C2bReceipts.receiptsOf_eq (inv : C2bReceipts tenantId start db)
    (filed : receipt ∈ receiptsOf tenantId transId db) : receiptsOf tenantId transId db = [receipt] := by
  have distinct : (receiptsOf tenantId transId db).Nodup :=
    (List.Nodup.of_map _ db.tenant.billing.manualFeePayments.distinct).filter _
  obtain ⟨present, key⟩ := mem_receiptsOf.mp filed
  refine List.perm_singleton.mp ((List.perm_ext_iff_of_nodup distinct (List.nodup_singleton _)).mpr fun other => ?_)
  rw [List.mem_singleton]
  constructor
  · intro listed
    obtain ⟨otherPresent, otherKey⟩ := mem_receiptsOf.mp listed
    exact KeyedTable.eq_of_key otherPresent present (inv.keys other otherPresent receipt present (otherKey.trans key.symm))
  · rintro rfl
    exact filed

theorem C2bReceipts.postingsOf_eq (inv : C2bReceipts tenantId start db) (unconfirmed : Unconfirmed tenantId start) (filed : receipt ∈ receiptsOf tenantId transId db) :
    ∃ posting, postingsOf tenantId transId db = [posting] ∧ receipt.ledgerTransactionId = some posting.id := by
  obtain ⟨payment, -, -, -, by_⟩ := inv.matched_of_receipt unconfirmed filed
  have present := (mem_receiptsOf.mp filed).1
  obtain ⟨ledger, reversal⟩ := inv.receipts.statuses receipt present
  obtain ⟨id, named⟩ := Option.ne_none_iff_exists'.mp (ledger.mpr (.inl by_.cleared))
  obtain ⟨posting, stored, rfl, posts⟩ := (inv.receipts.posted receipt present .receipt id named).stored
  refine ⟨posting, ?_, named⟩
  have distinct : (postingsOf tenantId transId db).Nodup := (List.Nodup.of_map _ inv.receipts.books.ids).filter _
  refine List.perm_singleton.mp ((List.perm_ext_iff_of_nodup distinct (List.nodup_singleton _)).mpr fun other => ?_)
  rw [List.mem_singleton]
  constructor
  · intro listed
    obtain ⟨otherStored, own, ownFiled, names⟩ := mem_postingsOf.mp listed
    rw [inv.receiptsOf_eq filed, List.mem_singleton] at ownFiled
    subst ownFiled
    obtain ⟨kind, -, row, rowMember, sameId, posted⟩ := inv.receipts.attributed other otherStored own.id names
    obtain rfl := KeyedTable.eq_of_key rowMember present sameId
    cases kind with
    | receipt =>
      have sameTransaction := Option.some.inj (posted.symm.trans named)
      exact List.inj_on_of_nodup_map inv.receipts.books.ids otherStored stored sameTransaction
    | reversal =>
      have reversed := reversal.mp (by simp [posted])
      rw [by_.cleared] at reversed
      cases reversed
  · rintro rfl
    exact mem_postingsOf.mpr ⟨stored, receipt, filed, posts.2⟩

theorem C2bReceipts.onceReceipted (inv : C2bReceipts tenantId start db) (unconfirmed : Unconfirmed tenantId start)
    (transId : String) : OnceReceipted tenantId transId db := by
  have made : (∃ receipt, receipt ∈ receiptsOf tenantId transId db) ∨ receiptsOf tenantId transId db = [] ∧
      postingsOf tenantId transId db = [] := by
    cases listed : receiptsOf tenantId transId db with
    | nil =>
      refine .inr ⟨rfl, List.eq_nil_iff_forall_not_mem.mpr fun transaction named => ?_⟩
      obtain ⟨-, receipt, filed, -⟩ := mem_postingsOf.mp named
      rw [listed] at filed
      cases filed
    | cons receipt receipts => exact .inl ⟨receipt, by simp⟩
  constructor
  · rcases made with ⟨receipt, filed⟩ | ⟨none, -⟩
    · simp [inv.receiptsOf_eq filed]
    · simp [none]
  · rcases made with ⟨receipt, filed⟩ | ⟨-, none⟩
    · obtain ⟨posting, only, -⟩ := inv.postingsOf_eq unconfirmed filed
      simp [only]
    · simp [none]
  · rintro payment member rfl matched
    obtain ⟨receipt, present, by_⟩ := inv.matched payment member matched
    have filed := mem_receiptsOf.mpr ⟨present, by_.key⟩
    obtain ⟨posting, only, named⟩ := inv.postingsOf_eq unconfirmed filed
    obtain ⟨asset, control, -, -, moved⟩ := (inv.receipts.posted receipt present .receipt posting.id named).moved
    refine ⟨receipt, posting, inv.receiptsOf_eq filed, only, by_, by_.ledgerTransactionId.trans named, asset.id,
      control.id, ?_⟩
    rw [moved, ← by_.amount]
    rfl
  · intro open_
    rcases made with ⟨receipt, filed⟩ | none
    · obtain ⟨payment, member, own, matched, -⟩ := inv.matched_of_receipt unconfirmed filed
      exact absurd matched (open_ payment member own)
    · exact none

end OnceReceipted

def c2bRun (runtime : C2bRuntime) (start : C2bDb) (events : List (Event C2bRequest)) : C2bDb :=
  (Runs.run (step (c2bProtocol runtime)) (World.idle start) events).db

/-- Nothing else is made: what is new in the tables belongs to a payment that was confirmed. -/
structure NothingElse (tenantId : String) (start db : C2bDb) : Prop where
  receipts : ∀ receipt ∈ db.tenant.billing.manualFeePayments.rows,
    receipt ∈ start.tenant.billing.manualFeePayments.rows ∨
      ∃ payment ∈ db.c2bPayments.rows, receipt ∈ receiptsOf tenantId payment.transId db
  transactions : ∀ transaction ∈ db.tenant.finance.transactions,
    transaction ∈ start.tenant.finance.transactions ∨
      ∃ payment ∈ db.c2bPayments.rows, transaction ∈ postingsOf tenantId payment.transId db
  payments : ∀ payment ∈ db.c2bPayments.rows, ∀ other ∈ db.c2bPayments.rows,
    payment.transId = other.transId → payment = other
  statuses : ∀ payment ∈ db.c2bPayments.rows, payment.status = .pendingReview ∨ payment.status = .matched

theorem confirmed_payments_are_receipted_once (runtime : C2bRuntime) {start : C2bDb}
    (unconfirmed : Unconfirmed runtime.tenantId start) (events later : List (Event C2bRequest)) :
    (∀ transId, OnceReceipted runtime.tenantId transId (c2bRun runtime start events)) ∧
      NothingElse runtime.tenantId start (c2bRun runtime start events) ∧
      Advances (c2bRun runtime start events) (c2bRun runtime start (events ++ later)) := by
  have guards := c2b_guards unconfirmed
  have begun := run_relied guards Advances.refl Advances.trans (World.idle start) events
    (relied_idle (c2bReceipts_unconfirmed unconfirmed))
  have inv := begun.1.good
  refine ⟨fun transId => inv.onceReceipted unconfirmed transId, ⟨inv.made, inv.posted, ?_, inv.accepted⟩, ?_⟩
  · intro payment member other present same
    exact KeyedTable.eq_of_key member present (inv.transIds payment member other present same)
  · have rest := (run_relied guards Advances.refl Advances.trans _ later begun.1).2
    rw [← Runs.run_append] at rest
    exact rest

def paybillRuntime : C2bRuntime where
  toBillingRuntime := officeRuntime
  resolveMpesaConfigByShortcode shortcode :=
    if shortcode = "600100" then .ok ⟨"school", none, none, "1110-MPESA-CLEARING", "1100-AR-FEES"⟩
    else .error (.notFound "M-PESA shortcode is not configured")

def paybillChart : ChartOfAccounts where
  accounts := [officeAccount "paybill" "1110-MPESA-CLEARING" .debit, officeAccount "fees" "1100-AR-FEES" .debit]
  accountsDistinct := by decide

def paybill : C2bDb where
  tenant := { office with finance := FinanceDb.opened paybillChart }
  students := [⟨"student", "ADM-1", "active"⟩]
  c2bPayments := .empty

def paybillCall (index : Nat) : C2bCall where
  toManualCall := officeCall index
  newC2bPaymentId := "c2b-" ++ toString index

def paidFor (admissionNumber : String) : Metadata := [
  ("TransactionType", .str "Pay Bill"),
  ("TransID", .str "RKL51ZDR4F"),
  ("TransTime", .str "19700101030000"),
  ("TransAmount", .str "500.00"),
  ("BusinessShortCode", .str "600100"),
  ("BillRefNumber", .str admissionNumber)]

theorem unconfirmed_paybill : Unconfirmed paybillRuntime.tenantId paybill := by
  have unreceipted : Unreceipted paybill.tenant := unreceipted_opened rfl rfl
  refine ⟨receipts_unreceipted unreceipted, ?_, ?_, rfl⟩
  · simp only [unreceipted.payments, List.not_mem_nil, false_imp_iff, implies_true]
  · simp only [unreceipted.payments, List.not_mem_nil, false_imp_iff, implies_true]

/-- Two deliveries of the payment overlap, then two accountants reconcile it; the second of each waits. -/
def overlapping : List (Event C2bRequest) := [
  .begin (.confirm (paybillCall 1) (paidFor "ADM-2")),
  .begin (.confirm (paybillCall 2) (paidFor "ADM-2")),
  .advance 0, .advance 1, .advance 0, .advance 1, .advance 0, .finish 0, .advance 0, .finish 0,
  .begin (.reconcile (paybillCall 3) "c2b-2" ⟨none, some "student", none⟩),
  .begin (.reconcile (paybillCall 4) "c2b-2" ⟨none, some "student", none⟩),
  .advance 0, .advance 1, .finish 0, .advance 0, .finish 0]

theorem overlapping_payments_are_receipted_once :
    (c2bRun paybillRuntime paybill overlapping).c2bPayments.rows.map (fun payment =>
      (payment.status, payment.manualFeePaymentId)) = [(.matched, some "payment-3")] ∧
      ∀ transId, OnceReceipted paybillRuntime.tenantId transId (c2bRun paybillRuntime paybill overlapping) :=
  ⟨by decide +kernel, (confirmed_payments_are_receipted_once paybillRuntime unconfirmed_paybill overlapping []).1⟩

end ShuleHub.Payments
