import ShuleHub.Billing.InvoicePayments
import ShuleHub.Billing.ManualFeePayments
import ShuleHub.Finance.NewPostings

/-! Receipts and the ledger over runs: what a receipt has posted is told by its status. -/

namespace ShuleHub.Billing

open Transaction Finance Runs Idempotency ManualFeePayments KeyedTable

variable {db : TenantDb}

inductive ManualFeeRequest where
  | create (dto : CreateManualFeePaymentDto)
  | deposit (paymentId : String) (dto : UpdateManualFeePaymentStatusDto)
  | clear (paymentId : String) (dto : UpdateManualFeePaymentStatusDto)
  | bounce (paymentId : String) (dto : UpdateManualFeePaymentStatusDto)
  | reverse (paymentId : String) (dto : UpdateManualFeePaymentStatusDto)

def ManualFeeRequest.perform (runtime : BillingRuntime) (call : ManualCall) :
    ManualFeeRequest → Transaction TenantDb Exception ManualFeePaymentEntity
  | .create dto => createManualFeePayment runtime call dto
  | .deposit paymentId dto => depositManualFeePayment runtime call paymentId dto
  | .clear paymentId dto => clearManualFeePayment runtime call paymentId dto
  | .bounce paymentId dto => bounceManualFeePayment runtime call paymentId dto
  | .reverse paymentId dto => reverseManualFeePayment runtime call paymentId dto

def receiptStep (runtime : BillingRuntime) (db : TenantDb) (event : ManualCall × ManualFeeRequest) : TenantDb :=
  (event.2.perform runtime event.1).commit db

inductive ReceiptPosting where
  | receipt
  | reversal
deriving DecidableEq

variable {kind : ReceiptPosting}

namespace ReceiptPosting

variable {kind other : ReceiptPosting}

def source : ReceiptPosting → String
  | .receipt => "manual_fee_payment"
  | .reversal => "manual_fee_payment_reversal"

def key (paymentId : String) : ReceiptPosting → String
  | .receipt => clearKey paymentId
  | .reversal => reverseKey paymentId

def reference (receiptNumber : String) : ReceiptPosting → String
  | .receipt => receiptReference receiptNumber
  | .reversal => reversalReference receiptNumber

def transactionId (payment : ManualFeePaymentEntity) : ReceiptPosting → Option String
  | .receipt => payment.ledgerTransactionId
  | .reversal => payment.reversalLedgerTransactionId

def movements (payment : ManualFeePaymentEntity) (assetAccount feeControlAccount : AccountEntity) :
    ReceiptPosting → List Movement
  | .receipt => [
    ⟨assetAccount.id, .debit, payment.amountMinor, normalizeCurrency payment.currencyCode⟩,
    ⟨feeControlAccount.id, .credit, payment.amountMinor, normalizeCurrency payment.currencyCode⟩]
  | .reversal => [
    ⟨feeControlAccount.id, .debit, payment.amountMinor, normalizeCurrency payment.currencyCode⟩,
    ⟨assetAccount.id, .credit, payment.amountMinor, normalizeCurrency payment.currencyCode⟩]

theorem key_inj {paymentId otherId : String}
    (same : kind.key paymentId = other.key otherId) : kind = other ∧ paymentId = otherId := by
  have last (first second : String) : first ++ ":clear" ≠ second ++ ":reverse" := by
    intro equal
    have left := @toList_getLast?_append first ":clear" 'r' (by decide)
    have right := @toList_getLast?_append second ":reverse" 'e' (by decide)
    rw [equal, right] at left
    exact absurd left (by decide)
  cases kind with
  | receipt =>
    cases other with
    | receipt => exact ⟨rfl, (String.append_right_inj _).mp ((String.append_left_inj _).mp same)⟩
    | reversal => exact absurd same (last _ _)
  | reversal =>
    cases other with
    | receipt => exact absurd same.symm (last _ _)
    | reversal => exact ⟨rfl, (String.append_right_inj _).mp ((String.append_left_inj _).mp same)⟩

theorem reference_inj {number otherNumber : String}
    (same : kind.reference number = other.reference otherNumber) : kind = other ∧ number = otherNumber := by
  have first (left right : String) : "MANUAL-" ++ left ≠ "REV-MANUAL-" ++ right := by
    intro equal
    have begins := @toList_head?_append "MANUAL-" left 'M' (by decide)
    have other := @toList_head?_append "REV-MANUAL-" right 'R' (by decide)
    rw [equal, other] at begins
    exact absurd begins (by decide)
  cases kind with
  | receipt =>
    cases other with
    | receipt => exact ⟨rfl, (String.append_right_inj _).mp same⟩
    | reversal => exact absurd same (first _ _)
  | reversal =>
    cases other with
    | receipt => exact absurd same.symm (first _ _)
    | reversal => exact ⟨rfl, (String.append_right_inj _).mp same⟩

end ReceiptPosting

def metadataText (transaction : FinancialTransactionEntity) (key : String) : Option String :=
  match transaction.metadata with
  | .obj fields => Metadata.text fields key
  | _ => none

def IsPosting (kind : ReceiptPosting) (paymentId : String) (transaction : FinancialTransactionEntity) : Prop :=
  metadataText transaction "source" = some kind.source ∧
    metadataText transaction "manual_payment_id" = some paymentId
deriving Decidable

def postings (kind : ReceiptPosting) (db : TenantDb) (paymentId : String) : List FinancialTransactionEntity :=
  db.finance.transactions.filter fun transaction => IsPosting kind paymentId transaction

theorem mem_postings {paymentId : String}
    {transaction : FinancialTransactionEntity} : transaction ∈ postings kind db paymentId ↔
      transaction ∈ db.finance.transactions ∧ IsPosting kind paymentId transaction := by
  simp [postings]

def netEffect (db : TenantDb) (paymentId accountId : String) : Int :=
  (((postings .receipt db paymentId ++ postings .reversal db paymentId).flatMap fun transaction =>
    movements db.finance transaction.id).map (Movement.signed accountId)).sum

def receiptEffect (db : TenantDb) (payment : ManualFeePaymentEntity) (accountId : String) : Int :=
  (if (findByCode db payment.assetAccountCode).map (·.id) = some accountId then (payment.amountMinor : Int) else 0) -
    if (findByCode db payment.feeControlAccountCode).map (·.id) = some accountId then (payment.amountMinor : Int) else 0

structure LedgerInStep (db : TenantDb) (payment : ManualFeePaymentEntity) : Prop where
  posted : payment.ledgerTransactionId ≠ none ↔ payment.status = .cleared ∨ payment.status = .reversed
  reversed : payment.reversalLedgerTransactionId ≠ none ↔ payment.status = .reversed
  receipts : (postings .receipt db payment.id).map (·.id) = payment.ledgerTransactionId.toList
  reversals : (postings .reversal db payment.id).map (·.id) = payment.reversalLedgerTransactionId.toList
  sources : ∀ transaction ∈ db.finance.transactions, metadataText transaction "manual_payment_id" = some payment.id →
    ∃ kind, IsPosting kind payment.id transaction
  mirrored : ∀ receipt ∈ payment.ledgerTransactionId, ∀ reversal ∈ payment.reversalLedgerTransactionId,
    movements db.finance reversal = (movements db.finance receipt).reverse.map Movement.mirror
  net : ∀ accountId, netEffect db payment.id accountId =
    if payment.status = .cleared then receiptEffect db payment accountId else 0

/-- A school that has recorded no receipt yet, and whose books nothing else has entered under the keys,
references and metadata of receipts. -/
structure Unreceipted (db : TenantDb) : Prop where
  books : Books db.finance
  payments : db.billing.manualFeePayments.rows = []
  keys : ∀ record ∈ db.finance.idempotencyKeys, ∀ (kind : ReceiptPosting) id, record.idempotencyKey ≠ kind.key id
  references : ∀ transaction ∈ db.finance.transactions, ∀ (kind : ReceiptPosting) number,
    transaction.reference ≠ kind.reference number
  metadata : ∀ transaction ∈ db.finance.transactions, metadataText transaction "manual_payment_id" = none

theorem unreceipted_opened {chart : ChartOfAccounts} (finance : db.finance = FinanceDb.opened chart)
    (payments : db.billing.manualFeePayments.rows = []) : Unreceipted db where
  books := by
    rw [finance]
    exact books_opened chart
  payments := payments
  keys := by simp [finance, FinanceDb.opened]
  references := by simp [finance, FinanceDb.opened]
  metadata := by simp [finance, FinanceDb.opened]

def Statuses (payment : ManualFeePaymentEntity) : Prop :=
  (ReceiptPosting.receipt.transactionId payment ≠ none ↔ payment.status = .cleared ∨ payment.status = .reversed) ∧
    (ReceiptPosting.reversal.transactionId payment ≠ none ↔ payment.status = .reversed)

/-- The transaction of a kind that a receipt names is in the ledger, with the entries of its kind. -/
structure PostedAs (kind : ReceiptPosting) (db : TenantDb) (payment : ManualFeePaymentEntity) (transactionId : String) :
    Prop where
  stored : ∃ transaction ∈ db.finance.transactions, transaction.id = transactionId ∧
    IsPosting kind payment.id transaction
  moved : ∃ assetAccount feeControlAccount, findByCode db payment.assetAccountCode = some assetAccount ∧
    findByCode db payment.feeControlAccountCode = some feeControlAccount ∧
    movements db.finance transactionId = kind.movements payment assetAccount feeControlAccount

structure Receipts (db : TenantDb) : Prop where
  books : Books db.finance
  numbered : ∀ payment ∈ db.billing.manualFeePayments.rows, ∃ call, payment.receiptNumber = generateReceiptNumber call
  numbers : ∀ payment ∈ db.billing.manualFeePayments.rows, ∀ other ∈ db.billing.manualFeePayments.rows,
    payment.receiptNumber = other.receiptNumber → payment.id = other.id
  statuses : ∀ payment ∈ db.billing.manualFeePayments.rows, Statuses payment
  keys : ∀ record ∈ db.finance.idempotencyKeys, ∀ (kind : ReceiptPosting) id, record.idempotencyKey = kind.key id →
    ∃ payment ∈ db.billing.manualFeePayments.rows, payment.id = id ∧ kind.transactionId payment ≠ none
  references : ∀ transaction ∈ db.finance.transactions, ∀ (kind : ReceiptPosting) number,
    transaction.reference = kind.reference number → ∃ payment ∈ db.billing.manualFeePayments.rows,
      payment.receiptNumber = number ∧ kind.transactionId payment ≠ none
  attributed : ∀ transaction ∈ db.finance.transactions, ∀ id,
    metadataText transaction "manual_payment_id" = some id → ∃ kind : ReceiptPosting,
      metadataText transaction "source" = some kind.source ∧ ∃ payment ∈ db.billing.manualFeePayments.rows,
        payment.id = id ∧ kind.transactionId payment = some transaction.id
  posted : ∀ payment ∈ db.billing.manualFeePayments.rows, ∀ (kind : ReceiptPosting) id,
    kind.transactionId payment = some id → PostedAs kind db payment id

theorem receipts_unreceipted (start : Unreceipted db) : Receipts db where
  books := start.books
  numbered := by simp [start.payments]
  numbers := by simp [start.payments]
  statuses := by simp [start.payments]
  keys record member kind id same := absurd same (start.keys record member kind id)
  references transaction member kind number same := absurd same (start.references transaction member kind number)
  attributed transaction member id named := by
    rw [start.metadata transaction member] at named
    cases named
  posted := by simp [start.payments]

structure SameReceipt (payment changed : ManualFeePaymentEntity) : Prop where
  id : changed.id = payment.id
  receiptNumber : changed.receiptNumber = payment.receiptNumber
  assetAccountCode : changed.assetAccountCode = payment.assetAccountCode
  feeControlAccountCode : changed.feeControlAccountCode = payment.feeControlAccountCode
  amountMinor : changed.amountMinor = payment.amountMinor
  currencyCode : changed.currencyCode = payment.currencyCode

section Marks

variable (payment : ManualFeePaymentEntity) (transactionId : String) (at_ : Int) (depositReference notes : Option String)
  (metadata : Metadata)

theorem sameReceipt_clear : SameReceipt payment (clear transactionId at_ depositReference notes metadata payment) :=
  ⟨rfl, rfl, rfl, rfl, rfl, rfl⟩

theorem sameReceipt_reverse : SameReceipt payment (reverse transactionId at_ notes metadata payment) :=
  ⟨rfl, rfl, rfl, rfl, rfl, rfl⟩

@[simp] theorem clear_status : (clear transactionId at_ depositReference notes metadata payment).status = .cleared := rfl

@[simp] theorem clear_receipt : ReceiptPosting.receipt.transactionId
    (clear transactionId at_ depositReference notes metadata payment) = some transactionId := rfl

@[simp] theorem clear_reversal : ReceiptPosting.reversal.transactionId
    (clear transactionId at_ depositReference notes metadata payment) =
      ReceiptPosting.reversal.transactionId payment := rfl

@[simp] theorem reverse_status : (reverse transactionId at_ notes metadata payment).status = .reversed := rfl

@[simp] theorem reverse_receipt : ReceiptPosting.receipt.transactionId
    (reverse transactionId at_ notes metadata payment) = ReceiptPosting.receipt.transactionId payment := rfl

@[simp] theorem reverse_reversal : ReceiptPosting.reversal.transactionId
    (reverse transactionId at_ notes metadata payment) = some transactionId := rfl

end Marks

theorem SameReceipt.refl (payment : ManualFeePaymentEntity) : SameReceipt payment payment :=
  ⟨rfl, rfl, rfl, rfl, rfl, rfl⟩

def Carries (before after : List ManualFeePaymentEntity) : Prop :=
  ∀ old ∈ before, ∃ new ∈ after, new.id = old.id ∧ new.receiptNumber = old.receiptNumber ∧
    ∀ kind : ReceiptPosting, kind.transactionId old ≠ none → kind.transactionId new = kind.transactionId old

section Steps

variable {db : TenantDb} {billing : BillingDb} {finance : FinanceDb} {payment changed : ManualFeePaymentEntity}
  {kind : ReceiptPosting} {id : String} {input : PostFinancialTransactionInput}
  {transaction : FinancialTransactionEntity}

theorem carries_put (put : db.billing.manualFeePayments.Put payment.id changed billing.manualFeePayments)
    (member : payment ∈ db.billing.manualFeePayments.rows) (same : SameReceipt payment changed)
    (keeps : ∀ kind : ReceiptPosting, kind.transactionId payment ≠ none →
      kind.transactionId changed = kind.transactionId payment) :
    Carries db.billing.manualFeePayments.rows billing.manualFeePayments.rows := by
  intro old present
  by_cases own : old.id = payment.id
  · obtain rfl := eq_of_key present member own
    exact ⟨changed, put.own.1, same.id, same.receiptNumber, keeps⟩
  · exact ⟨old, (put.others old own).mpr present, rfl, rfl, fun _ _ => rfl⟩

theorem Receipts.keys_carried (receipts : Receipts db)
    (carries : Carries db.billing.manualFeePayments.rows billing.manualFeePayments.rows) :
    ∀ record ∈ db.finance.idempotencyKeys, ∀ (kind : ReceiptPosting) id, record.idempotencyKey = kind.key id →
      ∃ payment ∈ billing.manualFeePayments.rows, payment.id = id ∧ kind.transactionId payment ≠ none := by
  intro record member kind id same
  obtain ⟨old, present, rfl, posted⟩ := receipts.keys record member kind id same
  obtain ⟨new, now, sameId, -, keeps⟩ := carries old present
  exact ⟨new, now, sameId, by rwa [keeps kind posted]⟩

theorem Receipts.references_carried (receipts : Receipts db)
    (carries : Carries db.billing.manualFeePayments.rows billing.manualFeePayments.rows) :
    ∀ transaction ∈ db.finance.transactions, ∀ (kind : ReceiptPosting) number,
      transaction.reference = kind.reference number → ∃ payment ∈ billing.manualFeePayments.rows,
        payment.receiptNumber = number ∧ kind.transactionId payment ≠ none := by
  intro transaction member kind number same
  obtain ⟨old, present, rfl, posted⟩ := receipts.references transaction member kind number same
  obtain ⟨new, now, -, sameNumber, keeps⟩ := carries old present
  exact ⟨new, now, sameNumber, by rwa [keeps kind posted]⟩

theorem Receipts.attributed_carried (receipts : Receipts db)
    (carries : Carries db.billing.manualFeePayments.rows billing.manualFeePayments.rows) :
    ∀ transaction ∈ db.finance.transactions, ∀ id, metadataText transaction "manual_payment_id" = some id →
      ∃ kind : ReceiptPosting, metadataText transaction "source" = some kind.source ∧
        ∃ payment ∈ billing.manualFeePayments.rows,
          payment.id = id ∧ kind.transactionId payment = some transaction.id := by
  intro transaction member id named
  obtain ⟨kind, source, old, present, rfl, posted⟩ := receipts.attributed transaction member id named
  obtain ⟨new, now, sameId, -, keeps⟩ := carries old present
  exact ⟨kind, source, new, now, sameId, (keeps kind (by simp [posted])).trans posted⟩

theorem PostedAs.of_same (posted : PostedAs kind db payment id)
    (same : SameReceipt payment changed) : PostedAs kind { db with billing } changed id := by
  obtain ⟨transaction, member, own, posting⟩ := posted.stored
  obtain ⟨asset, control, assetFound, controlFound, moved⟩ := posted.moved
  constructor
  · exact ⟨transaction, member, own, by rwa [same.id]⟩
  · refine ⟨asset, control, by rw [same.assetAccountCode]; exact assetFound,
      by rw [same.feeControlAccountCode]; exact controlFound, ?_⟩
    cases kind <;> simp only [ReceiptPosting.movements, same.amountMinor, same.currencyCode] at moved ⊢ <;> exact moved

theorem Receipts.numbers_put (receipts : Receipts db)
    (put : db.billing.manualFeePayments.Put payment.id changed billing.manualFeePayments)
    (free : ∀ other ∈ db.billing.manualFeePayments.rows, other.receiptNumber = changed.receiptNumber →
      other.id = payment.id) :
    ∀ payment ∈ billing.manualFeePayments.rows, ∀ other ∈ billing.manualFeePayments.rows,
      payment.receiptNumber = other.receiptNumber → payment.id = other.id := by
  intro first member second other same
  have sameId := put.own.2
  rcases put.cases member with rfl | ⟨present, -⟩
  · rcases put.cases other with rfl | ⟨present, -⟩
    · rfl
    · exact sameId.trans (free second present same.symm).symm
  · rcases put.cases other with rfl | ⟨otherPresent, -⟩
    · exact (free first present same).trans sameId.symm
    · exact receipts.numbers first present second otherPresent same

theorem Receipts.put (receipts : Receipts db)
    (put : db.billing.manualFeePayments.Put payment.id changed billing.manualFeePayments)
    (member : payment ∈ db.billing.manualFeePayments.rows) (same : SameReceipt payment changed)
    (keeps : ∀ kind : ReceiptPosting, kind.transactionId changed = kind.transactionId payment)
    (status : Statuses changed) : Receipts { db with billing } := by
  have carries := carries_put put member same fun kind _ => keeps kind
  constructor
  · exact receipts.books
  · intro other present
    rcases put.cases present with rfl | ⟨old, -⟩
    · rw [same.receiptNumber]
      exact receipts.numbered payment member
    · exact receipts.numbered other old
  · refine receipts.numbers_put put fun other present equal => ?_
    exact receipts.numbers other present payment member (equal.trans same.receiptNumber)
  · intro other present
    rcases put.cases present with rfl | ⟨old, -⟩
    · exact status
    · exact receipts.statuses other old
  · exact receipts.keys_carried carries
  · exact receipts.references_carried carries
  · exact receipts.attributed_carried carries
  · intro other present kind id named
    rcases put.cases present with rfl | ⟨old, -⟩
    · rw [keeps kind] at named
      exact (receipts.posted payment member kind id named).of_same same
    · exact (receipts.posted other old kind id named).of_same (SameReceipt.refl other)

theorem Receipts.insert (receipts : Receipts db)
    (fresh : ∀ other ∈ db.billing.manualFeePayments.rows, other.id ≠ payment.id)
    (inserted : billing.manualFeePayments = db.billing.manualFeePayments.insert payment fresh)
    (numbered : ∃ call, payment.receiptNumber = generateReceiptNumber call)
    (freshNumber : ∀ other ∈ db.billing.manualFeePayments.rows, other.receiptNumber ≠ payment.receiptNumber)
    (received : payment.status = .received) (unposted : ∀ kind : ReceiptPosting, kind.transactionId payment = none) :
    Receipts { db with billing } := by
  have put : db.billing.manualFeePayments.Put payment.id payment billing.manualFeePayments := by
    rw [inserted]
    exact KeyedTable.Put.insert fresh
  have carries : Carries db.billing.manualFeePayments.rows billing.manualFeePayments.rows := by
    intro old present
    exact ⟨old, (put.others old (fresh old present)).mpr present, rfl, rfl, fun _ _ => rfl⟩
  constructor
  · exact receipts.books
  · intro other present
    rcases put.cases present with rfl | ⟨old, -⟩
    · exact numbered
    · exact receipts.numbered other old
  · exact receipts.numbers_put put fun other present equal => absurd equal (freshNumber other present)
  · intro other present
    rcases put.cases present with rfl | ⟨old, -⟩
    · simp [Statuses, unposted, received]
    · exact receipts.statuses other old
  · exact receipts.keys_carried carries
  · exact receipts.references_carried carries
  · exact receipts.attributed_carried carries
  · intro other present kind id named
    rcases put.cases present with rfl | ⟨old, -⟩
    · rw [unposted kind] at named
      cases named
    · exact (receipts.posted other old kind id named).of_same (SameReceipt.refl other)

theorem findByCode_chart (chart : finance.toChartOfAccounts = db.finance.toChartOfAccounts) (billing : BillingDb)
    (accountCode : String) : findByCode { db with finance, billing } accountCode = findByCode db accountCode := by
  change finance.accounts.find? _ = db.finance.accounts.find? _
  rw [chart]

theorem PostedAs.of_newPosting {key : String} (posted : PostedAs kind db payment id)
    (new : NewPosting input key transaction db.finance finance) : PostedAs kind { db with finance } payment id := by
  obtain ⟨stored, member, rfl, posting⟩ := posted.stored
  obtain ⟨asset, control, assetFound, controlFound, moved⟩ := posted.moved
  constructor
  · refine ⟨stored, ?_, rfl, posting⟩
    change stored ∈ finance.transactions
    rw [new.transactions]
    exact List.mem_append_left _ member
  · refine ⟨asset, control, (findByCode_chart new.chart _ _).trans assetFound,
      (findByCode_chart new.chart _ _).trans controlFound, ?_⟩
    exact (new.others stored.id (new.fresh stored member)).trans moved

theorem Receipts.post {assetAccount feeControlAccount : AccountEntity}
    (receipts : Receipts db) (books : Books finance)
    (put : db.billing.manualFeePayments.Put payment.id changed billing.manualFeePayments)
    (member : payment ∈ db.billing.manualFeePayments.rows) (same : SameReceipt payment changed)
    (unposted : kind.transactionId payment = none) (names : kind.transactionId changed = some transaction.id)
    (others : ∀ other, other ≠ kind → other.transactionId changed = other.transactionId payment)
    (status : Statuses changed)
    (new : NewPosting input (kind.key payment.id) transaction db.finance finance)
    (reference : transaction.reference = kind.reference payment.receiptNumber)
    (posting : IsPosting kind payment.id transaction)
    (assetFound : findByCode db payment.assetAccountCode = some assetAccount)
    (controlFound : findByCode db payment.feeControlAccountCode = some feeControlAccount)
    (moved : movements finance transaction.id = kind.movements payment assetAccount feeControlAccount) :
    Receipts { db with finance, billing } := by
  have keeps : ∀ other : ReceiptPosting, other.transactionId payment ≠ none →
      other.transactionId changed = other.transactionId payment := by
    intro other posted
    by_cases own : other = kind
    · rw [own] at posted
      exact absurd unposted posted
    · exact others other own
  have carries := carries_put put member same keeps
  have owned : ∃ now ∈ billing.manualFeePayments.rows, now.id = payment.id ∧
      now.receiptNumber = payment.receiptNumber ∧ kind.transactionId now = some transaction.id :=
    ⟨changed, put.own.1, same.id, same.receiptNumber, names⟩
  have stored : ∀ other ∈ finance.transactions, other ∈ db.finance.transactions ∨ other = transaction := by
    intro other present
    rw [new.transactions] at present
    simpa using present
  constructor
  · exact books
  · intro other present
    rcases put.cases present with rfl | ⟨old, -⟩
    · rw [same.receiptNumber]
      exact receipts.numbered payment member
    · exact receipts.numbered other old
  · refine receipts.numbers_put put fun other present equal => ?_
    exact receipts.numbers other present payment member (equal.trans same.receiptNumber)
  · intro other present
    rcases put.cases present with rfl | ⟨old, -⟩
    · exact status
    · exact receipts.statuses other old
  · intro record present other id named
    rcases new.keys record present with old | own
    · exact receipts.keys_carried carries record old other id named
    · obtain ⟨rfl, rfl⟩ := ReceiptPosting.key_inj (own.symm.trans named)
      obtain ⟨now, row, sameId, -, posted⟩ := owned
      exact ⟨now, row, sameId, by simp [posted]⟩
  · intro entry present other number named
    rcases stored entry present with old | rfl
    · exact receipts.references_carried carries entry old other number named
    · obtain ⟨rfl, rfl⟩ := ReceiptPosting.reference_inj (reference.symm.trans named)
      obtain ⟨now, row, -, sameNumber, posted⟩ := owned
      exact ⟨now, row, sameNumber, by simp [posted]⟩
  · intro entry present id named
    rcases stored entry present with old | rfl
    · exact receipts.attributed_carried carries entry old id named
    · obtain rfl := Option.some.inj (posting.2.symm.trans named)
      obtain ⟨now, row, sameId, -, posted⟩ := owned
      exact ⟨kind, posting.1, now, row, sameId, posted⟩
  · intro other present form id named
    rcases put.cases present with rfl | ⟨old, -⟩
    · by_cases own : form = kind
      · obtain rfl := own
        obtain rfl := Option.some.inj (names.symm.trans named)
        have earlier : PostedAs form { db with finance } payment transaction.id := by
          refine ⟨⟨transaction, ?_, rfl, posting⟩, assetAccount, feeControlAccount, ?_, ?_, moved⟩
          · change transaction ∈ finance.transactions
            rw [new.transactions]
            exact List.mem_append_right _ List.mem_cons_self
          · exact (findByCode_chart new.chart _ _).trans assetFound
          · exact (findByCode_chart new.chart _ _).trans controlFound
        exact earlier.of_same same
      · rw [others form own] at named
        exact ((receipts.posted payment member form id named).of_newPosting new).of_same same
    · exact ((receipts.posted other old form id named).of_newPosting new).of_same (SameReceipt.refl other)

end Steps

section Postings

variable {db : TenantDb} {payment : ManualFeePaymentEntity} {kind : ReceiptPosting} {amountMinor : Nat} {code : String}

theorem Receipts.unused (receipts : Receipts db) (member : payment ∈ db.billing.manualFeePayments.rows) (unposted : kind.transactionId payment = none) (scope : String) :
    recordFor scope (kind.key payment.id) db.finance.idempotencyKeys = none := by
  refine List.find?_eq_none.mpr fun record present => ?_
  simp only [decide_eq_true_eq]
  rintro ⟨-, own⟩
  obtain ⟨other, row, same, posted⟩ := receipts.keys record present kind payment.id own
  obtain rfl := eq_of_key row member same
  exact posted unposted

theorem Receipts.unreferenced (receipts : Receipts db) (member : payment ∈ db.billing.manualFeePayments.rows) (unposted : kind.transactionId payment = none) :
    findByReference db.finance (kind.reference payment.receiptNumber) = none := by
  refine List.find?_eq_none.mpr fun transaction present => ?_
  simp only [decide_eq_true_eq]
  intro own
  obtain ⟨other, row, same, posted⟩ := receipts.references transaction present kind payment.receiptNumber own
  obtain rfl := eq_of_key row member (receipts.numbers other row payment member same)
  exact posted unposted

theorem Receipts.referenced (receipts : Receipts db) (member : payment ∈ db.billing.manualFeePayments.rows)
    (kind : ReceiptPosting) : requireNonEmptyText (kind.reference payment.receiptNumber) "reference" =
      .ok (kind.reference payment.receiptNumber) := by
  obtain ⟨call, number⟩ := receipts.numbered payment member
  rw [number]
  cases kind with
  | receipt => exact requireNonEmptyText_receiptReference call _
  | reversal => exact requireNonEmptyText_reversalReference call _

theorem moves_text {requested : LedgerPostingEntryInput} {movement : Movement}
    (moves : Moves requested movement) (amount : requested.amountMinor = toString amountMinor)
    (currency : requested.currencyCode = some code) :
    movement = ⟨requested.accountId, requested.direction, amountMinor, normalizeCurrency code⟩ := by
  have parsed := moves.amount
  rw [normalizeLedgerAmount, amount] at parsed
  obtain ⟨account, direction, total, unit⟩ := movement
  obtain rfl : account = requested.accountId := moves.account
  obtain rfl : direction = requested.direction := moves.direction
  obtain rfl : total = amountMinor := normalizeMinorAmount_toString parsed
  obtain rfl : normalizeCurrency code = unit := moves.currency code currency
  rfl

theorem moves_pair {first second : LedgerPostingEntryInput} {moved : List Movement}
    (moves : List.Forall₂ Moves [first, second] moved)
    (amounts : first.amountMinor = toString amountMinor ∧ second.amountMinor = toString amountMinor)
    (currencies : first.currencyCode = some code ∧ second.currencyCode = some code) :
    moved = [⟨first.accountId, first.direction, amountMinor, normalizeCurrency code⟩,
      ⟨second.accountId, second.direction, amountMinor, normalizeCurrency code⟩] := by
  cases moves with
  | cons head rest =>
    cases rest with
    | cons next none =>
      cases none
      rw [moves_text head amounts.1 currencies.1, moves_text next amounts.2 currencies.2]

end Postings

/-- What a step keeps of the receipts: the invariant, and every receipt that has come to its end. -/
structure KeepsReceipts (db after : TenantDb) : Prop where
  receipts : Receipts db → Receipts after
  settled : ∀ payment ∈ db.billing.manualFeePayments.rows, payment.status = .bounced ∨ payment.status = .reversed →
    payment ∈ after.billing.manualFeePayments.rows

theorem KeepsReceipts.refl (db : TenantDb) : KeepsReceipts db db := ⟨id, fun _ member _ => member⟩

theorem KeepsReceipts.trans {middle after : TenantDb} (first : KeepsReceipts db middle)
    (second : KeepsReceipts middle after) : KeepsReceipts db after :=
  ⟨second.receipts ∘ first.receipts, fun payment member ended =>
    second.settled payment (first.settled payment member ended) ended⟩

section Requests

variable {runtime : BillingRuntime} {call : ManualCall} {dto : UpdateManualFeePaymentStatusDto} {db after : TenantDb}
  {paymentId : String} {payment result : ManualFeePaymentEntity} {billing : BillingDb}

theorem settled_put {table rewritten : KeyedTable ManualFeePaymentEntity String ManualFeePaymentEntity.id}
    {changed : ManualFeePaymentEntity} (put : table.Put payment.id changed rewritten) (member : payment ∈ table.rows)
    (pending : ¬ (payment.status = .bounced ∨ payment.status = .reversed)) :
    ∀ other ∈ table.rows, other.status = .bounced ∨ other.status = .reversed → other ∈ rewritten.rows := by
  intro other present ended
  refine (put.others other fun same => ?_).mpr present
  obtain rfl := eq_of_key present member same
  exact pending ended

structure ReceiptPosted (payment : ManualFeePaymentEntity) (db : TenantDb) (result : ManualFeePaymentEntity)
    (after : TenantDb) (transaction : FinancialTransactionEntity) (assetAccount feeControlAccount : AccountEntity)
    (input : PostFinancialTransactionInput) : Prop where
  unposted : ∀ kind : ReceiptPosting, kind.transactionId payment = none
  books : Books after.finance
  new : NewPosting input (clearKey payment.id) transaction db.finance after.finance
  reference : transaction.reference = receiptReference payment.receiptNumber
  posting : IsPosting .receipt payment.id transaction
  assetFound : findByCode db payment.assetAccountCode = some assetAccount
  controlFound : findByCode db payment.feeControlAccountCode = some feeControlAccount
  moved : movements after.finance transaction.id =
    ReceiptPosting.receipt.movements payment assetAccount feeControlAccount
  put : db.billing.manualFeePayments.Put payment.id result after.billing.manualFeePayments
  cleared : ∃ clearedAt depositReference notes metadata,
    result = clear transaction.id clearedAt depositReference notes metadata payment
  tables : after = { db with finance := after.finance, billing := after.billing }

theorem clears_posts (receipts : Receipts db) (member : payment ∈ db.billing.manualFeePayments.rows)
    (clears : Clears runtime call payment dto db result after) :
    ∃ transaction assetAccount feeControlAccount input,
      ReceiptPosted payment db result after transaction assetAccount feeControlAccount input := by
  obtain ⟨posted, middle, count, billing, clearedAt, posting, allocated, marked, last⟩ := clears.done
  obtain ⟨asset, control, effectiveAt, finance, assetFound, controlFound, entered, rfl⟩ := postReceiptTransaction_ok posting
  have rows := allocateClearedPayment_payments allocated
  obtain ⟨changed, put⟩ := updatePayment_put (by rwa [rows]) marked
  rw [rows] at put
  have unposted : ∀ kind : ReceiptPosting, kind.transactionId payment = none := by
    intro kind
    by_contra named
    have ended : payment.status = .cleared ∨ payment.status = .reversed := by
      cases kind with
      | receipt => exact (receipts.statuses payment member).1.mp named
      | reversal => exact .inr ((receipts.statuses payment member).2.mp named)
    rcases clears.open_ with now | now <;> rw [now] at ended <;> simp at ended
  obtain ⟨transaction, new, reference, answers⟩ := postTransaction_new receipts.books entered
    (requireNonEmptyText_clearKey payment _) (receipts.referenced member .receipt)
    (receipts.unused member (unposted .receipt) _) (receipts.unreferenced member (unposted .receipt))
  have source : IsPosting .receipt payment.id transaction := by
    constructor
    · unfold metadataText
      rw [new.metadata]
      rfl
    · unfold metadataText
      rw [new.metadata]
      rfl
  rw [← answers] at changed put
  rw [last]
  exact ⟨transaction, asset, control, _, unposted, postTransaction_books receipts.books entered, new, reference, source,
    assetFound, controlFound, moves_pair new.own ⟨rfl, rfl⟩ ⟨rfl, rfl⟩, changed ▸ put, ⟨_, _, _, _, changed⟩, rfl⟩

theorem clears_keeps (member : payment ∈ db.billing.manualFeePayments.rows)
    (clears : Clears runtime call payment dto db result after) : KeepsReceipts db after := by
  constructor
  · intro receipts
    obtain ⟨transaction, asset, control, input, posted⟩ := clears_posts receipts member clears
    obtain ⟨clearedAt, depositReference, notes, metadata, cleared⟩ := posted.cleared
    rw [posted.tables]
    refine @Receipts.post db after.billing after.finance payment result .receipt _ transaction asset control receipts
      posted.books posted.put member ?_ (posted.unposted .receipt) ?_ ?_ ?_ posted.new posted.reference posted.posting
      posted.assetFound posted.controlFound posted.moved
    · rw [cleared]
      exact sameReceipt_clear payment _ _ _ _ _
    · rw [cleared, clear_receipt]
    · intro other differs
      cases other with
      | receipt => exact absurd rfl differs
      | reversal => rw [cleared, clear_reversal]
    · simp [cleared, Statuses, posted.unposted .reversal]
  · obtain ⟨posted, middle, count, billing, clearedAt, posting, allocated, marked, last⟩ := clears.done
    have rows := allocateClearedPayment_payments allocated
    obtain ⟨-, put⟩ := updatePayment_put (by rwa [rows]) marked
    rw [rows] at put
    refine settled_put put member ?_
    rcases clears.open_ with now | now <;> simp [now]

theorem clearLockedPayment_keeps (member : payment ∈ db.billing.manualFeePayments.rows)
    (succeeded : (clearLockedPayment runtime call payment dto).run db = .ok (result, after)) : KeepsReceipts db after := by
  rcases clearLockedPayment_ok succeeded with ⟨-, -, rfl⟩ | clears
  · exact KeepsReceipts.refl after
  · exact clears_keeps member clears

theorem create_keeps {dto : CreateManualFeePaymentDto} {amountMinor : Nat} {receivedAt : Int}
    (succeeded : (create runtime call dto amountMinor receivedAt).run db.billing = .ok (payment, billing)) :
    payment ∈ billing.manualFeePayments.rows ∧ KeepsReceipts db { db with billing } := by
  rcases create_ok succeeded with ⟨member, -, rfl⟩ | ⟨studentId, invoiceId, positive, own, -, freshNumber, fresh, inserted⟩
  · exact ⟨member, KeepsReceipts.refl db⟩
  · have put : db.billing.manualFeePayments.Put payment.id payment billing.manualFeePayments := by
      rw [inserted]
      exact KeyedTable.Put.insert fresh
    refine ⟨put.own.1, fun receipts => ?_, fun other present _ => (put.others other (fresh other present)).mpr present⟩
    refine receipts.insert fresh (by rw [inserted]) ⟨call, by rw [own]; rfl⟩ ?_ (by rw [own]; rfl) fun kind => ?_
    · intro other present
      rw [own]
      exact freshNumber other present
    · rw [own]
      cases kind <;> rfl

theorem createManualFeePayment_keeps {dto : CreateManualFeePaymentDto}
    (succeeded : (createManualFeePayment runtime call dto).run db = .ok (result, after)) : KeepsReceipts db after := by
  obtain ⟨amountMinor, receivedAt, payment, billing, -, created, rest⟩ := createManualFeePayment_ok succeeded
  obtain ⟨member, keeps⟩ := create_keeps created
  rcases rest with ⟨-, -, rfl⟩ | cleared
  · exact keeps
  · exact keeps.trans (clearLockedPayment_keeps member cleared)

theorem marked_keeps {change : ManualFeePaymentEntity → ManualFeePaymentEntity}
    {kept : ∀ payment, (change payment).id = payment.id} (member : payment ∈ db.billing.manualFeePayments.rows)
    (open_ : payment.status = .received ∨ payment.status = .deposited)
    (marked : (updatePayment payment.id change kept).run db.billing = .ok (result, billing))
    (same : SameReceipt payment (change payment))
    (keeps : ∀ kind : ReceiptPosting, kind.transactionId (change payment) = kind.transactionId payment)
    (next : (change payment).status ≠ .cleared ∧ (change payment).status ≠ .reversed) :
    KeepsReceipts db { db with billing } := by
  obtain ⟨-, put⟩ := updatePayment_put member marked
  constructor
  · intro receipts
    refine receipts.put put member same keeps ?_
    have status := receipts.statuses payment member
    simp only [Statuses] at status ⊢
    rw [keeps .receipt, keeps .reversal]
    rcases open_ with now | now <;> simp_all
  · refine settled_put put member ?_
    rcases open_ with now | now <;> simp [now]

theorem depositManualFeePayment_keeps
    (succeeded : (depositManualFeePayment runtime call paymentId dto).run db = .ok (result, after)) :
    KeepsReceipts db after := by
  obtain ⟨payment, member, rfl, -, received, depositedAt, billing, marked, rfl⟩ := depositManualFeePayment_ok succeeded
  exact marked_keeps member (.inl received) marked ⟨rfl, rfl, rfl, rfl, rfl, rfl⟩
    (fun kind => by cases kind <;> rfl) (by simp [deposit])

theorem bounceManualFeePayment_keeps
    (succeeded : (bounceManualFeePayment runtime call paymentId dto).run db = .ok (result, after)) :
    KeepsReceipts db after := by
  obtain ⟨payment, member, rfl, -, open_, bouncedAt, billing, marked, rfl⟩ := bounceManualFeePayment_ok succeeded
  exact marked_keeps member open_ marked ⟨rfl, rfl, rfl, rfl, rfl, rfl⟩
    (fun kind => by cases kind <;> rfl) (by simp [bounce])

theorem reverseManualFeePayment_keeps
    (succeeded : (reverseManualFeePayment runtime call paymentId dto).run db = .ok (result, after)) :
    KeepsReceipts db after := by
  obtain ⟨payment, member, rfl, cleared, posted, middle, billing, reversedAt, posting, unspread, marked, last⟩ :=
    reverseManualFeePayment_ok succeeded
  obtain ⟨asset, control, effectiveAt, finance, assetFound, controlFound, entered, rfl⟩ :=
    postReversalTransaction_ok posting
  have rows := reverseAllocations_payments unspread
  obtain ⟨-, put⟩ := updatePayment_put (by rwa [rows]) marked
  rw [rows] at put
  rw [last]
  constructor
  · intro receipts
    have unposted : ReceiptPosting.reversal.transactionId payment = none := by
      by_contra named
      have reversed := (receipts.statuses payment member).2.mp named
      rw [cleared] at reversed
      cases reversed
    have receipted : ReceiptPosting.receipt.transactionId payment ≠ none := (receipts.statuses payment member).1.mpr (.inl cleared)
    obtain ⟨transaction, new, reference, answers⟩ := postTransaction_new receipts.books entered
      (requireNonEmptyText_reverseKey payment _) (receipts.referenced member .reversal)
      (receipts.unused member unposted _) (receipts.unreferenced member unposted)
    refine @Receipts.post db after.billing finance payment _ .reversal _ transaction asset control receipts
      (postTransaction_books receipts.books entered) put member (sameReceipt_reverse payment _ _ _ _) unposted
      (by rw [reverse_reversal, answers]) ?_ ?_ new reference ?_ assetFound controlFound ?_
    · intro other differs
      cases other with
      | receipt => exact reverse_receipt payment _ _ _ _
      | reversal => exact absurd rfl differs
    · simp [Statuses, receipted]
    · constructor
      · unfold metadataText
        rw [new.metadata]
        rfl
      · unfold metadataText
        rw [new.metadata]
        rfl
    · exact moves_pair new.own ⟨rfl, rfl⟩ ⟨rfl, rfl⟩
  · refine settled_put put member ?_
    simp [cleared]

theorem perform_keeps {request : ManualFeeRequest}
    (succeeded : (request.perform runtime call).run db = .ok (result, after)) : KeepsReceipts db after := by
  cases request with
  | create dto => exact createManualFeePayment_keeps succeeded
  | deposit paymentId dto => exact depositManualFeePayment_keeps succeeded
  | clear paymentId dto =>
    obtain ⟨payment, member, -, cleared⟩ := clearManualFeePayment_ok succeeded
    exact clearLockedPayment_keeps member cleared
  | bounce paymentId dto => exact bounceManualFeePayment_keeps succeeded
  | reverse paymentId dto => exact reverseManualFeePayment_keeps succeeded

end Requests

theorem source_inj {other : ReceiptPosting} (same : kind.source = other.source) : kind = other := by
  cases kind <;> cases other <;> first | rfl | exact absurd same (by decide)

section InStep

variable {db : TenantDb} {payment : ManualFeePaymentEntity} {receipt : String}

theorem Receipts.postings_ids (receipts : Receipts db) (member : payment ∈ db.billing.manualFeePayments.rows)
    (kind : ReceiptPosting) :
    (postings kind db payment.id).map (·.id) = (kind.transactionId payment).toList := by
  have named : ∀ transaction ∈ postings kind db payment.id, kind.transactionId payment = some transaction.id := by
    intro transaction posted
    obtain ⟨present, source, own⟩ := mem_postings.mp posted
    obtain ⟨other, sameSource, row, rowMember, sameId, owns⟩ := receipts.attributed transaction present payment.id own
    obtain rfl := source_inj (Option.some.inj (source.symm.trans sameSource))
    obtain rfl := eq_of_key rowMember member sameId
    exact owns
  cases posted : kind.transactionId payment with
  | none =>
    have empty : postings kind db payment.id = [] := by
      refine List.eq_nil_iff_forall_not_mem.mpr fun transaction present => ?_
      have contrary := named transaction present
      rw [posted] at contrary
      cases contrary
    rw [empty]
    rfl
  | some id =>
    obtain ⟨transaction, present, rfl, posting⟩ := (receipts.posted payment member kind id posted).stored
    have distinct : (postings kind db payment.id).Nodup := (List.Nodup.of_map _ receipts.books.ids).filter _
    have single : (postings kind db payment.id).Perm [transaction] := by
      refine (List.perm_ext_iff_of_nodup distinct (List.nodup_singleton _)).mpr fun other => ?_
      rw [List.mem_singleton]
      constructor
      · intro listed
        have sameId := Option.some.inj ((named other listed).symm.trans posted)
        exact List.inj_on_of_nodup_map receipts.books.ids (mem_postings.mp listed).1 present sameId
      · rintro rfl
        exact mem_postings.mpr ⟨present, posting⟩
    rw [List.perm_singleton.mp single]
    rfl

theorem Receipts.postings_movements (receipts : Receipts db) (member : payment ∈ db.billing.manualFeePayments.rows)
    (kind : ReceiptPosting) :
    ((postings kind db payment.id).flatMap fun transaction => movements db.finance transaction.id) =
      (kind.transactionId payment).toList.flatMap (movements db.finance) := by
  rw [← receipts.postings_ids member kind, List.flatMap_map]

theorem Receipts.mirrored (receipts : Receipts db) (member : payment ∈ db.billing.manualFeePayments.rows)
    {reversal : String} (posted : payment.ledgerTransactionId = some receipt)
    (reversed : payment.reversalLedgerTransactionId = some reversal) :
    movements db.finance reversal = (movements db.finance receipt).reverse.map Movement.mirror := by
  obtain ⟨asset, control, assetFound, controlFound, moved⟩ := (receipts.posted payment member .receipt receipt posted).moved
  obtain ⟨asset', control', assetFound', controlFound', unmoved⟩ :=
    (receipts.posted payment member .reversal reversal reversed).moved
  obtain rfl := Option.some.inj (assetFound.symm.trans assetFound')
  obtain rfl := Option.some.inj (controlFound.symm.trans controlFound')
  rw [moved, unmoved]
  rfl

theorem Receipts.effect_receipt (receipts : Receipts db) (member : payment ∈ db.billing.manualFeePayments.rows) (posted : payment.ledgerTransactionId = some receipt) (accountId : String) :
    ((movements db.finance receipt).map (Movement.signed accountId)).sum = receiptEffect db payment accountId := by
  obtain ⟨asset, control, assetFound, controlFound, moved⟩ := (receipts.posted payment member .receipt receipt posted).moved
  rw [moved, receiptEffect, assetFound, controlFound]
  simp only [ReceiptPosting.movements, Movement.signed, List.map_cons, List.map_nil, List.sum_cons, List.sum_nil,
    Option.map_some, Option.some.injEq]
  split <;> split <;> omega

theorem Receipts.net (receipts : Receipts db) (member : payment ∈ db.billing.manualFeePayments.rows)
    (accountId : String) : netEffect db payment.id accountId =
      if payment.status = .cleared then receiptEffect db payment accountId else 0 := by
  obtain ⟨ledger, reversal⟩ := receipts.statuses payment member
  have receiptMoves := receipts.postings_movements member .receipt
  have reversalMoves := receipts.postings_movements member .reversal
  simp only [ReceiptPosting.transactionId] at ledger reversal receiptMoves reversalMoves
  rw [netEffect, List.flatMap_append, receiptMoves, reversalMoves, List.map_append, List.sum_append]
  cases posted : payment.ledgerTransactionId with
  | none =>
    have uncleared : ¬ (payment.status = .cleared ∨ payment.status = .reversed) := fun ended => ledger.mpr ended posted
    rw [if_neg fun cleared => uncleared (.inl cleared)]
    cases reversed : payment.reversalLedgerTransactionId with
    | none => rfl
    | some id => exact absurd (.inr (reversal.mp (by simp [reversed]))) uncleared
  | some receipt =>
    have effect := receipts.effect_receipt member posted accountId
    cases reversed : payment.reversalLedgerTransactionId with
    | none =>
      have ended := ledger.mp (by simp [posted])
      have unreversed : payment.status ≠ .reversed := fun ended => reversal.mpr ended reversed
      rw [if_pos (ended.resolve_right unreversed)]
      simpa using effect
    | some id =>
      have ended := reversal.mp (by simp [reversed])
      rw [if_neg (by simp [ended])]
      simp only [Option.toList_some, List.flatMap_singleton]
      rw [receipts.mirrored member posted reversed, Movement.sum_signed_mirror, List.map_reverse, List.sum_reverse]
      omega

theorem Receipts.ledgerInStep (receipts : Receipts db) (member : payment ∈ db.billing.manualFeePayments.rows) :
    LedgerInStep db payment where
  posted := (receipts.statuses payment member).1
  reversed := (receipts.statuses payment member).2
  receipts := receipts.postings_ids member .receipt
  reversals := receipts.postings_ids member .reversal
  sources transaction present named := by
    obtain ⟨kind, source, -⟩ := receipts.attributed transaction present payment.id named
    exact ⟨kind, source, named⟩
  mirrored receipt posted reversal reversed := receipts.mirrored member posted reversed
  net := receipts.net member

end InStep

theorem receiptStep_keeps (runtime : BillingRuntime) (db : TenantDb) (event : ManualCall × ManualFeeRequest) :
    KeepsReceipts db (receiptStep runtime db event) :=
  commit_preserves (KeepsReceipts.refl db) fun _ _ succeeded => perform_keeps succeeded

theorem run_keeps (runtime : BillingRuntime) (db : TenantDb) (events : List (ManualCall × ManualFeeRequest)) :
    KeepsReceipts db (run (receiptStep runtime) db events) := by
  induction events generalizing db with
  | nil => exact KeepsReceipts.refl db
  | cons event events ih => exact (receiptStep_keeps runtime db event).trans (ih _)

theorem receipts_keep_ledger_in_step (runtime : BillingRuntime) {start : TenantDb} (unreceipted : Unreceipted start)
    (calls later : List (ManualCall × ManualFeeRequest)) :
    (∀ payment ∈ (run (receiptStep runtime) start calls).billing.manualFeePayments.rows,
      LedgerInStep (run (receiptStep runtime) start calls) payment ∧
      (payment.status = .bounced ∨ payment.status = .reversed →
        payment ∈ (run (receiptStep runtime) start (calls ++ later)).billing.manualFeePayments.rows)) ∧
    ∀ (call : ManualCall) (request : ManualFeeRequest) (error : Exception),
      (request.perform runtime call).run (run (receiptStep runtime) start calls) = .error error →
        receiptStep runtime (run (receiptStep runtime) start calls) (call, request) =
          run (receiptStep runtime) start calls := by
  have receipts := (run_keeps runtime start calls).receipts (receipts_unreceipted unreceipted)
  constructor
  · intro payment member
    refine ⟨receipts.ledgerInStep member, fun ended => ?_⟩
    rw [run_append]
    exact (run_keeps runtime _ later).settled payment member ended
  · intro call request error refused
    exact commit_of_error refused

def officeRuntime : BillingRuntime where
  toRuntime := { schoolRuntime.toRuntime with
    sha256 := fun _ => "digest"
    parseDate := fun text => [0].find? fun time => JsDate.toISOString time = text }
  uuid := some
  infersAllocationIndex := true

theorem officeCurrency : isCurrencyCode "KES" = true := by
  decide

def officeAccount (id code : String) (normalBalance : EntryDirection) : AccountEntity where
  id
  code
  name := code
  normalBalance
  currencyCode := "KES"
  allowManualEntries := true
  isActive := true
  currencyFormat := officeCurrency

def officeChart : ChartOfAccounts where
  accounts := [officeAccount "cash" "1010-CASH-ON-HAND" .debit, officeAccount "fees" "1100-AR-FEES" .debit]
  accountsDistinct := by decide

def office : TenantDb where
  finance := FinanceDb.opened officeChart
  billing := unbilledSchool.tenant.billing
  payments := unbilledSchool.tenant.payments

def officeCall (index : Nat) : ManualCall where
  now := 0
  userId := some "bursar"
  requestId := none
  newIdempotencyId := "key-" ++ toString index
  newTransactionId := "transaction-" ++ toString index
  newEntryId line := "entry-" ++ toString index ++ "-" ++ toString line
  newPaymentId := "payment-" ++ toString index
  receiptUuid := ⟨"1b4e28ba-2fa1-41d2-883f-0016d3cca427", by decide⟩
  locked _ := false

def cashFor (studentId : String) (amountMinor idempotencyKey : String) : CreateManualFeePaymentDto where
  idempotencyKey
  paymentMethod := .cash
  amountMinor
  studentId := some studentId
  invoiceId := none
  payerName := none
  receivedAt := none
  chequeNumber := none
  drawerBank := none
  depositReference := none
  externalReference := none
  assetAccountCode := none
  feeControlAccountCode := none
  notes := none
  metadata := none

def plainUpdate : UpdateManualFeePaymentStatusDto := ⟨none, none, none, none⟩

theorem unreceipted_office : Unreceipted office := unreceipted_opened rfl rfl

def officeRequests : List (ManualCall × ManualFeeRequest) :=
  [(officeCall 1, .create (cashFor "student" "50000" "receipt-1")),
    (officeCall 2, .create (cashFor "student" "50000" "receipt-1")),
    (officeCall 3, .reverse "payment-1" plainUpdate)]

theorem office_keeps_ledger_in_step :
    (run (receiptStep officeRuntime) office officeRequests).billing.manualFeePayments.rows.map (·.status) = [.reversed] ∧
      ∀ payment ∈ (run (receiptStep officeRuntime) office officeRequests).billing.manualFeePayments.rows,
        LedgerInStep (run (receiptStep officeRuntime) office officeRequests) payment :=
  ⟨by decide +kernel, fun payment member =>
    ((receipts_keep_ledger_in_step officeRuntime unreceipted_office officeRequests []).1 payment member).1⟩

end ShuleHub.Billing

/-! What a receipt adds when nothing is filed under its key yet: one row, cleared, and one posting. -/

namespace ShuleHub.Billing

open Transaction Finance ManualFeePayments

structure NewReceipt (dto : CreateManualFeePaymentDto) (db : TenantDb) (receipt : ManualFeePaymentEntity)
    (after : TenantDb) : Prop where
  receipts : Receipts after
  fresh : ∀ other ∈ db.billing.manualFeePayments.rows, other.id ≠ receipt.id
  put : db.billing.manualFeePayments.Put receipt.id receipt after.billing.manualFeePayments
  key : receipt.idempotencyKey = JsText.trim dto.idempotencyKey
  status : receipt.status = .cleared
  amount : ∀ amountMinor : Nat, dto.amountMinor = toString amountMinor → receipt.amountMinor = amountMinor
  external : receipt.externalReference = readString dto.externalReference
  assetCode : receipt.assetAccountCode =
    (readString dto.assetAccountCode).getD (defaultAssetAccountByMethod dto.paymentMethod)
  controlCode : receipt.feeControlAccountCode =
    (readString dto.feeControlAccountCode).getD defaultFeeControlAccountCode
  chart : after.finance.toChartOfAccounts = db.finance.toChartOfAccounts
  posting : ∃ transaction, after.finance.transactions = db.finance.transactions ++ [transaction] ∧
    receipt.ledgerTransactionId = some transaction.id ∧ IsPosting .receipt receipt.id transaction ∧
    ∀ transactionId, transactionId ≠ transaction.id →
      movements after.finance transactionId = movements db.finance transactionId
  unreversed : receipt.reversalLedgerTransactionId = none

theorem NewReceipt.mem_rows {dto : CreateManualFeePaymentDto} {db after : TenantDb}
    {receipt other : ManualFeePaymentEntity} (new : NewReceipt dto db receipt after) :
    other ∈ after.billing.manualFeePayments.rows ↔ other ∈ db.billing.manualFeePayments.rows ∨ other = receipt := by
  constructor
  · intro member
    rcases new.put.cases member with rfl | ⟨old, -⟩
    · exact .inr rfl
    · exact .inl old
  · rintro (old | rfl)
    · exact (new.put.others other (new.fresh other old)).mpr old
    · exact new.put.own.1

section Creation

variable {runtime : BillingRuntime} {call : ManualCall} {dto : CreateManualFeePaymentDto} {db after : TenantDb}
  {receipt : ManualFeePaymentEntity}

theorem createManualFeePayment_new (receipts : Receipts db)
    (succeeded : (createManualFeePayment runtime call dto).run db = .ok (receipt, after))
    (method : dto.paymentMethod ≠ .cheque)
    (absent : ∀ other ∈ db.billing.manualFeePayments.rows, other.idempotencyKey ≠ JsText.trim dto.idempotencyKey) :
    NewReceipt dto db receipt after := by
  obtain ⟨amountMinor, receivedAt, payment, billing, normal, created, rest⟩ := createManualFeePayment_ok succeeded
  obtain ⟨member, keeps⟩ := create_keeps created
  rcases create_ok created with ⟨present, filed, -⟩ | ⟨studentId, invoiceId, positive, own, -, -, fresh, inserted⟩
  · exact absurd filed (absent payment present)
  · have received : payment.status = .received := by rw [own]; rfl
    have paidBy : payment.paymentMethod = dto.paymentMethod := by rw [own]; rfl
    rcases rest with ⟨ended, -, -⟩ | cleared
    · rw [received, paidBy] at ended
      simp [method] at ended
    · rcases clearLockedPayment_ok cleared with ⟨already, -, -⟩ | clears
      · rw [received] at already
        cases already
      · have recorded := keeps.receipts receipts
        obtain ⟨transaction, asset, control, input, posted⟩ := clears_posts recorded member clears
        obtain ⟨clearedAt, depositReference, notes, metadata, marked⟩ := posted.cleared
        have same : receipt.id = payment.id := posted.put.own.2
        have first : db.billing.manualFeePayments.Put payment.id payment billing.manualFeePayments := by
          rw [inserted]
          exact KeyedTable.Put.insert fresh
        have unposted := posted.unposted .reversal
        subst marked
        refine ⟨(clears_keeps member clears).receipts recorded, fresh, first.trans posted.put, ?_, rfl, ?_, ?_, ?_, ?_,
          posted.new.chart, ⟨transaction, posted.new.transactions, rfl, posted.posting, posted.new.others⟩, unposted⟩
        · change payment.idempotencyKey = _
          rw [own]
          rfl
        · intro minor text
          rw [text] at normal
          change payment.amountMinor = minor
          rw [own, ← normalizeMinorAmount_toString normal]
          rfl
        · change payment.externalReference = _
          rw [own]
          rfl
        · change payment.assetAccountCode = _
          rw [own]
          rfl
        · change payment.feeControlAccountCode = _
          rw [own]
          rfl

end Creation

end ShuleHub.Billing
