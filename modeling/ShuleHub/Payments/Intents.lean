import ShuleHub.Finance.Posting
import ShuleHub.Lib.KeyedTable

/-! The payment intents and M-PESA transactions of one tenant, and the statements that write them. -/

namespace ShuleHub.Payments

open Transaction Idempotency Finance

def mpesaPaymentIntentScope : String := "payments:mpesa:payment-intents:create"

def mpesaPaymentIntentRequestMethod : String := "POST"

def mpesaPaymentIntentRequestPath : String := "/payments/mpesa/payment-intents"

def mpesaLedgerIdempotencyPrefix : String := "mpesa:checkout"

def mpesaDefaultCurrencyCode : String := "KES"

def mpesaExpiredPaymentFailureReason : String := "M-PESA callback not received before expiry"

inductive PaymentIntentStatus where
  | pending
  | stkRequested
  | callbackReceived
  | processing
  | completed
  | failed
  | cancelled
  | expired
deriving DecidableEq

def PaymentIntentStatus.text : PaymentIntentStatus → String
  | .pending => "pending"
  | .stkRequested => "stk_requested"
  | .callbackReceived => "callback_received"
  | .processing => "processing"
  | .completed => "completed"
  | .failed => "failed"
  | .cancelled => "cancelled"
  | .expired => "expired"

inductive PaymentOwner where
  | tenant
  | platform
deriving DecidableEq

structure PaymentIntentEntity where
  id : String
  idempotencyKeyId : String
  userId : Option String
  studentId : Option String
  externalReference : Option String
  accountReference : String
  transactionDesc : String
  phoneNumber : String
  amountMinor : Nat
  currencyCode : String
  paymentOwner : PaymentOwner
  mpesaShortCode : Option String
  paymentChannelType : Option String
  ledgerDebitAccountCode : Option String
  ledgerCreditAccountCode : Option String
  status : PaymentIntentStatus
  merchantRequestId : Option String
  checkoutRequestId : Option String
  responseCode : Option String
  responseDescription : Option String
  customerMessage : Option String
  ledgerTransactionId : Option String
  failureReason : Option String
  stkRequestedAt : Option Int
  expiresAt : Option Int
  metadata : Metadata
  createdAt : Int
  amountPositive : amountMinor > 0
deriving DecidableEq

inductive MpesaTransactionStatus where
  | succeeded
  | failed
deriving DecidableEq

structure ParsedMpesaCallback where
  merchantRequestId : String
  checkoutRequestId : String
  resultCode : Int
  resultDesc : String
  amountMinor : Option Nat
  mpesaReceiptNumber : Option String
  transactionOccurredAt : Option Int
  phoneNumber : Option String
  metadata : Json
deriving DecidableEq

def ParsedMpesaCallback.status (callback : ParsedMpesaCallback) : MpesaTransactionStatus :=
  if callback.resultCode = 0 then .succeeded else .failed

structure MpesaTransactionEntity where
  id : String
  paymentIntentId : String
  callbackLogId : String
  checkoutRequestId : String
  merchantRequestId : String
  resultCode : Int
  resultDesc : String
  status : MpesaTransactionStatus
  transactionId : Option String
  mpesaReceiptNumber : Option String
  amountMinor : Option Nat
  phoneNumber : Option String
  transactionOccurredAt : Option Int
  ledgerTransactionId : Option String
  processedAt : Option Int
  metadata : Json
  createdAt : Int
deriving DecidableEq

structure PaymentIntentResponse where
  paymentIntentId : String
  studentId : Option String
  status : PaymentIntentStatus
  amountMinor : Nat
  currencyCode : String
  paymentOwner : PaymentOwner
  mpesaShortCode : Option String
  paymentChannelType : Option String
  phoneNumber : String
  accountReference : String
  externalReference : Option String
  merchantRequestId : Option String
  checkoutRequestId : Option String
  responseCode : Option String
  responseDescription : Option String
  customerMessage : Option String
  createdAt : Int
deriving DecidableEq

structure PaymentsDb where
  intents : KeyedTable PaymentIntentEntity String PaymentIntentEntity.id
  mpesaTransactions : KeyedTable MpesaTransactionEntity String MpesaTransactionEntity.checkoutRequestId
  idempotencyKeys : List (IdempotencyRecord PaymentIntentResponse)
deriving DecidableEq

structure ResolvedMpesaConfig where
  shortcode : String
  tillNumber : Option String
  ledgerDebitAccountCode : String
  ledgerCreditAccountCode : String

structure PaymentsRuntime extends Runtime where
  ledgerDebitAccountCode : String
  ledgerCreditAccountCode : String
  paymentIntentExpirySeconds : Nat
  staleIntentSweepBatchSize : Nat
  resolveMpesaConfig : PaymentOwner → Except Exception ResolvedMpesaConfig

namespace PaymentIntents

variable (id : String) (now : Int)

def isTerminal (status : PaymentIntentStatus) : Bool :=
  status = .completed || status = .failed || status = .cancelled || status = .expired

def isNonCompletable (status : PaymentIntentStatus) : Bool :=
  status = .failed || status = .cancelled || status = .expired

def updateIntent (change : PaymentIntentEntity → PaymentIntentEntity)
    (kept : ∀ intent, (change intent).id = intent.id) : Transaction PaymentsDb Exception Unit :=
  write fun db => { db with intents := db.intents.update id change kept }

/-- `CASE WHEN status IN ('completed', 'failed') THEN status ELSE ... END`. -/
def advance (status : PaymentIntentStatus) (intent : PaymentIntentEntity) : PaymentIntentEntity :=
  { intent with
    status := if intent.status = .completed ∨ intent.status = .failed then intent.status else status }

def complete (ledgerTransactionId : String) (intent : PaymentIntentEntity) : PaymentIntentEntity :=
  { intent with status := .completed, ledgerTransactionId := some ledgerTransactionId }

def fail (reason : String) (intent : PaymentIntentEntity) : PaymentIntentEntity :=
  { intent with status := .failed, failureReason := some reason }

def expire (reason : String) (intent : PaymentIntentEntity) : PaymentIntentEntity :=
  { intent with status := .expired, failureReason := some (intent.failureReason.getD reason) }

def markCallbackReceived : Transaction PaymentsDb Exception Unit :=
  updateIntent id (advance .callbackReceived) fun _ => rfl

def markProcessing : Transaction PaymentsDb Exception Unit :=
  updateIntent id (advance .processing) fun _ => rfl

def markCompleted (id ledgerTransactionId : String) : Transaction PaymentsDb Exception Unit :=
  updateIntent id (complete ledgerTransactionId) fun _ => rfl

def markFailed (id reason : String) : Transaction PaymentsDb Exception Unit :=
  updateIntent id (fail reason) fun _ => rfl

def lockByCheckoutOrMerchantRequestId (db : PaymentsDb) (checkoutRequestId merchantRequestId : String) :
    Option PaymentIntentEntity :=
  ((db.intents.rows.filter fun intent =>
    intent.checkoutRequestId = some checkoutRequestId ∨
      intent.merchantRequestId = some merchantRequestId).insertionSort fun left right =>
    right.createdAt ≤ left.createdAt).head?

def isStale (db : PaymentsDb) (intent : PaymentIntentEntity) : Bool :=
  (intent.status = .stkRequested || intent.status = .callbackReceived || intent.status = .processing) &&
    intent.expiresAt.any (· ≤ now) &&
    db.mpesaTransactions.rows.all fun transaction => transaction.paymentIntentId ≠ intent.id

def staleIntents (batchSize : Nat) (locked : String → Bool) (db : PaymentsDb) : List String :=
  (((db.intents.rows.filter fun intent => isStale now db intent && !locked intent.id).insertionSort
    fun left right => left.expiresAt.getD 0 < right.expiresAt.getD 0 ∨
      left.expiresAt.getD 0 = right.expiresAt.getD 0 ∧ left.createdAt ≤ right.createdAt).take batchSize).map (·.id)

def expireStalePendingIntents (batchSize : Nat) (failureReason : String) (locked : String → Bool) :
    Transaction PaymentsDb Exception (List String) := do
  let db ← current
  let stale := staleIntents now batchSize locked db
  write fun db => { db with
    intents := db.intents.modify (fun intent => if intent.id ∈ stale then expire failureReason intent else intent)
      fun intent => by split <;> rfl }
  return stale

def createPending (intent : PaymentIntentEntity) : Transaction PaymentsDb Exception PaymentIntentEntity := do
  let db ← current
  failIf (∃ other ∈ db.intents.rows, other.idempotencyKeyId = intent.idempotencyKeyId)
    (.database "uq_payment_intents_tenant_idempotency_key")
  failIf (bigintLimit ≤ intent.amountMinor) (.database "bigint out of range")
  match db.intents.tryInsert intent with
  | none => Failing.fail (.database "payment_intents_pkey")
  | some intents =>
    write fun db => { db with intents }
    return intent

end PaymentIntents

namespace MpesaTransactions

variable (now : Int)

/-- `ux_mpesa_transactions_transaction_id`, which a receipt number of another checkout violates. -/
def receiptTaken (db : PaymentsDb) (callback : ParsedMpesaCallback) : Prop :=
  ∃ other ∈ db.mpesaTransactions.rows, other.checkoutRequestId ≠ callback.checkoutRequestId ∧
    callback.mpesaReceiptNumber ≠ none ∧ other.transactionId = callback.mpesaReceiptNumber
deriving Decidable

def insertedRow (newId paymentIntentId callbackLogId : String) (callback : ParsedMpesaCallback) :
    MpesaTransactionEntity where
  id := newId
  paymentIntentId
  callbackLogId
  checkoutRequestId := callback.checkoutRequestId
  merchantRequestId := callback.merchantRequestId
  resultCode := callback.resultCode
  resultDesc := callback.resultDesc
  status := callback.status
  transactionId := callback.mpesaReceiptNumber
  mpesaReceiptNumber := callback.mpesaReceiptNumber
  amountMinor := callback.amountMinor
  phoneNumber := callback.phoneNumber
  transactionOccurredAt := callback.transactionOccurredAt
  ledgerTransactionId := none
  processedAt := none
  metadata := callback.metadata
  createdAt := now

def updatedRow (paymentIntentId callbackLogId : String) (callback : ParsedMpesaCallback)
    (row : MpesaTransactionEntity) : MpesaTransactionEntity :=
  { row with
    paymentIntentId
    callbackLogId
    merchantRequestId := callback.merchantRequestId
    resultCode := callback.resultCode
    resultDesc := callback.resultDesc
    status := callback.status
    transactionId := callback.mpesaReceiptNumber <|> row.transactionId
    mpesaReceiptNumber := callback.mpesaReceiptNumber <|> row.mpesaReceiptNumber
    amountMinor := callback.amountMinor <|> row.amountMinor
    phoneNumber := callback.phoneNumber <|> row.phoneNumber
    transactionOccurredAt := callback.transactionOccurredAt <|> row.transactionOccurredAt
    metadata := callback.metadata }

def upsertFromCallback (newId paymentIntentId callbackLogId : String) (callback : ParsedMpesaCallback) :
    Transaction PaymentsDb Exception MpesaTransactionEntity := do
  let db ← current
  failIf (receiptTaken db callback) (.database "ux_mpesa_transactions_transaction_id")
  match db.mpesaTransactions.find callback.checkoutRequestId with
  | some row =>
    write fun db => { db with
      mpesaTransactions := db.mpesaTransactions.update callback.checkoutRequestId
        (updatedRow paymentIntentId callbackLogId callback) fun _ => rfl }
    return updatedRow paymentIntentId callbackLogId callback row
  | none =>
    let row := insertedRow now newId paymentIntentId callbackLogId callback
    failIf (∃ other ∈ db.mpesaTransactions.rows, other.id = newId) (.database "mpesa_transactions_pkey")
    match db.mpesaTransactions.tryInsert row with
    | none => fail (.database "uq_mpesa_transactions_tenant_checkout_request_id")
    | some mpesaTransactions =>
      write fun db => { db with mpesaTransactions }
      return row

def attach (ledgerTransactionId : String) (row : MpesaTransactionEntity) : MpesaTransactionEntity :=
  { row with ledgerTransactionId := some ledgerTransactionId, processedAt := some now }

def attachLedgerTransaction (checkoutRequestId ledgerTransactionId : String) :
    Transaction PaymentsDb Exception Unit :=
  write fun db => { db with
    mpesaTransactions := db.mpesaTransactions.update checkoutRequestId (attach now ledgerTransactionId) fun _ => rfl }

structure Upserted (db : PaymentsDb) (paymentIntentId : String) (callback : ParsedMpesaCallback)
    (row : MpesaTransactionEntity) : Prop where
  status : row.status = callback.status
  paymentIntentId : row.paymentIntentId = paymentIntentId
  ledger : row.ledgerTransactionId =
    (db.mpesaTransactions.find callback.checkoutRequestId).bind (·.ledgerTransactionId)

theorem upsertFromCallback_ok {now : Int} {newId paymentIntentId callbackLogId : String} {callback : ParsedMpesaCallback}
    {db after : PaymentsDb} {row : MpesaTransactionEntity}
    (succeeded : (upsertFromCallback now newId paymentIntentId callbackLogId callback).run db = .ok (row, after)) :
    ¬ receiptTaken db callback ∧ Upserted db paymentIntentId callback row ∧
      after = { db with mpesaTransactions := after.mpesaTransactions } ∧
      db.mpesaTransactions.Put callback.checkoutRequestId row after.mpesaTransactions := by
  simp only [upsertFromCallback, run_bind_ok, run_current_ok, run_failIf_ok] at succeeded
  obtain ⟨_, _, ⟨rfl, rfl⟩, _, _, ⟨free, rfl⟩, rest⟩ := succeeded
  refine ⟨free, ?_⟩
  cases found : db.mpesaTransactions.find callback.checkoutRequestId with
  | some existing =>
    simp only [found, run_bind_ok, run_write_ok, run_pure_ok] at rest
    obtain ⟨_, _, rfl, rfl, rfl⟩ := rest
    obtain ⟨present, same⟩ := (KeyedTable.find_eq_some _).mp found
    exact ⟨⟨rfl, rfl, by rw [found]; rfl⟩, rfl,
      .update (updatedRow paymentIntentId callbackLogId callback) (fun _ => rfl) present same⟩
  | none =>
    simp only [found, run_bind_ok, run_failIf_ok] at rest
    obtain ⟨_, _, ⟨-, rfl⟩, rest⟩ := rest
    split at rest
    · simp at rest
    · next mpesaTransactions inserted =>
      simp only [run_bind_ok, run_write_ok, run_pure_ok] at rest
      obtain ⟨_, _, rfl, rfl, rfl⟩ := rest
      obtain ⟨fresh, rfl⟩ := (KeyedTable.tryInsert_eq_some _).mp inserted
      exact ⟨⟨rfl, rfl, by rw [found]; rfl⟩, rfl, KeyedTable.Put.insert fresh⟩

end MpesaTransactions

theorem PaymentIntents.lockByCheckoutOrMerchantRequestId_some {db : PaymentsDb}
    {checkoutRequestId merchantRequestId : String} {intent : PaymentIntentEntity}
    (locked : lockByCheckoutOrMerchantRequestId db checkoutRequestId merchantRequestId = some intent) :
    intent ∈ db.intents.rows ∧ (intent.checkoutRequestId = some checkoutRequestId ∨
      intent.merchantRequestId = some merchantRequestId) := by
  have member := (List.mem_insertionSort _).mp (List.mem_of_head? locked)
  simpa using member

theorem PaymentIntents.mem_staleIntents {now : Int} {batchSize : Nat} {locked : String → Bool} {db : PaymentsDb}
    {id : String} (stale : id ∈ staleIntents now batchSize locked db) :
    ∃ intent ∈ db.intents.rows, intent.id = id ∧ isStale now db intent = true := by
  obtain ⟨intent, taken, rfl⟩ := List.mem_map.mp stale
  have member := (List.mem_insertionSort _).mp (List.mem_of_mem_take taken)
  simp only [List.mem_filter, Bool.and_eq_true] at member
  exact ⟨intent, member.1, rfl, member.2.1⟩

end ShuleHub.Payments
