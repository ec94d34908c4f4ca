import ShuleHub.Billing.StudentFees
import ShuleHub.Tenant

/-! `MpesaCallbackProcessorService`: what one M-PESA callback does to the tables of its tenant, and the
sweep that expires the intents for which none came. -/

namespace ShuleHub.Payments

open Transaction Finance Billing PaymentIntents

variable (runtime : PaymentsRuntime) (paymentIntent : PaymentIntentEntity)

structure CallbackContext extends CallContext where
  callbackLogId : String
  newMpesaTransactionId : String
  locked : String → Bool

variable (context : CallbackContext) (callback : ParsedMpesaCallback)

inductive PaymentJobStatus where
  | completed
  | failed
  | duplicate
deriving DecidableEq

structure PaymentJobResult where
  checkoutRequestId : String
  callbackLogId : String
  paymentIntentId : Option String
  mpesaTransactionId : Option String
  ledgerTransactionId : Option String
  status : PaymentJobStatus
  failureReason : Option String

def requireConfig (key value : String) : Except Exception String := do
  failIf (JsText.trim value = "") (.badRequest ("Missing MPESA configuration value \"" ++ key ++ "\""))
  return value

def assertCallbackMatchesIntent :
    Except Exception Unit := do
  failIf (callback.amountMinor.any fun amount => paymentIntent.amountMinor ≠ amount)
    (.badRequest ("M-PESA callback amount mismatch for checkout request \"" ++ callback.checkoutRequestId ++ "\""))
  failIf (callback.phoneNumber.any fun phone => phone ≠ "" && paymentIntent.phoneNumber ≠ phone)
    (.badRequest ("M-PESA callback phone number mismatch for checkout request \""
      ++ callback.checkoutRequestId ++ "\""))

def receivedFunds (checkoutRequestId : String) : String := "M-PESA funds received (" ++ checkoutRequestId ++ ")"

def mpesaPosting (amountMinor : Nat)
    (debitAccount creditAccount : AccountEntity) : PostFinancialTransactionInput where
  idempotencyKey := mpesaLedgerIdempotencyPrefix ++ ":" ++ callback.checkoutRequestId
  reference := "MPESA-" ++ callback.checkoutRequestId
  description := "M-PESA payment " ++ paymentIntent.externalReference.getD paymentIntent.accountReference
  effectiveAt := none
  postedAt := none
  metadata := some (.obj [
    ("source", .str "mpesa"),
    ("payment_intent_id", .str paymentIntent.id),
    ("student_id", jsonText paymentIntent.studentId),
    ("checkout_request_id", .str callback.checkoutRequestId),
    ("merchant_request_id", .str callback.merchantRequestId),
    ("mpesa_receipt_number", jsonText callback.mpesaReceiptNumber),
    ("external_reference", jsonText paymentIntent.externalReference)])
  entries := [
    { accountId := debitAccount.id
      direction := .debit
      amountMinor := toString amountMinor
      currencyCode := some mpesaDefaultCurrencyCode
      description := some (receivedFunds callback.checkoutRequestId)
      metadata := some (.obj [("mpesa_receipt_number", jsonText callback.mpesaReceiptNumber)]) },
    { accountId := creditAccount.id
      direction := .credit
      amountMinor := toString amountMinor
      currencyCode := some mpesaDefaultCurrencyCode
      description := some ("Customer deposit (" ++ paymentIntent.accountReference ++ ")")
      metadata := some (.obj [
        ("payment_intent_id", .str paymentIntent.id),
        ("student_id", jsonText paymentIntent.studentId),
        ("account_reference", .str paymentIntent.accountReference)]) }]

def postPayment (paymentIntent : PaymentIntentEntity)
    (callback : ParsedMpesaCallback) (amountMinor : Nat) : Transaction TenantDb Exception PostedFinancialTransaction := do
  let db ← current
  let debitCode ← requireConfig "mpesa.ledgerDebitAccountCode" runtime.ledgerDebitAccountCode
  let creditCode ← requireConfig "mpesa.ledgerCreditAccountCode" runtime.ledgerCreditAccountCode
  match findByCode db debitCode, findByCode db creditCode with
  | some debitAccount, some creditAccount =>
    onFinance (postTransaction runtime.toRuntime context.toCallContext
      (mpesaPosting paymentIntent callback amountMinor debitAccount creditAccount))
  | _, _ => fail (.notFound "Configured MPESA ledger accounts were not found in this tenant")

def completePayment (paymentIntent : PaymentIntentEntity)
    (callback : ParsedMpesaCallback) (amountMinor : Nat) : Transaction TenantDb Exception String := do
  onPayments (PaymentIntents.markProcessing paymentIntent.id)
  let postedTransaction ← postPayment runtime context paymentIntent callback amountMinor
  onPayments (MpesaTransactions.attachLedgerTransaction context.now callback.checkoutRequestId postedTransaction.transactionId)
  onPayments (PaymentIntents.markCompleted paymentIntent.id postedTransaction.transactionId)
  onBilling (handlePaymentIntentCompleted runtime.tenantId context.locked paymentIntent amountMinor
    (some postedTransaction.transactionId))
  return postedTransaction.transactionId

def settlePayment (paymentIntent : PaymentIntentEntity)
    (callback : ParsedMpesaCallback) (amountMinor : Nat) (mpesaTransaction : MpesaTransactionEntity) :
    Transaction TenantDb Exception PaymentJobResult := do
  let result : PaymentJobResult := {
    checkoutRequestId := callback.checkoutRequestId
    callbackLogId := context.callbackLogId
    paymentIntentId := some paymentIntent.id
    mpesaTransactionId := some mpesaTransaction.id
    ledgerTransactionId := none
    status := .duplicate
    failureReason := none }
  match mpesaTransaction.ledgerTransactionId, paymentIntent.ledgerTransactionId with
  | some ledgerTransactionId, _ =>
    if paymentIntent.status ≠ .completed then
      onPayments (PaymentIntents.markCompleted paymentIntent.id ledgerTransactionId)
    return { result with ledgerTransactionId := some ledgerTransactionId }
  | none, some ledgerTransactionId =>
    onPayments (MpesaTransactions.attachLedgerTransaction context.now callback.checkoutRequestId ledgerTransactionId)
    return { result with ledgerTransactionId := some ledgerTransactionId }
  | none, none =>
    if PaymentIntents.isNonCompletable paymentIntent.status then
      return { result with
        status := .failed
        failureReason := some (paymentIntent.failureReason.getD ("Payment intent is already "
          ++ paymentIntent.status.text ++ " for checkout request \"" ++ callback.checkoutRequestId ++ "\"")) }
    else
      let ledgerTransactionId ← completePayment runtime context paymentIntent callback amountMinor
      return { result with status := .completed, ledgerTransactionId := some ledgerTransactionId }

def receiveCallback : Transaction TenantDb Exception Unit :=
  if PaymentIntents.isTerminal paymentIntent.status then return ()
  else onPayments (PaymentIntents.markCallbackReceived paymentIntent.id)

def processLockedPayment :
    Transaction TenantDb Exception PaymentJobResult := do
  let db ← current
  match PaymentIntents.lockByCheckoutOrMerchantRequestId db.payments callback.checkoutRequestId
      callback.merchantRequestId with
  | none =>
    fail (.notFound ("Payment intent for checkout request \"" ++ callback.checkoutRequestId ++ "\" was not found"))
  | some paymentIntent =>
    receiveCallback paymentIntent
    let mpesaTransaction ← onPayments (MpesaTransactions.upsertFromCallback context.now context.newMpesaTransactionId
      paymentIntent.id context.callbackLogId callback)
    if callback.status = .failed then
      onPayments (PaymentIntents.markFailed paymentIntent.id callback.resultDesc)
      return {
        checkoutRequestId := callback.checkoutRequestId
        callbackLogId := context.callbackLogId
        paymentIntentId := some paymentIntent.id
        mpesaTransactionId := some mpesaTransaction.id
        ledgerTransactionId := none
        status := .failed
        failureReason := some callback.resultDesc }
    else
      match callback.amountMinor with
      | none => fail (.badRequest ("Successful M-PESA callback \"" ++ callback.checkoutRequestId
          ++ "\" is missing amount metadata"))
      | some amountMinor =>
        assertCallbackMatchesIntent paymentIntent callback
        settlePayment runtime context paymentIntent callback amountMinor mpesaTransaction

structure ExpireStaleMpesaPaymentIntentsResult where
  expiredCount : Nat
  expiredPaymentIntentIds : List String

def expireStalePaymentIntents (now : Int) (locked : String → Bool) :
    Transaction TenantDb Exception ExpireStaleMpesaPaymentIntentsResult := do
  let expired ← onPayments (PaymentIntents.expireStalePendingIntents now runtime.staleIntentSweepBatchSize
    mpesaExpiredPaymentFailureReason locked)
  return ⟨expired.length, expired⟩

def received : PaymentIntentEntity :=
  if PaymentIntents.isTerminal paymentIntent.status then paymentIntent
  else PaymentIntents.advance .callbackReceived paymentIntent

/-- What a callback makes of the locked intent and of the row it upserts, and what it leaves in the other
tables. -/
inductive Processed (runtime : PaymentsRuntime) (context : CallbackContext) (callback : ParsedMpesaCallback)
    (db : TenantDb) (paymentIntent : PaymentIntentEntity) (upserted : MpesaTransactionEntity) :
    PaymentIntentEntity → MpesaTransactionEntity → FinanceDb → BillingDb → Prop
  | failed (reported : callback.status = .failed) :
      Processed runtime context callback db paymentIntent upserted
        (PaymentIntents.fail callback.resultDesc (received paymentIntent)) upserted db.finance db.billing
  | repeated (ledgerTransactionId : String) (reported : callback.status = .succeeded)
      (posted : upserted.ledgerTransactionId = some ledgerTransactionId)
      (completed : paymentIntent.status = .completed) :
      Processed runtime context callback db paymentIntent upserted paymentIntent upserted db.finance db.billing
  | recovered (ledgerTransactionId : String) (reported : callback.status = .succeeded)
      (given : callback.amountMinor = some paymentIntent.amountMinor)
      (matching : assertCallbackMatchesIntent paymentIntent callback = .ok ())
      (posted : upserted.ledgerTransactionId = some ledgerTransactionId)
      (uncompleted : paymentIntent.status ≠ .completed) :
      Processed runtime context callback db paymentIntent upserted
        (PaymentIntents.complete ledgerTransactionId (received paymentIntent)) upserted db.finance db.billing
  | attached (ledgerTransactionId : String) (reported : callback.status = .succeeded)
      (unposted : upserted.ledgerTransactionId = none)
      (posted : paymentIntent.ledgerTransactionId = some ledgerTransactionId) :
      Processed runtime context callback db paymentIntent upserted (received paymentIntent)
        (MpesaTransactions.attach context.now ledgerTransactionId upserted) db.finance db.billing
  | tooLate (reported : callback.status = .succeeded) (unposted : upserted.ledgerTransactionId = none)
      (closed : PaymentIntents.isNonCompletable paymentIntent.status = true) :
      Processed runtime context callback db paymentIntent upserted paymentIntent upserted db.finance db.billing
  | completed (posted : PostedFinancialTransaction) (debitAccount creditAccount : AccountEntity)
      (finance : FinanceDb) (billing : BillingDb) (reported : callback.status = .succeeded)
      (unposted : upserted.ledgerTransactionId = none) (unsettled : paymentIntent.ledgerTransactionId = none)
      (completable : PaymentIntents.isNonCompletable paymentIntent.status = false)
      (posting : (postTransaction runtime.toRuntime context.toCallContext (mpesaPosting paymentIntent callback
        paymentIntent.amountMinor debitAccount creditAccount)).run db.finance = .ok (posted, finance))
      (handled : (handlePaymentIntentCompleted runtime.tenantId context.locked paymentIntent
        paymentIntent.amountMinor (some posted.transactionId)).run db.billing = .ok ((), billing)) :
      Processed runtime context callback db paymentIntent upserted
        (PaymentIntents.complete posted.transactionId
          (PaymentIntents.advance .processing (received paymentIntent)))
        (MpesaTransactions.attach context.now posted.transactionId upserted) finance billing

variable {paymentIntent} {callback}

theorem received_of_terminal
    (terminal : isTerminal paymentIntent.status = true) : received paymentIntent = paymentIntent :=
  if_pos terminal

theorem status_of_not_failed (reported : callback.status ≠ .failed) :
    callback.status = .succeeded := by
  cases status : callback.status with
  | succeeded => rfl
  | failed => exact absurd status reported

theorem assertCallbackMatchesIntent_ok
    {amountMinor : Nat} (given : callback.amountMinor = some amountMinor)
    (matching : assertCallbackMatchesIntent paymentIntent callback = .ok ()) : paymentIntent.amountMinor = amountMinor := by
  simp only [assertCallbackMatchesIntent, Outcome.bind_ok, Outcome.failIf_ok, given] at matching
  simpa using matching.choose_spec.1

section Outcome

variable {runtime : PaymentsRuntime} {context : CallbackContext} {callback : ParsedMpesaCallback}
  {db middle after : TenantDb} {paymentIntent : PaymentIntentEntity} {upserted : MpesaTransactionEntity}
  {amountMinor : Nat} {result : PaymentJobResult}

structure Recorded (db middle : TenantDb) (callback : ParsedMpesaCallback) (paymentIntent : PaymentIntentEntity)
    (upserted : MpesaTransactionEntity) : Prop where
  intents : db.payments.intents.Put paymentIntent.id (received paymentIntent) middle.payments.intents
  rows : db.payments.mpesaTransactions.Put callback.checkoutRequestId upserted middle.payments.mpesaTransactions
  keys : middle.payments.idempotencyKeys = db.payments.idempotencyKeys
  finance : middle.finance = db.finance
  billing : middle.billing = db.billing

structure Settled (runtime : PaymentsRuntime) (context : CallbackContext) (callback : ParsedMpesaCallback)
    (db after : TenantDb) (paymentIntent : PaymentIntentEntity) (upserted : MpesaTransactionEntity)
    (settled : PaymentIntentEntity) (row : MpesaTransactionEntity) : Prop where
  intents : db.payments.intents.Put paymentIntent.id settled after.payments.intents
  rows : db.payments.mpesaTransactions.Put callback.checkoutRequestId row after.payments.mpesaTransactions
  keys : after.payments.idempotencyKeys = db.payments.idempotencyKeys
  outcome : Processed runtime context callback db paymentIntent upserted settled row after.finance after.billing

theorem received_id : (received paymentIntent).id = paymentIntent.id := by
  unfold received
  split <;> rfl

theorem Recorded.putIntent (recorded : Recorded db middle callback paymentIntent upserted)
    (change : PaymentIntentEntity → PaymentIntentEntity) (kept : ∀ intent, (change intent).id = intent.id) :
    db.payments.intents.Put paymentIntent.id (change (received paymentIntent))
      (middle.payments.intents.update paymentIntent.id change kept) :=
  recorded.intents.trans (.update change kept recorded.intents.own.1 received_id)

theorem Recorded.attachRow (recorded : Recorded db middle callback paymentIntent upserted)
    (ledgerTransactionId : String) :
    db.payments.mpesaTransactions.Put callback.checkoutRequestId
      (MpesaTransactions.attach context.now ledgerTransactionId upserted)
      (middle.payments.mpesaTransactions.update callback.checkoutRequestId
        (MpesaTransactions.attach context.now ledgerTransactionId) fun _ => rfl) :=
  recorded.rows.trans (.update (MpesaTransactions.attach context.now ledgerTransactionId) (fun _ => rfl)
    recorded.rows.own.1 recorded.rows.own.2)

theorem postPayment_ok {posted : PostedFinancialTransaction}
    (succeeded : (postPayment runtime context paymentIntent callback amountMinor).run middle = .ok (posted, after)) :
    ∃ debitAccount creditAccount finance,
      (postTransaction runtime.toRuntime context.toCallContext
        (mpesaPosting paymentIntent callback amountMinor debitAccount creditAccount)).run middle.finance =
        .ok (posted, finance) ∧ after = { middle with finance } := by
  simp only [postPayment, run_bind_ok, run_current_ok, run_lift_ok] at succeeded
  obtain ⟨_, _, ⟨rfl, rfl⟩, _, _, ⟨-, rfl⟩, _, _, ⟨-, rfl⟩, posting⟩ := succeeded
  split at posting
  · next debitAccount creditAccount _ _ =>
    obtain ⟨finance, ran, same⟩ := onFinance_ok.mp posting
    exact ⟨debitAccount, creditAccount, finance, ran, same⟩
  · simp at posting

theorem completePayment_ok {ledgerTransactionId : String}
    (succeeded : (completePayment runtime context paymentIntent callback amountMinor).run middle =
      .ok (ledgerTransactionId, after)) :
    ∃ posted debitAccount creditAccount finance billing,
      (postTransaction runtime.toRuntime context.toCallContext
        (mpesaPosting paymentIntent callback amountMinor debitAccount creditAccount)).run middle.finance =
        .ok (posted, finance) ∧
      (handlePaymentIntentCompleted runtime.tenantId context.locked paymentIntent amountMinor
        (some posted.transactionId)).run middle.billing = .ok ((), billing) ∧
      ledgerTransactionId = posted.transactionId ∧
      after = {
        finance, billing
        payments := { middle.payments with
          intents := (middle.payments.intents.update paymentIntent.id (advance .processing)
            fun _ => rfl).update paymentIntent.id (complete posted.transactionId) fun _ => rfl
          mpesaTransactions := middle.payments.mpesaTransactions.update callback.checkoutRequestId
            (MpesaTransactions.attach context.now posted.transactionId) fun _ => rfl } } := by
  simp only [completePayment, markProcessing, markCompleted,
    updateIntent, MpesaTransactions.attachLedgerTransaction, run_bind_ok, onPayments_ok, onBilling_ok,
    run_write_ok, run_pure_ok] at succeeded
  obtain ⟨_, _, ⟨_, rfl, rfl⟩, posted, _, posting, _, _, ⟨_, rfl, rfl⟩, _, _, ⟨_, rfl, rfl⟩, _, _,
    ⟨billing, handled, rfl⟩, rfl, rfl⟩ := succeeded
  obtain ⟨debitAccount, creditAccount, finance, ran, rfl⟩ := postPayment_ok posting
  exact ⟨posted, debitAccount, creditAccount, finance, billing, ran, handled, rfl, rfl⟩

theorem settlePayment_ok (recorded : Recorded db middle callback paymentIntent upserted)
    (reported : callback.status = .succeeded) (given : callback.amountMinor = some paymentIntent.amountMinor)
    (matching : assertCallbackMatchesIntent paymentIntent callback = .ok ())
    (succeeded : (settlePayment runtime context paymentIntent callback paymentIntent.amountMinor upserted).run middle =
      .ok (result, after)) :
    ∃ settled row, Settled runtime context callback db after paymentIntent upserted settled row := by
  unfold settlePayment at succeeded
  cases posted : upserted.ledgerTransactionId with
  | some ledgerTransactionId =>
    simp only [posted] at succeeded
    by_cases completed : paymentIntent.status = .completed
    · simp only [completed, ne_eq, not_true_eq_false, if_false, run_pure_ok] at succeeded
      obtain ⟨-, rfl⟩ := succeeded
      have terminal : received paymentIntent = paymentIntent :=
        received_of_terminal (by simp [isTerminal, completed])
      have intents := recorded.intents
      rw [terminal] at intents
      refine ⟨paymentIntent, upserted, intents, recorded.rows, recorded.keys, ?_⟩
      rw [recorded.finance, recorded.billing]
      exact .repeated ledgerTransactionId reported posted completed
    · simp only [if_pos completed, markCompleted, updateIntent, run_bind_ok,
        onPayments_ok, run_write_ok, run_pure_ok] at succeeded
      obtain ⟨_, _, ⟨_, rfl, rfl⟩, -, rfl⟩ := succeeded
      refine ⟨_, upserted, recorded.putIntent (complete ledgerTransactionId) fun _ => rfl,
        recorded.rows, recorded.keys, ?_⟩
      rw [recorded.finance, recorded.billing]
      exact .recovered ledgerTransactionId reported given matching posted completed
  | none =>
    cases settled : paymentIntent.ledgerTransactionId with
    | some ledgerTransactionId =>
      simp only [posted, settled, MpesaTransactions.attachLedgerTransaction, run_bind_ok, onPayments_ok, run_write_ok,
        run_pure_ok] at succeeded
      obtain ⟨_, _, ⟨_, rfl, rfl⟩, -, rfl⟩ := succeeded
      refine ⟨_, _, recorded.intents, recorded.attachRow ledgerTransactionId, recorded.keys, ?_⟩
      rw [recorded.finance, recorded.billing]
      exact .attached ledgerTransactionId reported posted settled
    | none =>
      simp only [posted, settled, run_ite_ok, run_bind_ok, run_pure_ok] at succeeded
      rcases succeeded with ⟨closed, -, rfl⟩ | ⟨completable, _, _, completed, -, rfl⟩
      · have terminal : received paymentIntent = paymentIntent := by
          apply received_of_terminal
          simp only [isNonCompletable, Bool.or_eq_true] at closed
          simp only [isTerminal, Bool.or_eq_true]
          tauto
        have intents := recorded.intents
        rw [terminal] at intents
        refine ⟨paymentIntent, upserted, intents, recorded.rows, recorded.keys, ?_⟩
        rw [recorded.finance, recorded.billing]
        exact .tooLate reported posted closed
      · obtain ⟨transaction, debitAccount, creditAccount, finance, billing, posting, handled, rfl, rfl⟩ :=
          completePayment_ok completed
        rw [recorded.finance] at posting
        rw [recorded.billing] at handled
        refine ⟨_, _, ?_, recorded.attachRow transaction.transactionId, recorded.keys,
          .completed transaction debitAccount creditAccount finance billing reported posted settled
            (by simpa using completable) posting handled⟩
        have advanced := recorded.putIntent (advance .processing) fun _ => rfl
        exact advanced.trans (.update (complete transaction.transactionId) (fun _ => rfl)
          advanced.own.1 advanced.own.2)

theorem receiveCallback_ok {result : Unit}
    (succeeded : (receiveCallback paymentIntent).run db = .ok (result, after))
    (present : paymentIntent ∈ db.payments.intents.rows) :
    db.payments.intents.Put paymentIntent.id (received paymentIntent) after.payments.intents ∧
      after = { db with payments := { db.payments with intents := after.payments.intents } } := by
  unfold receiveCallback at succeeded
  unfold received
  split at succeeded
  · next terminal =>
    simp only [run_pure_ok, true_and] at succeeded
    subst succeeded
    rw [if_pos terminal]
    exact ⟨.refl present, rfl⟩
  · next open_ =>
    simp only [markCallbackReceived, updateIntent, onPayments_ok, run_write_ok]
      at succeeded
    obtain ⟨_, rfl, rfl⟩ := succeeded
    rw [if_neg open_]
    exact ⟨.update (advance .callbackReceived) (fun _ => rfl) present rfl, rfl⟩

theorem processLockedPayment_ok
    (succeeded : (processLockedPayment runtime context callback).run db = .ok (result, after)) :
    ∃ paymentIntent upserted settled row,
      lockByCheckoutOrMerchantRequestId db.payments callback.checkoutRequestId
        callback.merchantRequestId = some paymentIntent ∧
      ¬ MpesaTransactions.receiptTaken db.payments callback ∧
      MpesaTransactions.Upserted db.payments paymentIntent.id callback upserted ∧
      Settled runtime context callback db after paymentIntent upserted settled row := by
  simp only [processLockedPayment, run_bind_ok, run_current_ok] at succeeded
  obtain ⟨_, _, ⟨rfl, rfl⟩, rest⟩ := succeeded
  split at rest
  · simp at rest
  · next paymentIntent locked =>
    have present := (lockByCheckoutOrMerchantRequestId_some locked).1
    simp only [run_bind_ok, onPayments_ok] at rest
    obtain ⟨_, middle, marked, upserted, _, ⟨payments, ran, rfl⟩, rest⟩ := rest
    obtain ⟨intents, same⟩ := receiveCallback_ok marked present
    obtain ⟨free, upsert, stored, rows⟩ := MpesaTransactions.upsertFromCallback_ok ran
    rw [same] at free rows upsert
    have upsert : MpesaTransactions.Upserted db.payments paymentIntent.id callback upserted :=
      ⟨upsert.status, upsert.paymentIntentId, upsert.ledger⟩
    have recorded : Recorded db { middle with payments } callback paymentIntent upserted := by
      refine ⟨?_, rows, ?_, by rw [same], by rw [same]⟩
      · rw [stored]
        exact intents
      · rw [stored, same]
    refine ⟨paymentIntent, upserted, ?_⟩
    by_cases failed : callback.status = .failed
    · simp only [if_pos failed, PaymentIntents.markFailed, updateIntent, run_bind_ok, onPayments_ok,
        run_write_ok, run_pure_ok] at rest
      obtain ⟨_, _, ⟨_, rfl, rfl⟩, -, rfl⟩ := rest
      refine ⟨_, upserted, locked, free, upsert, recorded.putIntent (fail callback.resultDesc) fun _ => rfl,
        recorded.rows, recorded.keys, ?_⟩
      rw [recorded.finance, recorded.billing]
      exact .failed failed
    · have reported := status_of_not_failed failed
      rw [if_neg failed] at rest
      split at rest
      · simp at rest
      · next amountMinor given =>
        simp only [run_bind_ok, run_lift_ok] at rest
        obtain ⟨_, _, ⟨matching, rfl⟩, rest⟩ := rest
        obtain rfl := assertCallbackMatchesIntent_ok given matching
        obtain ⟨settled, row, done⟩ := settlePayment_ok recorded reported given matching rest
        exact ⟨settled, row, locked, free, upsert, done⟩

end Outcome

structure Swept (db after : TenantDb) (now : Int) (change : PaymentIntentEntity → PaymentIntentEntity) : Prop where
  finance : after.finance = db.finance
  billing : after.billing = db.billing
  rows : after.payments.mpesaTransactions = db.payments.mpesaTransactions
  keys : after.payments.idempotencyKeys = db.payments.idempotencyKeys
  intents : ∀ intent, intent ∈ after.payments.intents.rows ↔ ∃ old ∈ db.payments.intents.rows, change old = intent
  changes : ∀ old ∈ db.payments.intents.rows, change old = old ∨
    PaymentIntents.isStale now db.payments old = true ∧
      change old = PaymentIntents.expire mpesaExpiredPaymentFailureReason old

theorem expireStalePaymentIntents_ok {runtime : PaymentsRuntime} {now : Int} {locked : String → Bool}
    {db after : TenantDb} {result : ExpireStaleMpesaPaymentIntentsResult}
    (succeeded : (expireStalePaymentIntents runtime now locked).run db = .ok (result, after)) :
    ∃ change, Swept db after now change := by
  simp only [expireStalePaymentIntents, expireStalePendingIntents, run_bind_ok, onPayments_ok,
    run_current_ok, run_write_ok, run_pure_ok] at succeeded
  obtain ⟨_, _, ⟨_, ⟨_, _, ⟨rfl, rfl⟩, _, _, rfl, rfl, rfl⟩, rfl⟩, -, rfl⟩ := succeeded
  refine ⟨_, rfl, rfl, rfl, rfl, fun _ => List.mem_map, fun old member => ?_⟩
  split
  · next stale =>
    obtain ⟨intent, present, same, isStale⟩ := mem_staleIntents stale
    obtain rfl := KeyedTable.eq_of_key present member same
    exact .inr ⟨isStale, rfl⟩
  · exact .inl rfl

inductive PaymentEvent where
  | callback (context : CallbackContext) (callback : ParsedMpesaCallback)
  | sweep (now : Int) (locked : String → Bool)

def performPayment (db : TenantDb) : PaymentEvent → TenantDb
  | .callback context callback => commit (processLockedPayment runtime context callback) db
  | .sweep now locked => commit (expireStalePaymentIntents runtime now locked) db

end ShuleHub.Payments
