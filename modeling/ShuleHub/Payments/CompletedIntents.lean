import ShuleHub.Finance.Replays
import ShuleHub.Payments.CallbackProcessor

/-! What later callbacks and sweeps do to an intent that has completed. -/

namespace ShuleHub.Payments

open Transaction Runs PaymentIntents MpesaTransactions KeyedTable

/-- The intent is completed with its ledger transaction, and the row of its checkout says so. -/
def CompletedWith (intentId checkoutRequestId ledgerTransactionId : String) (db : TenantDb) : Prop :=
  (∃ intent ∈ db.payments.intents.rows, intent.id = intentId ∧ intent.checkoutRequestId = some checkoutRequestId ∧
    intent.status = .completed ∧ intent.ledgerTransactionId = some ledgerTransactionId) ∧
  ∃ row ∈ db.payments.mpesaTransactions.rows, row.checkoutRequestId = checkoutRequestId ∧ row.status = .succeeded
deriving Decidable

def NoLateFailure (db : TenantDb) : PaymentEvent → Prop
  | .callback _ callback => callback.status = .succeeded ∨ receiptTaken db.payments callback
  | .sweep _ _ => True

instance (db : TenantDb) (event : PaymentEvent) : Decidable (NoLateFailure db event) := by
  cases event <;> unfold NoLateFailure <;> infer_instance

def ForCheckout (checkoutRequestId : String) : PaymentEvent → Prop
  | .callback _ callback => callback.checkoutRequestId = checkoutRequestId
  | .sweep _ _ => True

section Events

variable {runtime : PaymentsRuntime} {context : CallbackContext} {callback : ParsedMpesaCallback}
  {intentId checkoutRequestId ledgerTransactionId : String} {db after : TenantDb}
  {paymentIntent settled : PaymentIntentEntity} {upserted row : MpesaTransactionEntity}
  {finance : Finance.FinanceDb} {billing : Billing.BillingDb}

theorem sweep_keeps_completed {now : Int} {change : PaymentIntentEntity → PaymentIntentEntity}
    (completed : CompletedWith intentId checkoutRequestId ledgerTransactionId db) (swept : Swept db after now change) :
    CompletedWith intentId checkoutRequestId ledgerTransactionId after := by
  obtain ⟨⟨intent, present, own, hasCheckout, status, posted⟩, row⟩ := completed
  refine ⟨⟨intent, (swept.intents intent).mpr ⟨intent, present, ?_⟩, own, hasCheckout, status, posted⟩, swept.rows ▸ row⟩
  rcases swept.changes intent present with same | ⟨stale, -⟩
  · exact same
  · simp [isStale, status] at stale

/-- What a reported success makes of the locked intent when that is the completed one: nothing. -/
theorem settled_of_completed
    (completed : paymentIntent.status = .completed) (posted : paymentIntent.ledgerTransactionId ≠ none)
    (reported : callback.status = .succeeded)
    (outcome : Processed runtime context callback db paymentIntent upserted settled row finance billing) :
    settled = paymentIntent := by
  have terminal : received paymentIntent = paymentIntent :=
    received_of_terminal (by simp [isTerminal, completed])
  cases outcome with
  | failed failed =>
    rw [reported] at failed
    cases failed
  | repeated => rfl
  | recovered _ _ _ _ _ uncompleted => exact absurd completed uncompleted
  | attached => exact terminal
  | tooLate => rfl
  | completed _ _ _ _ _ _ _ unsettled => exact absurd unsettled posted

theorem row_status
    (outcome : Processed runtime context callback db paymentIntent upserted settled row finance billing) :
    row.status = upserted.status := by
  cases outcome <;> rfl

theorem success_keeps_completed (completed : CompletedWith intentId checkoutRequestId ledgerTransactionId db)
    (own : callback.checkoutRequestId = checkoutRequestId) (reported : callback.status = .succeeded)
    {result : PaymentJobResult}
    (succeeded : (processLockedPayment runtime context callback).run db = .ok (result, after)) :
    CompletedWith intentId checkoutRequestId ledgerTransactionId after := by
  obtain ⟨⟨intent, present, rfl, hasCheckout, status, posted⟩, -⟩ := completed
  obtain ⟨paymentIntent, upserted, settled, row, locked, -, upsert, done⟩ := processLockedPayment_ok succeeded
  have lockedPresent := (lockByCheckoutOrMerchantRequestId_some locked).1
  refine ⟨⟨intent, ?_, rfl, hasCheckout, status, posted⟩, row, done.rows.own.1, done.rows.own.2.trans own, ?_⟩
  · by_cases same : intent.id = paymentIntent.id
    · obtain rfl := eq_of_key present lockedPresent same
      have unchanged := settled_of_completed status (by simp [posted]) reported done.outcome
      exact unchanged ▸ done.intents.own.1
    · exact (done.intents.others intent same).mpr present
  · rw [row_status done.outcome, upsert.status, reported]

theorem lock_of_checkout {intent : PaymentIntentEntity} (present : intent ∈ db.payments.intents.rows)
    (hasCheckout : intent.checkoutRequestId = some checkoutRequestId) (merchantRequestId : String) :
    ∃ paymentIntent, lockByCheckoutOrMerchantRequestId db.payments checkoutRequestId merchantRequestId =
      some paymentIntent := by
  cases locked : lockByCheckoutOrMerchantRequestId db.payments checkoutRequestId merchantRequestId with
  | some paymentIntent => exact ⟨paymentIntent, rfl⟩
  | none =>
    have empty := List.head?_eq_none_iff.mp locked
    have member : intent ∈ db.payments.intents.rows.filter fun intent =>
        intent.checkoutRequestId = some checkoutRequestId ∨ intent.merchantRequestId = some merchantRequestId := by
      simp [present, hasCheckout]
    rw [← List.mem_insertionSort (fun left right => right.createdAt ≤ left.createdAt), empty] at member
    cases member

theorem receiveCallback_run (paymentIntent : PaymentIntentEntity) (db : TenantDb) :
    ∃ middle, (receiveCallback paymentIntent).run db = .ok ((), middle) ∧
      middle.payments.mpesaTransactions = db.payments.mpesaTransactions := by
  unfold receiveCallback
  split
  · exact ⟨db, rfl, rfl⟩
  · exact ⟨_, rfl, rfl⟩

theorem failure_runs (runtime : PaymentsRuntime) (context : CallbackContext)
    (completed : CompletedWith intentId checkoutRequestId ledgerTransactionId db)
    (own : callback.checkoutRequestId = checkoutRequestId) (failed : callback.status = .failed)
    (free : ¬ receiptTaken db.payments callback) :
    ∃ result after, (processLockedPayment runtime context callback).run db = .ok (result, after) := by
  obtain ⟨⟨intent, present, -, hasCheckout, -, -⟩, row, stored, same, -⟩ := completed
  obtain ⟨paymentIntent, locked⟩ := lock_of_checkout present hasCheckout callback.merchantRequestId
  obtain ⟨middle, marked, unchanged⟩ := receiveCallback_run paymentIntent db
  have found : middle.payments.mpesaTransactions.find callback.checkoutRequestId = some row := by
    rw [unchanged, find_eq_some]
    exact ⟨stored, same.trans own.symm⟩
  have unclaimed : ¬ receiptTaken middle.payments callback := by
    rw [receiptTaken, unchanged]
    exact free
  have upserted : ∃ written, (onPayments (upsertFromCallback context.now context.newMpesaTransactionId paymentIntent.id
      context.callbackLogId callback)).run middle = .ok written := by
    have ran : ∃ written, (upsertFromCallback context.now context.newMpesaTransactionId paymentIntent.id context.callbackLogId
        callback).run middle.payments = .ok written := by
      simp only [upsertFromCallback, run_bind, run_current, run_failIf, if_neg unclaimed, found]
      exact ⟨_, rfl⟩
    obtain ⟨written, ran⟩ := ran
    exact ⟨_, congrArg (Except.map _) ran⟩
  obtain ⟨written, upserted⟩ := upserted
  simp only [processLockedPayment, run_bind, run_current, own ▸ locked, marked, upserted, if_pos failed]
  exact ⟨_, _, rfl⟩

theorem failure_breaks_completed (completed : CompletedWith intentId checkoutRequestId ledgerTransactionId db)
    (own : callback.checkoutRequestId = checkoutRequestId) (late : ¬ NoLateFailure db (.callback context callback)) :
    ¬ CompletedWith intentId checkoutRequestId ledgerTransactionId (performPayment runtime db (.callback context callback)) := by
  obtain ⟨unreported, free⟩ := not_or.mp late
  have failed : callback.status = .failed := by
    cases status : callback.status with
    | succeeded => exact absurd status unreported
    | failed => rfl
  obtain ⟨result, after, succeeded⟩ := failure_runs runtime context completed own failed free
  obtain ⟨paymentIntent, upserted, settled, row, -, -, upsert, done⟩ := processLockedPayment_ok succeeded
  have status : row.status = .failed := by
    rw [row_status done.outcome, upsert.status, failed]
  rw [performPayment, commit_of_ok succeeded]
  rintro ⟨-, other, stored, same, reported⟩
  obtain rfl := eq_of_key stored done.rows.own.1 (same.trans (done.rows.own.2.trans own).symm)
  rw [status] at reported
  cases reported

theorem performPayment_keeps_completed (db : TenantDb) (event : PaymentEvent)
    (own : ForCheckout checkoutRequestId event)
    (completed : CompletedWith intentId checkoutRequestId ledgerTransactionId db) (guarded : NoLateFailure db event) :
    CompletedWith intentId checkoutRequestId ledgerTransactionId (performPayment runtime db event) := by
  cases event with
  | sweep now locked =>
    refine commit_preserves completed fun result after succeeded => ?_
    obtain ⟨change, swept⟩ := expireStalePaymentIntents_ok succeeded
    exact sweep_keeps_completed completed swept
  | callback context callback =>
    refine commit_preserves completed fun result after succeeded => ?_
    rcases guarded with reported | taken
    · exact success_keeps_completed completed own reported succeeded
    · obtain ⟨_, _, _, _, -, free, -⟩ := processLockedPayment_ok succeeded
      exact absurd taken free

end Events

/-- Once an intent has completed, callbacks for its checkout and sweeps leave it completed exactly as
long as no failure is reported for it that the database takes. -/
theorem completed_intent_stays_iff (runtime : PaymentsRuntime)
    (intentId checkoutRequestId ledgerTransactionId : String) (db : TenantDb) (events : List PaymentEvent)
    (own : ∀ event ∈ events, ForCheckout checkoutRequestId event)
    (completed : CompletedWith intentId checkoutRequestId ledgerTransactionId db) :
    Along (performPayment runtime) (CompletedWith intentId checkoutRequestId ledgerTransactionId) db events ↔
      Meets (performPayment runtime) NoLateFailure db events := by
  refine along_iff_meets_of_allowed performPayment_keeps_completed (fun _ => id) ?_ events own completed
  intro db event own completed late
  cases event with
  | sweep => exact absurd trivial late
  | callback => exact failure_breaks_completed completed own late

def samplePaymentsRuntime : PaymentsRuntime where
  toRuntime := { Finance.sampleRuntime with sha256 := fun _ => "9f86d081884c7d65" }
  ledgerDebitAccountCode := "cash"
  ledgerCreditAccountCode := "fees"
  paymentIntentExpirySeconds := 1800
  staleIntentSweepBatchSize := 100
  resolveMpesaConfig _ := .ok ⟨"174379", none, "cash", "fees"⟩

def sampleIntent (id : String) (createdAt : Int) : PaymentIntentEntity where
  id
  idempotencyKeyId := id
  userId := none
  studentId := none
  externalReference := none
  accountReference := "ADM-1"
  transactionDesc := "Fees"
  phoneNumber := "254700000001"
  amountMinor := 500
  currencyCode := mpesaDefaultCurrencyCode
  paymentOwner := .tenant
  mpesaShortCode := none
  paymentChannelType := none
  ledgerDebitAccountCode := none
  ledgerCreditAccountCode := none
  status := .stkRequested
  merchantRequestId := some ("merchant-" ++ id)
  checkoutRequestId := some ("checkout-" ++ id)
  responseCode := none
  responseDescription := none
  customerMessage := none
  ledgerTransactionId := none
  failureReason := none
  stkRequestedAt := none
  expiresAt := none
  metadata := []
  createdAt
  amountPositive := by decide

def sampleCallback (checkoutOf merchantOf : String) (resultCode : Int) : ParsedMpesaCallback where
  merchantRequestId := "merchant-" ++ merchantOf
  checkoutRequestId := "checkout-" ++ checkoutOf
  resultCode
  resultDesc := if resultCode = 0 then "Processed" else "Cancelled by user"
  amountMinor := if resultCode = 0 then some 500 else none
  mpesaReceiptNumber := if resultCode = 0 then some "SFF6XYZ123" else none
  transactionOccurredAt := none
  phoneNumber := none
  metadata := .obj []

def sampleContext (ids : String) : CallbackContext where
  toCallContext := (Finance.samplePosting ids "").context
  callbackLogId := ids
  newMpesaTransactionId := ids
  locked _ := false

def sampleTenant (intents : List PaymentIntentEntity) (distinct : (intents.map (·.id)).Nodup) : TenantDb where
  finance := Finance.FinanceDb.opened Finance.sampleChart
  billing := ⟨.empty, .empty, [], [], []⟩
  payments := ⟨⟨intents, distinct⟩, .empty, []⟩

theorem sampleIntent_alone : ([sampleIntent "a" 0].map (·.id)).Nodup := by
  decide

def samplePaid : TenantDb :=
  performPayment samplePaymentsRuntime (sampleTenant [sampleIntent "a" 0] sampleIntent_alone)
    (.callback (sampleContext "1") (sampleCallback "a" "a" 0))

theorem paid_intent_stays_paid :
    CompletedWith "a" "checkout-a" "1" samplePaid ∧
      (Along (performPayment samplePaymentsRuntime) (CompletedWith "a" "checkout-a" "1") samplePaid
          [.sweep 5000 fun _ => false, .callback (sampleContext "2") (sampleCallback "a" "a" 0)] ↔
        Meets (performPayment samplePaymentsRuntime) NoLateFailure samplePaid
          [.sweep 5000 fun _ => false, .callback (sampleContext "2") (sampleCallback "a" "a" 0)]) :=
  have completed : CompletedWith "a" "checkout-a" "1" samplePaid := by decide +kernel
  ⟨completed, completed_intent_stays_iff samplePaymentsRuntime "a" "checkout-a" "1" samplePaid _
    (by simp [ForCheckout, sampleCallback]) completed⟩

theorem late_failure_undoes_completion :
    CompletedWith "a" "checkout-a" "1" samplePaid ∧
      ¬ CompletedWith "a" "checkout-a" "1" (performPayment samplePaymentsRuntime samplePaid
        (.callback (sampleContext "2") (sampleCallback "a" "a" 1032))) := by
  decide +kernel

end ShuleHub.Payments
