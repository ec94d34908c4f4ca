import ShuleHub.Finance.ExpiredKeys
import ShuleHub.Payments.CompletedIntents
import ShuleHub.Payments.IntentRequests

/-! An idempotency key whose time is over, used again for a posting or for a payment. -/

namespace ShuleHub.Payments

open Transaction Idempotency Finance

variable (ids : String) (now : Int)

namespace Mpesa

section Requests

variable {runtime : PaymentsRuntime} {call : MpesaCall} {dto : CreatePaymentIntentDto} {owner : PaymentOwner}
  {record : IdempotencyRecord PaymentIntentResponse} {db : PaymentsDb}

/-- A request that creates an intent of its own, and answers with it. -/
def CreatesAnew (runtime : PaymentsRuntime) (call : MpesaCall) (owner : PaymentOwner) (dto : CreatePaymentIntentDto)
    (db : PaymentsDb) : Prop :=
  (createPaymentIntent runtime call owner dto).Goes db fun response after =>
    ∃ intent ∈ after.intents.rows, after.intents.rows = db.intents.rows ++ [intent] ∧
      intent.id = response.paymentIntentId
deriving Decidable

theorem createsAnew_lapsed_iff
    (lapsed : Lapsed call.now mpesaPaymentIntentScope (JsText.trim dto.idempotencyKey) db.idempotencyKeys record)
    (valid : CreatesAnew runtime call owner dto { db with
      idempotencyKeys := withoutKey mpesaPaymentIntentScope (JsText.trim dto.idempotencyKey) db.idempotencyKeys }) :
    CreatesAnew runtime call owner dto db ↔ ¬ KeyRequested record.id db := by
  constructor
  · rintro ⟨response, after, ran, -⟩
    obtain ⟨phoneNumber, amountMinor, config, locked, keys, -, lock, answered⟩ := createPaymentIntent_ok_iff.mp ran
    rw [lockRequest_lapsed _ lapsed] at lock
    cases lock
    obtain ⟨-, -, unrequested, -⟩ := requestPayment_ok answered
    exact unrequested
  · intro unrequested
    obtain ⟨response, after, ran, -⟩ := valid
    obtain ⟨phoneNumber, amountMinor, config, fresh, keys, read, lock, answered⟩ := createPaymentIntent_ok_iff.mp ran
    obtain rfl := lockRequest_withoutKey lock
    obtain ⟨stk, payable, -, -⟩ := requestPayment_ok answered
    let lock := requestLock runtime.toRuntime call dto phoneNumber amountMinor
    let taken : PaymentsDb := { db with
      idempotencyKeys := updateById record.id (resetExpired call.now lock) db.idempotencyKeys }
    have reset : (Idempotency.lockRequest call.now call.newKeyId lock).run db.idempotencyKeys =
        .ok (resetExpired call.now lock record, taken.idempotencyKeys) := lockRequest_lapsed call.newKeyId lapsed
    have payable : Payable call amountMinor stk taken :=
      ⟨payable.positive, payable.small, payable.newIntent, payable.pushed, payable.newCheckout, payable.newMerchant⟩
    have free : ¬ KeyRequested record.id taken := unrequested
    obtain ⟨response, last, requested⟩ := requestPayment_of_payable runtime dto owner config phoneNumber payable free
    obtain ⟨_, _, -, done⟩ := requestPayment_ok requested
    have ran : (createPaymentIntent runtime call owner dto).run db = .ok (response, last) :=
      createPaymentIntent_ok_iff.mpr ⟨phoneNumber, amountMinor, config, _, _, read, reset, requested⟩
    exact ⟨response, last, ran, _, by simp [done.intents], done.intents,
      congrArg (·.paymentIntentId) done.answers.symm⟩

end Requests

end Mpesa

inductive KeyedRequest where
  | posting (context : CallContext) (input : PostFinancialTransactionInput)
  | payment (call : MpesaCall) (owner : PaymentOwner) (dto : CreatePaymentIntentDto)

namespace KeyedRequest

def Expired (keyId : String) (db : TenantDb) : KeyedRequest → Prop
  | .posting context input => ∃ record ∈ db.finance.idempotencyKeys, record.id = keyId ∧
      Lapsed context.now financeIdempotencyScope (JsText.trim input.idempotencyKey) db.finance.idempotencyKeys record
  | .payment call _ dto => ∃ record ∈ db.payments.idempotencyKeys, record.id = keyId ∧
      Lapsed call.now mpesaPaymentIntentScope (JsText.trim dto.idempotencyKey) db.payments.idempotencyKeys record

instance (keyId : String) (db : TenantDb) : DecidablePred (Expired keyId db)
  | .posting _ _ => inferInstanceAs (Decidable (∃ record ∈ db.finance.idempotencyKeys, record.id = keyId ∧ _))
  | .payment _ _ _ => inferInstanceAs (Decidable (∃ record ∈ db.payments.idempotencyKeys, record.id = keyId ∧ _))

def withoutOwnKey (db : TenantDb) : KeyedRequest → TenantDb
  | .posting _ input => { db with finance := { db.finance with
      idempotencyKeys := withoutKey financeIdempotencyScope (JsText.trim input.idempotencyKey)
        db.finance.idempotencyKeys } }
  | .payment _ _ dto => { db with payments := { db.payments with
      idempotencyKeys := withoutKey mpesaPaymentIntentScope (JsText.trim dto.idempotencyKey)
        db.payments.idempotencyKeys } }

def SucceedsAnew (runtime : PaymentsRuntime) (db : TenantDb) : KeyedRequest → Prop
  | .posting context input => PostsAnew runtime.toRuntime context input db.finance
  | .payment call owner dto => Mpesa.CreatesAnew runtime call owner dto db.payments

def KeyHeld (keyId : String) (db : TenantDb) : KeyedRequest → Prop
  | .posting _ _ => KeyPosted keyId db.finance
  | .payment _ _ _ => Mpesa.KeyRequested keyId db.payments

/-- A request that would go through under an unused key goes through under an expired one exactly when no
transaction or intent points at the row of that key. -/
theorem expired_key_reusable_iff (runtime : PaymentsRuntime) (keyId : String) (db : TenantDb) (request : KeyedRequest)
    (expired : request.Expired keyId db) (valid : request.SucceedsAnew runtime (request.withoutOwnKey db)) :
    request.SucceedsAnew runtime db ↔ ¬ request.KeyHeld keyId db := by
  cases request with
  | posting context input =>
    obtain ⟨record, -, rfl, lapsed⟩ := expired
    exact postsAnew_lapsed_iff lapsed valid
  | payment call owner dto =>
    obtain ⟨record, -, rfl, lapsed⟩ := expired
    exact Mpesa.createsAnew_lapsed_iff lapsed valid

instance (runtime : PaymentsRuntime) (db : TenantDb) : DecidablePred (SucceedsAnew runtime db)
  | .posting context input => inferInstanceAs (Decidable (PostsAnew runtime.toRuntime context input db.finance))
  | .payment call owner dto => inferInstanceAs (Decidable (Mpesa.CreatesAnew runtime call owner dto db.payments))

def perform (runtime : PaymentsRuntime) (db : TenantDb) : KeyedRequest → TenantDb
  | .posting context input => commit (onFinance (postTransaction runtime.toRuntime context input)) db
  | .payment call owner dto => commit (onPayments (Mpesa.createPaymentIntent runtime call owner dto)) db

end KeyedRequest

def lateCall : CallContext := { (samplePosting ids "Fees").context with now }

def receiptRequestUnder (idempotencyKey ids reference : String) (now : Int) : KeyedRequest :=
  .posting (lateCall ids now) { (samplePosting ids "Fees").input with idempotencyKey, reference }

def receiptRequest (ids reference : String) (now : Int) : KeyedRequest :=
  receiptRequestUnder "receipt-1" ids reference now

def samplePush : MpesaCall where
  now
  userId := none
  newKeyId := ids
  newIntentId := ids
  stkReply := .answered true "200" "" (some ⟨"merchant-" ++ ids, "checkout-" ++ ids, some "0", "Accepted", "Check your phone"⟩)

def samplePaymentDto : CreatePaymentIntentDto where
  idempotencyKey := "pay-1"
  amountMinor := "50000"
  phoneNumber := "0712345678"
  studentId := none
  accountReference := "ADM-1"
  transactionDesc := "Fees"
  externalReference := none
  metadata := []

def paymentRequest : KeyedRequest :=
  .payment (samplePush ids now) .tenant samplePaymentDto

def usedOnce : TenantDb :=
  Runs.run (KeyedRequest.perform samplePaymentsRuntime) (sampleTenant [] List.nodup_nil)
    [receiptRequest "a" "RCT-1" 0, paymentRequest "b" 0]

/-- Both keys have expired, and a new receipt and a new payment would go through without them. -/
theorem spent_keys_refuse_new_requests :
    let receipt := receiptRequest "c" "RCT-2" 60000
    let payment := paymentRequest "d" 60000
    (receipt.Expired "a" usedOnce ∧ receipt.SucceedsAnew samplePaymentsRuntime (receipt.withoutOwnKey usedOnce) ∧
      ¬ receipt.SucceedsAnew samplePaymentsRuntime usedOnce) ∧
    payment.Expired "b" usedOnce ∧ payment.SucceedsAnew samplePaymentsRuntime (payment.withoutOwnKey usedOnce) ∧
      ¬ payment.SucceedsAnew samplePaymentsRuntime usedOnce := by
  decide +kernel

/-- A key whose first use found its receipt already posted. -/
theorem key_of_reused_receipt :
    let db := Runs.run (KeyedRequest.perform samplePaymentsRuntime) usedOnce
      [receiptRequestUnder "receipt-2" "e" "RCT-1" 0]
    let receipt := receiptRequestUnder "receipt-2" "f" "RCT-3" 60000
    receipt.SucceedsAnew samplePaymentsRuntime db ↔ ¬ receipt.KeyHeld "e" db :=
  KeyedRequest.expired_key_reusable_iff samplePaymentsRuntime "e" _ _ (by decide +kernel) (by decide +kernel)

end ShuleHub.Payments
