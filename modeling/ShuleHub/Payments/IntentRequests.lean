import ShuleHub.Payments.Mpesa

/-! What a request for a payment needs, and what it leaves behind when it is taken. -/

namespace ShuleHub.Payments.Mpesa

open Transaction Idempotency Finance PaymentIntents KeyedTable

section Requests

variable {runtime : PaymentsRuntime} {call : MpesaCall} {dto : CreatePaymentIntentDto} {owner : PaymentOwner}
  {config : ResolvedMpesaConfig} {keyId phoneNumber : String} {amountMinor : Nat} {stk : StkPushResponse}
  {db after : PaymentsDb} {response : PaymentIntentResponse}

def KeyRequested (keyId : String) (db : PaymentsDb) : Prop :=
  ∃ intent ∈ db.intents.rows, intent.idempotencyKeyId = keyId
deriving Decidable

structure Payable (call : MpesaCall) (amountMinor : Nat) (stk : StkPushResponse) (db : PaymentsDb) : Prop where
  positive : 0 < amountMinor
  small : amountMinor < bigintLimit
  newIntent : ∀ other ∈ db.intents.rows, other.id ≠ call.newIntentId
  pushed : ∀ intent : PaymentIntentEntity, intent.amountMinor = amountMinor → sendStkPush call intent = .ok stk
  newCheckout : ∀ other ∈ db.intents.rows, other.checkoutRequestId ≠ some stk.checkoutRequestId
  newMerchant : ∀ other ∈ db.intents.rows, other.merchantRequestId ≠ some stk.merchantRequestId

def expiry (runtime : PaymentsRuntime) (call : MpesaCall) : Int := call.now + runtime.paymentIntentExpirySeconds * 1000

theorem sendStkPush_congr {first second : PaymentIntentEntity} (same : first.amountMinor = second.amountMinor) :
    sendStkPush call first = sendStkPush call second := by
  simp only [sendStkPush, same]

theorem createPending_ok {intent created : PaymentIntentEntity} :
    (createPending intent).run db = .ok (created, after) ↔
      ¬ KeyRequested intent.idempotencyKeyId db ∧ intent.amountMinor < bigintLimit ∧ created = intent ∧
        ∃ fresh : ∀ other ∈ db.intents.rows, other.id ≠ intent.id,
          after = { db with intents := db.intents.insert intent fresh } := by
  simp only [createPending, run_bind_ok, run_current_ok, run_failIf_ok]
  constructor
  · rintro ⟨_, _, ⟨rfl, rfl⟩, _, _, ⟨unrequested, rfl⟩, _, _, ⟨small, rfl⟩, created⟩
    refine ⟨unrequested, Nat.not_le.mp small, ?_⟩
    split at created
    · cases created
    · next intents inserted =>
      obtain ⟨fresh, rfl⟩ := (tryInsert_eq_some _).mp inserted
      cases created
      exact ⟨rfl, fresh, rfl⟩
  · rintro ⟨unrequested, small, rfl, fresh, rfl⟩
    refine ⟨db, db, ⟨rfl, rfl⟩, (), db, ⟨unrequested, rfl⟩, (), db, ⟨Nat.not_le.mpr small, rfl⟩, ?_⟩
    rw [(tryInsert_eq_some _).mpr ⟨fresh, rfl⟩]
    rfl

theorem markStkRequested_ok {now expiresAt : Int} {id : String} {done : Unit} :
    (markStkRequested id stk now expiresAt).run db = .ok (done, after) ↔
      (∀ other ∈ db.intents.rows, other.id ≠ id → other.checkoutRequestId ≠ some stk.checkoutRequestId ∧
        other.merchantRequestId ≠ some stk.merchantRequestId) ∧
      after = { db with intents := db.intents.update id (requestStk stk now expiresAt) fun _ => rfl } := by
  simp only [markStkRequested, updateIntent, run_bind_ok, run_current_ok, run_failIf_ok, run_write_ok]
  constructor
  · rintro ⟨_, _, ⟨rfl, rfl⟩, _, _, ⟨newCheckout, rfl⟩, _, _, ⟨newMerchant, rfl⟩, rfl⟩
    refine ⟨fun other member differs => ⟨?_, ?_⟩, rfl⟩
    · exact fun same => newCheckout ⟨other, member, differs, same⟩
    · exact fun same => newMerchant ⟨other, member, differs, same⟩
  · rintro ⟨unused, rfl⟩
    refine ⟨db, db, ⟨rfl, rfl⟩, (), db, ⟨?_, rfl⟩, (), db, ⟨?_, rfl⟩, rfl⟩
    · rintro ⟨other, member, differs, same⟩
      exact (unused other member differs).1 same
    · rintro ⟨other, member, differs, same⟩
      exact (unused other member differs).2 same

def requestedIntent (runtime : PaymentsRuntime) (call : MpesaCall) (dto : CreatePaymentIntentDto)
    (owner : PaymentOwner) (config : ResolvedMpesaConfig) (keyId phoneNumber : String) (amountMinor : Nat)
    (positive : 0 < amountMinor) (stk : StkPushResponse) : PaymentIntentEntity :=
  requestStk stk call.now (expiry runtime call)
    (pendingIntent call dto owner config keyId phoneNumber amountMinor positive)

structure Requested (runtime : PaymentsRuntime) (call : MpesaCall) (dto : CreatePaymentIntentDto)
    (owner : PaymentOwner) (config : ResolvedMpesaConfig) (keyId phoneNumber : String) (amountMinor : Nat)
    (positive : 0 < amountMinor) (stk : StkPushResponse) (db after : PaymentsDb) (response : PaymentIntentResponse) :
    Prop where
  intents : after.intents.rows = db.intents.rows ++
    [requestedIntent runtime call dto owner config keyId phoneNumber amountMinor positive stk]
  mpesaTransactions : after.mpesaTransactions = db.mpesaTransactions
  keys : after.idempotencyKeys = updateById keyId (Idempotency.complete call.now 201 response) db.idempotencyKeys
  answers : response =
    toPaymentIntentResponse (requestedIntent runtime call dto owner config keyId phoneNumber amountMinor positive stk)

theorem requestPayment_ok
    (ran : (requestPayment runtime call dto owner config keyId phoneNumber amountMinor).run db =
      .ok (response, after)) :
    ∃ stk, ∃ payable : Payable call amountMinor stk db, ¬ KeyRequested keyId db ∧
      Requested runtime call dto owner config keyId phoneNumber amountMinor payable.positive stk db after response := by
  unfold requestPayment at ran
  split at ran
  · next positive =>
    simp only [onKeys, Idempotency.markCompleted, run_bind_ok, run_lift_ok, createPending_ok, markStkRequested_ok,
      run_zoom_ok, run_write_ok, run_pure_ok] at ran
    obtain ⟨_, _, ⟨unrequested, small, rfl, fresh, rfl⟩, stk, _, ⟨pushed, rfl⟩, _, _, ⟨unused, rfl⟩, _, _,
      ⟨_, rfl, rfl⟩, rfl, rfl⟩ := ran
    have distinct (other : PaymentIntentEntity) (member : other ∈ db.intents.rows) :=
      unused other (mem_insert_of_mem fresh member) (fresh other member)
    have rows : ((db.intents.insert _ fresh).update call.newIntentId (requestStk stk call.now (expiry runtime call))
        fun _ => rfl).rows = db.intents.rows ++
          [requestedIntent runtime call dto owner config keyId phoneNumber amountMinor positive stk] := by
      apply rows_update_insert
    refine ⟨stk, ⟨positive, small, fresh, ?_, ?_, ?_⟩, unrequested, rows, rfl, rfl, rfl⟩
    · exact fun intent same => (sendStkPush_congr (by exact same)).trans pushed
    · exact fun other member => (distinct other member).1
    · exact fun other member => (distinct other member).2
  · cases ran

theorem requestPayment_of_payable (runtime : PaymentsRuntime) (dto : CreatePaymentIntentDto) (owner : PaymentOwner)
    (config : ResolvedMpesaConfig) (phoneNumber : String) (payable : Payable call amountMinor stk db)
    (unrequested : ¬ KeyRequested keyId db) :
    ∃ response after, (requestPayment runtime call dto owner config keyId phoneNumber amountMinor).run db =
      .ok (response, after) := by
  unfold requestPayment
  rw [dif_pos payable.positive]
  simp only [onKeys, Idempotency.markCompleted, run_bind_ok, run_lift_ok, createPending_ok, markStkRequested_ok,
    run_zoom_ok, run_write_ok, run_pure_ok]
  let intent := pendingIntent call dto owner config keyId phoneNumber amountMinor payable.positive
  refine ⟨_, _, intent, _, ⟨unrequested, payable.small, rfl, payable.newIntent, rfl⟩, stk, _,
    ⟨payable.pushed intent rfl, rfl⟩, (), _, ⟨?_, rfl⟩, (), _, ⟨_, rfl, rfl⟩, rfl, rfl⟩
  intro other member differs
  have known : other ∈ db.intents.rows ∨ other = intent :=
    (@mem_insert _ _ _ _ intent other payable.newIntent).mp member
  rcases known with old | rfl
  · exact ⟨payable.newCheckout other old, payable.newMerchant other old⟩
  · exact absurd rfl differs

theorem lockRequest_ok {now : Int} {newId : String} {input : IdempotencyRequestLock}
    {record : IdempotencyRecord PaymentIntentResponse} :
    (lockRequest now newId input).run db = .ok (record, after) ↔
      ∃ keys, (Idempotency.lockRequest now newId input).run db.idempotencyKeys = .ok (record, keys) ∧
        after = { db with idempotencyKeys := keys } := by
  have errors : (lockRequest now newId input).run db = .ok (record, after) ↔
      (onKeys (Idempotency.lockRequest now newId input)).run db = .ok (record, after) := Outcome.mapError_ok
  rw [errors]
  exact run_zoom_ok

structure ReadRequest (runtime : PaymentsRuntime) (owner : PaymentOwner) (dto : CreatePaymentIntentDto)
    (phoneNumber : String) (amountMinor : Nat) (config : ResolvedMpesaConfig) : Prop where
  phone : normalizePhoneNumber dto.phoneNumber = .ok phoneNumber
  amount : normalizeMinorAmount dto.amountMinor = .ok amountMinor
  configured : runtime.resolveMpesaConfig owner = .ok config

theorem createPaymentIntent_ok_iff :
    (createPaymentIntent runtime call owner dto).run db = .ok (response, after) ↔
      ∃ phoneNumber amountMinor config record keys, ReadRequest runtime owner dto phoneNumber amountMinor config ∧
        (Idempotency.lockRequest call.now call.newKeyId
          (requestLock runtime.toRuntime call dto phoneNumber amountMinor)).run db.idempotencyKeys = .ok (record, keys) ∧
        (answerLocked runtime call dto owner config phoneNumber amountMinor record).run
          { db with idempotencyKeys := keys } = .ok (response, after) := by
  simp only [createPaymentIntent, run_bind_ok, run_lift_ok, lockRequest_ok]
  constructor
  · rintro ⟨phoneNumber, _, ⟨phone, rfl⟩, amountMinor, _, ⟨amount, rfl⟩, config, _, ⟨configured, rfl⟩, record, _,
      ⟨keys, locked, rfl⟩, answered⟩
    exact ⟨phoneNumber, amountMinor, config, record, keys, ⟨phone, amount, configured⟩, locked, answered⟩
  · rintro ⟨phoneNumber, amountMinor, config, record, keys, ⟨phone, amount, configured⟩, locked, answered⟩
    exact ⟨phoneNumber, db, ⟨phone, rfl⟩, amountMinor, db, ⟨amount, rfl⟩, config, db, ⟨configured, rfl⟩, record, _,
      ⟨keys, locked, rfl⟩, answered⟩

theorem answerLocked_cases (runtime : PaymentsRuntime) (call : MpesaCall) (dto : CreatePaymentIntentDto)
    (owner : PaymentOwner) (config : ResolvedMpesaConfig) (phoneNumber : String) (amountMinor : Nat)
    (record : IdempotencyRecord PaymentIntentResponse) :
    (∃ stored, record.status = .completed ∧ record.responseBody = some stored ∧
        answerLocked runtime call dto owner config phoneNumber amountMinor record = pure stored) ∨
      (record.status ≠ .completed ∨ record.responseBody = none) ∧
        answerLocked runtime call dto owner config phoneNumber amountMinor record =
          requestPayment runtime call dto owner config record.id phoneNumber amountMinor := by
  unfold answerLocked
  split
  · next stored completed body => exact .inl ⟨stored, completed, body, rfl⟩
  · next unanswered =>
    refine .inr ⟨?_, rfl⟩
    by_cases completed : record.status = .completed
    · cases body : record.responseBody with
      | none => exact .inr rfl
      | some stored => exact (unanswered stored completed body).elim
    · exact .inl completed

end Requests

end ShuleHub.Payments.Mpesa
