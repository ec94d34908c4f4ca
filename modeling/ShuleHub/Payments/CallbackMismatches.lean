import ShuleHub.Payments.CallbackJobs
import ShuleHub.Payments.CompletedIntents

/-! What a job leaves of a callback that reports a payment: for the tables of the tenant what the transaction of the
callback commits, and in the audit log no alert. -/

namespace ShuleHub.Payments

open Transaction Security

namespace CallbackJobs

variable {paymentIntent : PaymentIntentEntity} {callback : ParsedMpesaCallback}

/-- The amount or the phone number that the callback names is not that of the intent. -/
def Mismatches (paymentIntent : PaymentIntentEntity) (callback : ParsedMpesaCallback) : Prop :=
  (∃ amount ∈ callback.amountMinor, paymentIntent.amountMinor ≠ amount) ∨
    ∃ phone ∈ callback.phoneNumber, phone ≠ "" ∧ paymentIntent.phoneNumber ≠ phone
deriving Decidable

/-- The tables of the tenant are as before, and the audit log has an alert about the intent that it did not have. -/
structure EvidenceSurvives (before after : Audited CallbackTables) (paymentIntent : PaymentIntentEntity) : Prop where
  unchanged : after.tables.tenant = before.tables.tenant
  recorded : ∃ logs, after.auditLogs = before.auditLogs ++ logs ∧ ∃ log ∈ logs,
    log.resourceId = some paymentIntent.id ∧ ∃ failureType, log.action = mismatchAction failureType

theorem not_survives_of_unchanged {before after : Audited CallbackTables} (same : after.auditLogs = before.auditLogs)
    (paymentIntent : PaymentIntentEntity) : ¬ EvidenceSurvives before after paymentIntent := by
  rintro ⟨-, logs, appended, log, member, -⟩
  rw [same, List.self_eq_append_right] at appended
  rw [appended] at member
  exact absurd member List.not_mem_nil

theorem isPart_tenant : Session.IsPart (fun db : Audited CallbackTables => db.tables.tenant)
    (fun db tenant => { db with tables := { db.tables with tenant } }) :=
  ⟨fun _ _ => rfl, fun _ => rfl, fun _ _ _ => rfl⟩

/-- On the client of a request the action does what the transaction does to the tables of the tenant. -/
abbrev SimulatesTenant {A : Type} (action : JobAction A) (transaction : Transaction TenantDb Exception A) : Prop :=
  Session.Simulates (fun db => db.tables.tenant) (fun db tenant => { db with tables := { db.tables with tenant } })
    action transaction

section Job

variable {runtime : PaymentJobRuntime} {job : PaymentProcessingJobInput} {call : PaymentJobCall}
  {callbackLog : CallbackLogEntity} {callback : ParsedMpesaCallback} {paymentIntent : PaymentIntentEntity}

theorem recordCallbackMismatch_kept (fraud : FraudRuntime) (context : RequestContext) (input : CallbackMismatch)
    (session : AuditedSession CallbackTables) (db : Audited CallbackTables) (opened : session.client = some db) :
    ((recordCallbackMismatch fraud context input).run session).1.committed = session.committed := by
  unfold recordCallbackMismatch emitAlert recordSecurityEvent
  split
  · rfl
  · exact Session.query_of_open _ opened

theorem simulates_refuse (failureType : MismatchType) (message : String) (error : Exception) :
    SimulatesTenant (refuse runtime job call failureType paymentIntent callback message) (fail error) :=
  Session.simulates_refusal (recordCallbackMismatch_kept _ _ _) _ error

theorem simulates_assertCallbackMatchesIntent :
    SimulatesTenant (assertCallbackMatchesIntent runtime job call paymentIntent callback)
      (monadLift (Payments.assertCallbackMatchesIntent paymentIntent callback)) := by
  unfold assertCallbackMatchesIntent Payments.assertCallbackMatchesIntent
  by_cases amount : callback.amountMinor.any fun amount => paymentIntent.amountMinor ≠ amount
  · rw [if_pos amount, failIf, if_pos amount]
    exact simulates_refuse .amountMismatch _ _
  · rw [if_neg amount, failIf, if_neg amount]
    by_cases phone : callback.phoneNumber.any fun phone => phone ≠ "" && paymentIntent.phoneNumber ≠ phone
    · rw [if_pos phone, failIf, if_pos phone]
      exact simulates_refuse .phoneMismatch _ _
    · rw [if_neg phone, failIf, if_neg phone]
      exact Session.simulates_pure isPart_tenant ()

theorem simulates_processLockedPayment (reported : callback.status = .succeeded) :
    SimulatesTenant (processLockedPayment runtime job call callbackLog callback)
      (Payments.processLockedPayment (forTenant runtime job.tenantId) (callbackContext job call callbackLog.id)
        callback) := by
  have unfailed : callback.status ≠ .failed := by
    rw [reported]
    decide
  unfold processLockedPayment Payments.processLockedPayment
  apply Session.simulates_bind isPart_tenant (Session.simulates_query current)
  intro db
  cases PaymentIntents.lockByCheckoutOrMerchantRequestId db.payments callback.checkoutRequestId
    callback.merchantRequestId with
  | none => exact Session.simulates_fail _ _
  | some paymentIntent =>
    apply Session.simulates_bind isPart_tenant (Session.simulates_query (receiveCallback paymentIntent))
    intro _
    apply Session.simulates_bind isPart_tenant (Session.simulates_query _)
    intro mpesaTransaction
    rw [if_neg unfailed, if_neg unfailed]
    cases callback.amountMinor with
    | none => exact Session.simulates_fail _ _
    | some amountMinor =>
      apply Session.simulates_bind isPart_tenant simulates_assertCallbackMatchesIntent
      intro _
      exact Session.simulates_query _

structure Leaves (tenant : TenantDb) (auditLogs : List AuditLog) (session : AuditedSession CallbackTables) : Prop where
  tenant : session.committed.tables.tenant = tenant
  auditLogs : session.committed.auditLogs = auditLogs
  idle : session.client = none

section Leaves

variable {tenant : TenantDb} {auditLogs : List AuditLog} {session : AuditedSession CallbackTables}

theorem Leaves.onCallbackLogs {A : Type} (leaves : Leaves tenant auditLogs session)
    (action : Transaction (KeyedTable CallbackLogEntity String (·.id)) Exception A) :
    Leaves tenant auditLogs ((onCallbackLogs action).run session).1 := by
  have kept := Session.query_of_idle (fun db : Audited CallbackTables => (db.tables.tenant, db.auditLogs))
    (zoom (·.tables.callbackLogs) (fun db callbackLogs => { db with tables := { db.tables with callbackLogs } }) action)
    (by
      intro db result after ran
      obtain ⟨_, _, rfl⟩ := run_zoom_ok.mp ran
      rfl) leaves.idle
  have same := Prod.mk.inj kept.1
  exact ⟨same.1.trans leaves.tenant, same.2.trans leaves.auditLogs, kept.2⟩

theorem run_readCallbackLogs (idle : session.client = none) :
    (onCallbackLogs current).run session = (session, .ok session.committed.tables.callbackLogs) := by
  obtain ⟨⟨committed, outside⟩, client⟩ := session
  subst idle
  rfl

theorem run_markProcessing (idle : session.client = none) (now : Int) (tenantId callbackLogId : String) :
    ((markProcessing now tenantId callbackLogId).run session).2 = .ok () := by
  obtain ⟨⟨committed, outside⟩, client⟩ := session
  subst idle
  rfl

theorem Leaves.recordFailure (leaves : Leaves tenant auditLogs session)
    (checkoutRequestId callbackLogId : Option String) (error : Exception) :
    Leaves tenant auditLogs ((recordFailure job call checkoutRequestId callbackLogId error).run session).1 := by
  unfold CallbackJobs.recordFailure
  apply Effect.state_bind
  · split
    · exact leaves.onCallbackLogs _
    · exact leaves.onCallbackLogs _
    · exact leaves
  · intro _ middle left
    exact left

end Leaves

def paid (runtime : PaymentJobRuntime) (job : PaymentProcessingJobInput) (call : PaymentJobCall)
    (callbackLog : CallbackLogEntity) (callback : ParsedMpesaCallback) (tenant : TenantDb) : TenantDb :=
  performPayment (forTenant runtime job.tenantId) tenant
    (.callback (callbackContext job call callbackLog.id) callback)

theorem processCallback_leaves {session : AuditedSession CallbackTables} {tenant : TenantDb} {auditLogs : List AuditLog}
    (reported : callback.status = .succeeded) (leaves : Leaves tenant auditLogs session) :
    Leaves (paid runtime job call callbackLog callback tenant) auditLogs
      ((processCallback runtime job call callbackLog callback).run session).1 := by
  unfold processCallback
  have marked : Leaves tenant auditLogs ((markProcessing call.now job.tenantId callbackLog.id).run session).1 :=
    leaves.onCallbackLogs _
  rcases ran : (markProcessing call.now job.tenantId callbackLog.id).run session with ⟨middle, result⟩
  have succeeded := run_markProcessing leaves.idle call.now job.tenantId callbackLog.id
  rw [ran] at marked succeeded
  subst succeeded
  rw [Effect.run_bind_of_ok ran]
  apply Effect.state_bind
  · have simulates : SimulatesTenant (processLockedPayment runtime job call callbackLog callback) _ :=
      simulates_processLockedPayment reported
    obtain ⟨committed, idle⟩ := Session.run_withTransaction isPart_tenant simulates marked.idle
    refine ⟨?_, ?_, idle⟩
    · rw [committed, marked.tenant]
      rfl
    · rw [committed]
      exact marked.auditLogs
  · intro result processed settled
    exact Effect.state_bind (settled.onCallbackLogs _) fun _ _ done => done

theorem processPaymentJob_commits (call : PaymentJobCall) {before : CallbackStores}
    (resolved : resolveCallbackLogForProcessing runtime before.committed.tables.callbackLogs job =
      .ok (callbackLog, callback)) (reported : callback.status = .succeeded) :
    ((processPaymentJob runtime job call).run before).1.committed.tables.tenant =
        paid runtime job call callbackLog callback before.committed.tables.tenant ∧
      ((processPaymentJob runtime job call).run before).1.committed.auditLogs = before.committed.auditLogs := by
  have leaves : Leaves (paid runtime job call callbackLog callback before.committed.tables.tenant)
      before.committed.auditLogs
      ((processPaymentJobInternal runtime job call).run { before with client := none }).1 := by
    unfold processPaymentJobInternal
    rw [Effect.run_bind_of_ok (run_readCallbackLogs rfl)]
    simp only [resolved]
    apply Effect.state_bind
    · exact processCallback_leaves reported ⟨rfl, rfl, rfl⟩
    · intro outcome middle left
      cases outcome with
      | ok result => exact left
      | error error => exact left.recordFailure _ _ error
  exact ⟨leaves.tenant, leaves.auditLogs⟩

end Job

theorem assertCallbackMatchesIntent_ok_iff :
    Payments.assertCallbackMatchesIntent paymentIntent callback = .ok () ↔ ¬ Mismatches paymentIntent callback := by
  simp only [Payments.assertCallbackMatchesIntent, Outcome.bind_ok, Outcome.failIf_ok, Mismatches, Option.any_eq_true,
    decide_eq_true_eq, Bool.and_eq_true, exists_const, Option.mem_def, not_or]

theorem commit_of_mismatches {runtime : PaymentsRuntime} {context : CallbackContext} {db : TenantDb}
    (locked : PaymentIntents.lockByCheckoutOrMerchantRequestId db.payments callback.checkoutRequestId
      callback.merchantRequestId = some paymentIntent) (reported : callback.status = .succeeded)
    (mismatch : Mismatches paymentIntent callback) :
    commit (Payments.processLockedPayment runtime context callback) db = db := by
  cases ran : (Payments.processLockedPayment runtime context callback).run db with
  | error error => exact commit_of_error ran
  | ok outcome =>
    obtain ⟨result, after⟩ := outcome
    have unfailed : callback.status ≠ .failed := by
      rw [reported]
      decide
    simp only [Payments.processLockedPayment, run_bind_ok, run_current_ok] at ran
    obtain ⟨_, _, ⟨rfl, rfl⟩, ran⟩ := ran
    simp only [locked, if_neg unfailed, run_bind_ok] at ran
    obtain ⟨_, _, _, _, _, _, ran⟩ := ran
    split at ran
    · exact absurd ran run_fail_ok
    · simp only [run_bind_ok, run_lift_ok] at ran
      obtain ⟨_, _, ⟨matching, _⟩, _⟩ := ran
      exact absurd mismatch (assertCallbackMatchesIntent_ok_iff.mp matching)

def sampleJobRuntime : PaymentJobRuntime where
  toPaymentsRuntime := samplePaymentsRuntime
  fraudVelocityWindowSeconds := 900
  fraudCallbackFailureThreshold := 3
  acceptsAuditLog _ := true
  parseJson _ := .error "Unexpected end of JSON input"

def sampleJob : PaymentProcessingJobInput where
  tenantId := "greenfield"
  checkoutRequestId := some "checkout-a"
  callbackLogId := some "1"
  requestId := "req-1"
  userId := none

def sampleJobCall : PaymentJobCall where
  now := 1000
  newIdempotencyId := "1"
  newTransactionId := "1"
  newEntryId _ := "1"
  newMpesaTransactionId := "1"
  locked _ := false
  counterStoreFailure := none

def overpaidPayload : Json :=
  .obj [("Body", .obj [("stkCallback", .obj [
    ("MerchantRequestID", .str "merchant-a"),
    ("CheckoutRequestID", .str "checkout-a"),
    ("ResultCode", .num (JsNumber.ofNat 0)),
    ("ResultDesc", .str "Processed"),
    ("CallbackMetadata", .obj [("Item", .arr [
      .obj [("Name", .str "Amount"), ("Value", .num (JsNumber.ofNat 9))]])])])])]

def overpaidCallback : ParsedMpesaCallback :=
  { sampleCallback "a" "a" 0 with
    amountMinor := some 900
    mpesaReceiptNumber := none
    metadata := .obj [("Amount", .num (JsNumber.ofNat 9))] }

def overpaidLog : CallbackLogEntity where
  id := "1"
  tenantId := "greenfield"
  merchantRequestId := some "merchant-a"
  checkoutRequestId := some "checkout-a"
  mpesaShortCode := some "174379"
  deliveryId := "delivery-1"
  requestFingerprint := "9f86d081"
  eventTimestamp := none
  signature := none
  signatureVerified := true
  headers := []
  rawBody := "{}"
  rawPayload := some overpaidPayload
  sourceIp := none
  processingStatus := .queued
  queueJobId := some "payments:greenfield:checkout-a"
  failureReason := none
  queuedAt := some 900
  processedAt := none
  createdAt := 900
  updatedAt := 900

def overpaidStores : CallbackStores where
  committed := ⟨⟨sampleTenant [sampleIntent "a" 0] sampleIntent_alone, ⟨[overpaidLog], by decide⟩⟩, []⟩
  outside := []

/-- The rollback that the refusal of a callback causes takes its alert with it: whatever the callback and the intent,
the tables of the tenant are as before, and so are the alerts in the audit log. -/
theorem mismatch_leaves_no_evidence (runtime : PaymentJobRuntime) (job : PaymentProcessingJobInput)
    (call : PaymentJobCall) (before : CallbackStores) (callbackLog : CallbackLogEntity) (callback : ParsedMpesaCallback)
    (paymentIntent : PaymentIntentEntity)
    (resolved : resolveCallbackLogForProcessing runtime before.committed.tables.callbackLogs job =
      .ok (callbackLog, callback))
    (reported : callback.status = .succeeded)
    (locked : PaymentIntents.lockByCheckoutOrMerchantRequestId before.committed.tables.tenant.payments
      callback.checkoutRequestId callback.merchantRequestId = some paymentIntent)
    (mismatch : Mismatches paymentIntent callback) :
    ((processPaymentJob runtime job call).run before).1.committed.tables.tenant = before.committed.tables.tenant ∧
      ((processPaymentJob runtime job call).run before).1.committed.auditLogs = before.committed.auditLogs ∧
      ¬ EvidenceSurvives before.committed ((processPaymentJob runtime job call).run before).1.committed
        paymentIntent := by
  obtain ⟨tenant, auditLogs⟩ := processPaymentJob_commits call resolved reported
  have unpaid : paid runtime job call callbackLog callback before.committed.tables.tenant =
      before.committed.tables.tenant := commit_of_mismatches locked reported mismatch
  exact ⟨tenant.trans unpaid, auditLogs, not_survives_of_unchanged auditLogs paymentIntent⟩

theorem overpaid_job_fails :
    ((processPaymentJob sampleJobRuntime sampleJob sampleJobCall).run overpaidStores).1.committed.tables.tenant =
        overpaidStores.committed.tables.tenant ∧
      ((processPaymentJob sampleJobRuntime sampleJob sampleJobCall).run overpaidStores).1.committed.auditLogs =
        overpaidStores.committed.auditLogs ∧
      ¬ EvidenceSurvives overpaidStores.committed
        ((processPaymentJob sampleJobRuntime sampleJob sampleJobCall).run overpaidStores).1.committed
        (sampleIntent "a" 0) :=
  mismatch_leaves_no_evidence sampleJobRuntime sampleJob sampleJobCall overpaidStores overpaidLog overpaidCallback
    (sampleIntent "a" 0) (by decide +kernel) (by decide) (by decide) (by decide)

/-- The callback names nine shillings where the intent is about five, and the audit log stays empty. -/
theorem overpaid_callback_leaves_no_alert :
    resolveCallbackLogForProcessing sampleJobRuntime overpaidStores.committed.tables.callbackLogs sampleJob =
        .ok (overpaidLog, overpaidCallback) ∧
      overpaidCallback.status = .succeeded ∧
      PaymentIntents.lockByCheckoutOrMerchantRequestId overpaidStores.committed.tables.tenant.payments
        overpaidCallback.checkoutRequestId overpaidCallback.merchantRequestId = some (sampleIntent "a" 0) ∧
      Mismatches (sampleIntent "a" 0) overpaidCallback ∧
      ¬ EvidenceSurvives overpaidStores.committed
        ((processPaymentJob sampleJobRuntime sampleJob sampleJobCall).run overpaidStores).1.committed
        (sampleIntent "a" 0) := by
  refine ⟨by decide +kernel, by decide, by decide, by decide, ?_⟩
  apply not_survives_of_unchanged
  decide +kernel

end CallbackJobs

end ShuleHub.Payments
