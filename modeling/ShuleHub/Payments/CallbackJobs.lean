import ShuleHub.Payments.CallbackDelivery
import ShuleHub.Payments.CallbackProcessor
import ShuleHub.Security.FraudDetection

/-! `processPaymentJob`: the run of a job that processes a callback, from the log of the callback to what is committed,
with the alerts that it raises on its way. -/

namespace ShuleHub.Payments

open Transaction Finance Security

structure CallbackTables where
  tenant : TenantDb
  callbackLogs : KeyedTable CallbackLogEntity String (·.id)

abbrev CallbackStores := Stores (Audited CallbackTables) FraudCounters

abbrev JobAction := AuditedAction CallbackTables

structure PaymentProcessingJobInput where
  tenantId : String
  checkoutRequestId : Option String
  callbackLogId : Option String
  requestId : String
  userId : Option String

structure PaymentJobCall where
  now : Int
  newIdempotencyId : String
  newTransactionId : String
  newEntryId : Nat → String
  newMpesaTransactionId : String
  locked : String → Bool
  counterStoreFailure : Option String

structure PaymentJobRuntime extends PaymentsRuntime, FraudRuntime where
  parseJson : String → Except String Json

namespace CallbackJobs

def onTenantTables {A : Type} (action : Transaction TenantDb Exception A) : JobAction A :=
  Session.query (zoom (·.tables.tenant) (fun db tenant => { db with tables := { db.tables with tenant } }) action)

def onCallbackLogs {A : Type} (action : Transaction (KeyedTable CallbackLogEntity String (·.id)) Exception A) :
    JobAction A :=
  Session.query
    (zoom (·.tables.callbackLogs) (fun db callbackLogs => { db with tables := { db.tables with callbackLogs } }) action)

/-- A payload whose identifiers and description are texts and whose code is an integer, as a callback declares them. -/
def declared (parsed : ParsedCallbackPayload) : Except Exception ParsedMpesaCallback :=
  match parsed.merchantRequestId, parsed.checkoutRequestId, parsed.resultDesc with
  | .str merchantRequestId, .str checkoutRequestId, .str resultDesc =>
    if parsed.resultCode.value.den = 1 then .ok {
      merchantRequestId
      checkoutRequestId
      resultCode := parsed.resultCode.value.num
      resultDesc
      amountMinor := parsed.amountMinor
      mpesaReceiptNumber := parsed.mpesaReceiptNumber
      transactionOccurredAt := parsed.transactionOccurredAt
      phoneNumber := parsed.phoneNumber
      metadata := .obj parsed.metadata }
    else .error (.internal "The result code of a callback is an integer")
  | _, _, _ => .error (.internal "The identifiers of a callback are texts")

section Resolve

variable (runtime : PaymentJobRuntime)

def readCallbackPayload (callbackLog : CallbackLogEntity) : Except Exception ParsedMpesaCallback :=
  match callbackLog.rawPayload with
  | some rawPayload => parseCallbackPayload rawPayload >>= declared
  | none =>
    ((runtime.parseJson callbackLog.rawBody).mapError Exception.badRequest >>= parseCallbackPayload >>= declared).mapError
      fun error : Exception => .badRequest error.message

variable (callbackLogs : KeyedTable CallbackLogEntity String (·.id))

def getRequiredCallbackLog (tenantId callbackLogId : String) : Except Exception CallbackLogEntity :=
  match callbackLogs.rows.find? fun log => log.tenantId = tenantId ∧ log.id = callbackLogId with
  | some callbackLog => .ok callbackLog
  | none => .error (.notFound s!"MPESA callback log \"{callbackLogId}\" was not found")

def getLatestCallbackLogByCheckoutRequestId (tenantId checkoutRequestId : String) : Except Exception CallbackLogEntity :=
  match ((callbackLogs.rows.filter fun log =>
      log.tenantId = tenantId ∧ log.checkoutRequestId = some checkoutRequestId).insertionSort
        fun first second => second.createdAt ≤ first.createdAt).head? with
  | some callbackLog => .ok callbackLog
  | none => .error (.notFound s!"MPESA callback log for checkout request \"{checkoutRequestId}\" was not found")

def requireCheckoutRequestId (checkoutRequestId : Option String) : Except Exception String :=
  match readString checkoutRequestId with
  | some checkoutRequestId => .ok checkoutRequestId
  | none => .error (.badRequest "checkout_request_id is required for payment processing")

def getCallbackLog (job : PaymentProcessingJobInput) : Except Exception CallbackLogEntity :=
  match job.callbackLogId.filter (· ≠ "") with
  | some callbackLogId => getRequiredCallbackLog callbackLogs job.tenantId callbackLogId
  | none =>
    requireCheckoutRequestId job.checkoutRequestId >>= getLatestCallbackLogByCheckoutRequestId callbackLogs job.tenantId

def resolveCallbackLogForProcessing (job : PaymentProcessingJobInput) :
    Except Exception (CallbackLogEntity × ParsedMpesaCallback) := do
  let callbackLog ← getCallbackLog callbackLogs job
  let callback ← readCallbackPayload runtime callbackLog
  failIf (job.checkoutRequestId.any fun checkoutRequestId =>
      checkoutRequestId ≠ "" ∧ callback.checkoutRequestId ≠ checkoutRequestId)
    (.badRequest ("Callback log \"" ++ callbackLog.id ++ "\" does not match checkout request \"" ++
      job.checkoutRequestId.getD "" ++ "\""))
  return (callbackLog, callback)

end Resolve

section Logs

variable (now : Int) (tenantId : String) (checkoutRequestId : String)

def startProcessing (log : CallbackLogEntity) : CallbackLogEntity :=
  { log with processingStatus := .processing, failureReason := none, updatedAt := now }

def markProcessing (callbackLogId : String) : JobAction Unit :=
  onCallbackLogs (write fun callbackLogs => callbackLogs.update callbackLogId
    (ofTenant tenantId (startProcessing now)) (ofTenant_id tenantId fun _ => rfl))

def markFailed (callbackLogId reason : String) : JobAction Unit :=
  onCallbackLogs (write fun callbackLogs => callbackLogs.update callbackLogId
    (ofTenant tenantId (settle now .failed (some reason))) (ofTenant_id tenantId fun _ => rfl))

def conclude (status : CallbackLogStatus) (failureReason : Option String)
    (log : CallbackLogEntity) : CallbackLogEntity :=
  if log.tenantId = tenantId ∧ log.checkoutRequestId = some checkoutRequestId ∧
      log.processingStatus ∉ [.processed, .rejected, .replayed] then
    { log with
      processingStatus := status
      processedAt := log.processedAt <|> some now
      failureReason
      updatedAt := now }
  else log

theorem conclude_id (checkoutRequestId : String) (status : CallbackLogStatus) (failureReason : Option String)
    (log : CallbackLogEntity) : (conclude now tenantId checkoutRequestId status failureReason log).id = log.id := by
  unfold conclude
  split <;> rfl

def markByCheckoutRequestId (status : CallbackLogStatus) (failureReason : Option String) :
    JobAction Unit :=
  onCallbackLogs (write fun callbackLogs => callbackLogs.modify
    (conclude now tenantId checkoutRequestId status failureReason)
    (conclude_id now tenantId checkoutRequestId status failureReason))

def markProcessedByCheckoutRequestId : JobAction Unit :=
  markByCheckoutRequestId now tenantId checkoutRequestId .processed none

def markFailedByCheckoutRequestId (checkoutRequestId reason : String) : JobAction Unit :=
  markByCheckoutRequestId now tenantId checkoutRequestId .failed (some reason)

end Logs

def requestContext (job : PaymentProcessingJobInput) (call : PaymentJobCall) : RequestContext where
  tenantId := some job.tenantId
  userId := job.userId.getD authAnonymousUserId
  requestId := job.requestId
  clientIp := none
  userAgent := some "system:mpesa-callback-processor"
  now := call.now
  counterStoreFailure := call.counterStoreFailure

def callbackContext (job : PaymentProcessingJobInput) (call : PaymentJobCall) (callbackLogId : String) :
    CallbackContext where
  now := call.now
  userId := some (job.userId.getD authAnonymousUserId)
  requestId := some job.requestId
  newIdempotencyId := call.newIdempotencyId
  newTransactionId := call.newTransactionId
  newEntryId := call.newEntryId
  callbackLogId
  newMpesaTransactionId := call.newMpesaTransactionId
  locked := call.locked

def forTenant (runtime : PaymentJobRuntime) (tenantId : String) : PaymentsRuntime :=
  { runtime.toPaymentsRuntime with tenantId }

section Job

variable (runtime : PaymentJobRuntime) (job : PaymentProcessingJobInput) (call : PaymentJobCall)

def callbackMismatch (failureType : MismatchType) (paymentIntent : PaymentIntentEntity) (callback : ParsedMpesaCallback) :
    CallbackMismatch where
  tenantId := job.tenantId
  paymentIntentId := paymentIntent.id
  checkoutRequestId := callback.checkoutRequestId
  failureType
  expectedAmountMinor := paymentIntent.amountMinor
  receivedAmountMinor := callback.amountMinor
  expectedPhoneNumber := paymentIntent.phoneNumber
  receivedPhoneNumber := callback.phoneNumber

def refuse (failureType : MismatchType) (paymentIntent : PaymentIntentEntity) (callback : ParsedMpesaCallback)
    (message : String) : JobAction Unit := do
  recordCallbackMismatch runtime.toFraudRuntime (requestContext job call)
    (callbackMismatch job failureType paymentIntent callback)
  fail (.badRequest message)

def assertCallbackMatchesIntent (paymentIntent : PaymentIntentEntity) (callback : ParsedMpesaCallback) : JobAction Unit :=
  if callback.amountMinor.any fun amount => paymentIntent.amountMinor ≠ amount then
    refuse runtime job call .amountMismatch paymentIntent callback
      ("M-PESA callback amount mismatch for checkout request \"" ++ callback.checkoutRequestId ++ "\"")
  else if callback.phoneNumber.any fun phone => phone ≠ "" && paymentIntent.phoneNumber ≠ phone then
    refuse runtime job call .phoneMismatch paymentIntent callback
      ("M-PESA callback phone number mismatch for checkout request \"" ++ callback.checkoutRequestId ++ "\"")
  else return ()

def processLockedPayment (callbackLog : CallbackLogEntity) (callback : ParsedMpesaCallback) :
    JobAction PaymentJobResult := do
  let context := callbackContext job call callbackLog.id
  let db ← onTenantTables current
  match PaymentIntents.lockByCheckoutOrMerchantRequestId db.payments callback.checkoutRequestId
      callback.merchantRequestId with
  | none =>
    fail (.notFound ("Payment intent for checkout request \"" ++ callback.checkoutRequestId ++ "\" was not found"))
  | some paymentIntent =>
    onTenantTables (receiveCallback paymentIntent)
    let mpesaTransaction ← onTenantTables (onPayments (MpesaTransactions.upsertFromCallback context.now
      context.newMpesaTransactionId paymentIntent.id callbackLog.id callback))
    if callback.status = .failed then
      recordCallbackFailure runtime.toFraudRuntime (requestContext job call) {
        tenantId := job.tenantId
        paymentIntentId := paymentIntent.id
        checkoutRequestId := callback.checkoutRequestId
        reason := callback.resultDesc
        phoneNumber := callback.phoneNumber }
      onTenantTables (onPayments (PaymentIntents.markFailed paymentIntent.id callback.resultDesc))
      return {
        checkoutRequestId := callback.checkoutRequestId
        callbackLogId := callbackLog.id
        paymentIntentId := some paymentIntent.id
        mpesaTransactionId := some mpesaTransaction.id
        ledgerTransactionId := none
        status := .failed
        failureReason := some callback.resultDesc }
    else
      match callback.amountMinor with
      | none => fail (.badRequest ("Successful M-PESA callback \"" ++ callback.checkoutRequestId
          ++ "\" is missing amount metadata"))
      | some amountMinor =>
        assertCallbackMatchesIntent runtime job call paymentIntent callback
        onTenantTables (settlePayment (forTenant runtime job.tenantId) context paymentIntent callback amountMinor
          mpesaTransaction)

def processCallback (callbackLog : CallbackLogEntity) (callback : ParsedMpesaCallback) : JobAction PaymentJobResult := do
  markProcessing call.now job.tenantId callbackLog.id
  let result ← Session.withTransaction (processLockedPayment runtime job call callbackLog callback)
  markProcessedByCheckoutRequestId call.now job.tenantId callback.checkoutRequestId
  return result

def recordFailure (resolvedCheckoutRequestId callbackLogId : Option String) (error : Exception) :
    JobAction PaymentJobResult := do
  (match resolvedCheckoutRequestId.filter (· ≠ ""), callbackLogId.filter (· ≠ "") with
  | some checkoutRequestId, _ => markFailedByCheckoutRequestId call.now job.tenantId checkoutRequestId error.message
  | none, some callbackLogId => markFailed call.now job.tenantId callbackLogId error.message
  | none, none => return ())
  fail error

def processPaymentJobInternal : JobAction PaymentJobResult := do
  let callbackLogs ← onCallbackLogs current
  match resolveCallbackLogForProcessing runtime callbackLogs job with
  | .error error => recordFailure job call job.checkoutRequestId job.callbackLogId error
  | .ok (callbackLog, callback) =>
    match ← Effect.attempt (processCallback runtime job call callbackLog callback) with
    | .ok result => return result
    | .error error => recordFailure job call (some callback.checkoutRequestId) (some callbackLog.id) error

def processPaymentJob : Effect CallbackStores Exception PaymentJobResult :=
  Session.inContext (processPaymentJobInternal runtime job call)

end Job

end CallbackJobs

end ShuleHub.Payments
