import ShuleHub.Database.RequestTransactions
import ShuleHub.Lib.Effects
import ShuleHub.Payments.CallbackPayloads
import ShuleHub.TenantFinance.MpesaConfigs

/-! `MpesaCallbackController`: a delivery of the gateway, from the request to the job that is to process it. -/

namespace ShuleHub.Payments

open Transaction TenantFinance

inductive CallbackLogStatus where
  | received
  | queued
  | processing
  | processed
  | failed
  | rejected
  | replayed
deriving DecidableEq

structure CallbackLogEntity where
  id : String
  tenantId : String
  merchantRequestId : Option String
  checkoutRequestId : Option String
  mpesaShortCode : Option String
  deliveryId : String
  requestFingerprint : String
  eventTimestamp : Option String
  signature : Option String
  signatureVerified : Bool
  headers : IncomingHttpHeaders
  rawBody : String
  rawPayload : Option Json
  sourceIp : Option String
  processingStatus : CallbackLogStatus
  queueJobId : Option String
  failureReason : Option String
  queuedAt : Option Int
  processedAt : Option Int
  createdAt : Int
  updatedAt : Int
deriving DecidableEq

structure DarajaIntegration where
  id : String
  tenantId : String
  shortcode : Option String
  paybillNumber : Option String
  tillNumber : Option String
  isActive : Bool

/-- An intent with the tenant whose request has made it. -/
structure TenantPaymentIntent where
  tenantId : String
  intent : PaymentIntentEntity
  tenantPresent : tenantId ≠ ""

structure CallbackDb where
  integrations : KeyedTable DarajaIntegration String (·.id)
  finance : TenantFinanceDb
  intents : List TenantPaymentIntent
  callbackLogs : KeyedTable CallbackLogEntity String (·.id)

inductive PaymentJobState where
  | waiting
  | delayed
  | active
  | completed
  | failed
deriving DecidableEq

structure PaymentJob where
  id : String
  tenantId : String
  checkoutRequestId : Json
  callbackLogId : String
  enqueuedAt : String
  state : PaymentJobState

/-- The database, the keys of the replay store that are still there, and the queue. -/
structure CallbackWorld where
  db : CallbackDb
  replayKeys : List String
  jobs : KeyedTable PaymentJob String (·.id)

/-- What the queue does in a request. A job that `add` fails to add may have been added by another request. -/
inductive QueueReply where
  | answers
  | getJobFails (message : String)
  | addFails (message : String) (raced : Option PaymentJobState)
  | getStateFails (message : String)

structure CallbackRequest where
  integrationId : Option String
  contextTenantId : Option String
  headers : IncomingHttpHeaders
  sentBody : Option String
  body : Json
  ip : Option String
  now : Int
  newLogId : String
  replayStoreFailure : Option String
  queueReply : QueueReply

/-- `parameterText` is what the driver makes of a value that is a parameter of a statement, `uuid` is the cast of
a text, and `accepts` is whether the columns can hold the values of a row. -/
structure CallbackRuntime extends SignatureRuntime where
  parameterText : Json → String
  parameterText_str : ∀ text, parameterText (.str text) = text
  uuid : String → Option String
  accepts : CallbackLogEntity → Bool

structure MpesaCallbackResponse where
  accepted : Bool
  duplicate : Bool
  callbackLogId : String
  checkoutRequestId : Json

structure ResolvedCallbackTenant where
  tenantId : String
  shortcode : Option String
deriving DecidableEq

abbrev CallbackAction := Effect CallbackWorld Exception

def TenantPaymentIntent.matchesRequest (checkoutRequestId merchantRequestId : String) (row : TenantPaymentIntent) : Prop :=
  row.intent.checkoutRequestId = some checkoutRequestId ∨ row.intent.merchantRequestId = some merchantRequestId
deriving Decidable

def findTenantIdByPaymentRequest (checkoutRequestId merchantRequestId : String) (db : CallbackDb) : Option String :=
  ((db.intents.filter fun row => row.matchesRequest checkoutRequestId merchantRequestId).insertionSort
    fun first second => second.intent.createdAt ≤ first.intent.createdAt).head?.map (·.tenantId)

section Tenant

variable (runtime : CallbackRuntime) (db : CallbackDb) (payload : Json)

def requestedTenant (parsed : ParsedCallbackPayload) : Option String :=
  findTenantIdByPaymentRequest (runtime.parameterText parsed.checkoutRequestId)
    (runtime.parameterText parsed.merchantRequestId) db

def configuredTenant (fallbackTenantId : Option String) : Option String := do
  let shortcode ← namedShortcode payload
  let tenantId ← readString fallbackTenantId
  let _ ← findMpesaConfigForTenantByShortcode tenantId shortcode db.finance
  return tenantId

def resolveTenantForMpesaCallback (parsed : Option ParsedCallbackPayload)
    (fallbackTenantId : Option String) : Except Exception ResolvedCallbackTenant :=
  match configuredTenant db payload fallbackTenantId <|> parsed.bind (requestedTenant runtime db) <|>
    readString fallbackTenantId with
  | some tenantId => .ok ⟨tenantId, extractShortcode payload⟩
  | none => .error (.badRequest "Unable to resolve tenant for MPESA callback")

def assertCallbackBelongsToTenant (tenantId : String) (payload : Json) (parsed : ParsedCallbackPayload) :
    Except Exception Unit := do
  failIf (∃ shortcode ∈ namedShortcode payload, findMpesaConfigForTenantByShortcode tenantId shortcode db.finance = none)
    (.badRequest ("MPESA callback shortcode \"" ++ (namedShortcode payload).getD "" ++ "\" is not active for tenant \"" ++
      tenantId ++ "\""))
  match requestedTenant runtime db parsed with
  | some owner =>
    failIf (owner ≠ tenantId) (.badRequest
      s!"MPESA callback \"{parsed.checkoutRequestId.toText}\" belongs to tenant \"{owner}\", not \"{tenantId}\"")
  | none => return ()

/-- The row of an integration that is active, from the text of its identifier. -/
def getCredentialsForCallback (integrationId : String) : Except Exception (Option DarajaIntegration) :=
  match runtime.uuid integrationId with
  | some id => .ok ((db.integrations.find id).filter (·.isActive))
  | none => .error (.database "invalid input syntax for type uuid")

def resolveCallbackTenant (parsed : Option ParsedCallbackPayload) (fallbackTenantId : Option String) :
    Option String → Except Exception ResolvedCallbackTenant
  | some integrationId => do
    match ← getCredentialsForCallback runtime db integrationId with
    | none => fail (.unauthorized "Daraja integration is not active")
    | some integration =>
      return ⟨integration.tenantId, integration.shortcode <|> integration.paybillNumber <|> integration.tillNumber⟩
  | none => resolveTenantForMpesaCallback runtime db payload parsed fallbackTenantId

end Tenant

section Log

variable (runtime : CallbackRuntime) (request : CallbackRequest)

def getRawBody : String :=
  match request.sentBody, request.body with
  | some text, _ => text
  | none, .str text => text
  | none, .null => "{}"
  | none, body => String.ofList body.render

def getSourceIp : Option String :=
  match request.headers.get? "x-forwarded-for" with
  | some (.several addresses) => addresses.head?
  | some (.single addresses) =>
    if JsText.trim addresses ≠ "" then some (JsText.trim (String.ofList (addresses.toList.takeWhile (· ≠ ','))))
    else request.ip.filter (· ≠ "")
  | none => request.ip.filter (· ≠ "")

def rawPayload : Json → Option Json
  | .obj fields => some (.obj fields)
  | .arr items => some (.arr items)
  | _ => none

def receivedLog (inspection : CallbackVerificationResult)
    (parsed : Option ParsedCallbackPayload) (signatureVerified : Bool) (resolved : ResolvedCallbackTenant) :
    CallbackLogEntity where
  id := request.newLogId
  tenantId := resolved.tenantId
  merchantRequestId := parsed.map fun parsed => runtime.parameterText parsed.merchantRequestId
  checkoutRequestId := parsed.map fun parsed => runtime.parameterText parsed.checkoutRequestId
  mpesaShortCode := resolved.shortcode
  deliveryId := inspection.deliveryId
  requestFingerprint := inspection.requestFingerprint
  eventTimestamp := inspection.eventTimestamp
  signature := inspection.signature
  signatureVerified
  headers := request.headers
  rawBody := getRawBody request
  rawPayload := rawPayload request.body
  sourceIp := getSourceIp request
  processingStatus := .received
  queueJobId := none
  failureReason := none
  queuedAt := none
  processedAt := none
  createdAt := request.now
  updatedAt := request.now

def insertLog (log : CallbackLogEntity) (db : CallbackDb) : Except Exception CallbackDb := do
  failIf (isBlank log.deliveryId) (.database "ck_callback_logs_delivery_id_not_blank")
  failIf (isBlank log.requestFingerprint) (.database "ck_callback_logs_request_fingerprint_not_blank")
  failIf (runtime.accepts log = false) (.database "invalid input value for callback_logs")
  match db.callbackLogs.tryInsert log with
  | none => fail (.database "callback_logs_pkey")
  | some callbackLogs => return { db with callbackLogs }

def createLog (log : CallbackLogEntity) : CallbackAction Unit := do
  let world ← Effect.current
  let db ← monadLift (insertLog runtime log world.db)
  Effect.write fun world => { world with db }

def ofTenant (tenantId : String) (change : CallbackLogEntity → CallbackLogEntity) (log : CallbackLogEntity) :
    CallbackLogEntity :=
  if log.tenantId = tenantId then change log else log

theorem ofTenant_id (tenantId : String) {change : CallbackLogEntity → CallbackLogEntity}
    (kept : ∀ log, (change log).id = log.id) (log : CallbackLogEntity) : (ofTenant tenantId change log).id = log.id := by
  unfold ofTenant
  split
  · exact kept log
  · rfl

def CallbackDb.updateLog (db : CallbackDb) (tenantId callbackLogId : String)
    (change : CallbackLogEntity → CallbackLogEntity) (kept : ∀ log, (change log).id = log.id) : CallbackDb :=
  { db with callbackLogs := db.callbackLogs.update callbackLogId (ofTenant tenantId change) (ofTenant_id tenantId kept) }

def markStatus (tenantId callbackLogId : String) (change : CallbackLogEntity → CallbackLogEntity)
    (kept : ∀ log, (change log).id = log.id) : CallbackAction Unit :=
  Effect.write fun world => { world with db := world.db.updateLog tenantId callbackLogId change kept }

def queue (now : Int) (queueJobId : String) (log : CallbackLogEntity) : CallbackLogEntity :=
  { log with
    processingStatus := .queued
    queueJobId := some queueJobId
    queuedAt := some now
    failureReason := none
    updatedAt := now }

def settle (now : Int) (status : CallbackLogStatus) (failureReason : Option String) (log : CallbackLogEntity) :
    CallbackLogEntity :=
  { log with processingStatus := status, processedAt := some now, failureReason, updatedAt := now }

variable (now : Int) (tenantId callbackLogId : String)

def markQueued (queueJobId : String) : CallbackAction Unit :=
  markStatus tenantId callbackLogId (queue now queueJobId) fun _ => rfl

def markProcessed : CallbackAction Unit :=
  markStatus tenantId callbackLogId (settle now .processed none) fun _ => rfl

def markFailed (reason : String) : CallbackAction Unit :=
  markStatus tenantId callbackLogId (settle now .failed (some reason)) fun _ => rfl

def markRejected (reason : String) : CallbackAction Unit :=
  markStatus tenantId callbackLogId (settle now .rejected (some reason)) fun _ => rfl

def markReplayed : CallbackAction Unit :=
  markStatus tenantId callbackLogId (settle now .replayed none) fun _ => rfl

end Log

def buildReplayKey (tenantId deliveryId : String) : String := s!"mpesa:replay:{tenantId}:{deliveryId}"

def registerDelivery (request : CallbackRequest) (tenantId deliveryId : String) : CallbackAction Bool := do
  match request.replayStoreFailure with
  | some message => fail (.internal message)
  | none =>
    let world ← Effect.current
    let key := buildReplayKey tenantId deliveryId
    if key ∈ world.replayKeys then return false
    else do
      Effect.write fun world => { world with replayKeys := world.replayKeys ++ [key] }
      return true

def paymentsQueueName : String := "payments"

def buildJobId (tenantId : String) (checkoutRequestId : Json) : String :=
  s!"{paymentsQueueName}:{tenantId}:{checkoutRequestId.toText}"

def isLineEnd (c : Char) : Bool := c.toNat ∈ [0x0a, 0x0d, 0x2028, 0x2029]

def isDuplicateJobError (message : String) : Bool :=
  JsText.includes (lower message) "duplicated" ||
    (lower message).toList.tails.any fun rest =>
      ['j', 'o', 'b'].isPrefixOf rest &&
        JsText.includes (String.ofList ((rest.drop 3).takeWhile fun c => !isLineEnd c)) "exists"

structure EnqueuePaymentJobResult where
  jobId : String
  deduplicated : Bool
  state : PaymentJobState

section Queue

variable (reply : QueueReply)

def getJob (jobId : String) : CallbackAction (Option PaymentJob) := do
  match reply with
  | .getJobFails message => fail (.internal message)
  | _ =>
    let world ← Effect.current
    return world.jobs.find jobId

@[grind =] def addJob (job : PaymentJob) : CallbackAction PaymentJob := do
  match reply with
  | .addFails message raced =>
    (match raced with
    | some state => Effect.write fun world => { world with jobs := world.jobs.put { job with state } }
    | none => return ())
    fail (.internal message)
  | _ =>
    Effect.write fun world => { world with jobs := world.jobs.put job }
    return job

def mapQueueResult (job : PaymentJob) (deduplicated : Bool) : CallbackAction EnqueuePaymentJobResult :=
  match reply with
  | .getStateFails message => fail (.internal message)
  | _ => return { jobId := job.id, deduplicated, state := job.state }

def enqueuePayment (now : Int) (tenantId : String) (checkoutRequestId : Json) (callbackLogId : String) :
    CallbackAction EnqueuePaymentJobResult := do
  let jobId := buildJobId tenantId checkoutRequestId
  match ← getJob reply jobId with
  | some existingJob => mapQueueResult reply existingJob true
  | none =>
    let job : PaymentJob :=
      { id := jobId, tenantId, checkoutRequestId, callbackLogId, enqueuedAt := JsDate.toISOString now, state := .waiting }
    match ← Effect.attempt (addJob reply job) with
    | .ok job => mapQueueResult reply job false
    | .error error =>
      if isDuplicateJobError error.message then
        match ← getJob reply jobId with
        | some duplicatedJob => mapQueueResult reply duplicatedJob true
        | none => fail error
      else fail error

end Queue

def orReject {A : Type} (request : CallbackRequest) (tenantId : String) (check : Except Exception A) :
    CallbackAction A :=
  match check with
  | .ok value => return value
  | .error error => do
    markRejected request.now tenantId request.newLogId error.message
    fail error

section Request

variable (runtime : CallbackRuntime) (request : CallbackRequest)

def assertOwnership (tenantId : String) (parsed : ParsedCallbackPayload) : CallbackAction Unit :=
  match request.integrationId with
  | some _ => return ()
  | none => do
    let world ← Effect.current
    orReject request tenantId (assertCallbackBelongsToTenant runtime world.db tenantId request.body parsed)

def callbackResponse (duplicate : Bool) (parsed : ParsedCallbackPayload) : MpesaCallbackResponse where
  accepted := true
  duplicate
  callbackLogId := request.newLogId
  checkoutRequestId := parsed.checkoutRequestId

def enqueueCallback (tenantId : String) (parsed : ParsedCallbackPayload) : CallbackAction MpesaCallbackResponse := do
  match ← Effect.attempt
      (enqueuePayment request.queueReply request.now tenantId parsed.checkoutRequestId request.newLogId) with
  | .error error => do
    markFailed request.now tenantId request.newLogId error.message
    fail error
  | .ok enqueueResult => do
    (if enqueueResult.deduplicated = true ∧ enqueueResult.state = .completed then
      markProcessed request.now tenantId request.newLogId
    else markQueued request.now tenantId request.newLogId enqueueResult.jobId)
    return callbackResponse request enqueueResult.deduplicated parsed

def acceptCallback (tenantId deliveryId : String) (parsed : ParsedCallbackPayload) :
    CallbackAction MpesaCallbackResponse := do
  let accepted ← registerDelivery request tenantId deliveryId
  if accepted then enqueueCallback request tenantId parsed
  else do
    markReplayed request.now tenantId request.newLogId
    return callbackResponse request true parsed

def handleCallbackInternal : CallbackAction MpesaCallbackResponse := do
  let rawBody := getRawBody request
  let inspection ← monadLift (inspectCallback runtime.toSignatureRuntime rawBody request.headers)
  let payload := parseCallbackPayload request.body
  let signature := verifyCallback runtime.toSignatureRuntime request.now rawBody request.headers inspection
  let world ← Effect.current
  let resolvedTenant ← monadLift
    (resolveCallbackTenant runtime world.db request.body payload.toOption request.contextTenantId request.integrationId)
  let tenantId := resolvedTenant.tenantId
  createLog runtime (receivedLog runtime request inspection payload.toOption signature.isOk resolvedTenant)
  let parsed ← orReject request tenantId (payload.mapError fun error => .badRequest error.message)
  let _ ← orReject request tenantId signature
  assertOwnership runtime request tenantId parsed
  acceptCallback request tenantId inspection.deliveryId parsed

def statusOf : Except Exception MpesaCallbackResponse → Nat
  | .ok _ => 200
  | .error error => error.statusCode

/-- The request with the end of its transaction, which the middleware picks from the status of the response. -/
def deliver (world : CallbackWorld) : CallbackWorld × Except Exception MpesaCallbackResponse :=
  let (after, response) := (handleCallbackInternal runtime request).run world
  if Database.rollsBack (some (statusOf response)) then ({ after with db := world.db }, response)
  else (after, response)

end Request

end ShuleHub.Payments
