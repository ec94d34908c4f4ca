import ShuleHub.Finance.Posting
import ShuleHub.Lib.JsValue
import ShuleHub.Lib.Sessions

/-! `FraudDetectionService`, as far as it watches the callbacks of payments, and the audit log that its alerts go to. -/

namespace ShuleHub.Security

open Finance

variable (Tables : Type)

structure AuditLog where
  tenantId : String
  actorUserId : Option String
  requestId : Option String
  action : String
  resourceType : String
  resourceId : Option String
  ipAddress : Option String
  userAgent : Option String
  metadata : Json
deriving DecidableEq

/-- The tables of a service, with the security events in the audit log beside them. -/
structure Audited where
  tables : Tables
  auditLogs : List AuditLog

structure FraudCounter where
  total : Nat
  expiresAt : Int

abbrev FraudCounters := JsMap String FraudCounter

abbrev AuditedSession := Session (Audited Tables) FraudCounters

abbrev AuditedAction := Effect (AuditedSession Tables) Exception

/-- `acceptsAuditLog` is whether the columns and the foreign key of the audit log take a row. -/
structure FraudRuntime where
  fraudVelocityWindowSeconds : Nat
  fraudCallbackFailureThreshold : ℚ
  acceptsAuditLog : AuditLog → Bool

/-- The request context, with its time and with what its counter store answers if it does not count. -/
structure RequestContext where
  tenantId : Option String
  userId : String
  requestId : String
  clientIp : Option String
  userAgent : Option String
  now : Int
  counterStoreFailure : Option String

structure SecurityEvent where
  tenantId : Option String
  action : String
  resourceType : String
  resourceId : Option String
  metadata : Json

def stars (count : Nat) : List Char := List.replicate count '*'

def maskPhoneNumber (value : Option String) : Option String := do
  let value ← value.filter (· ≠ "")
  let digitsOnly := value.toList.filter Char.isDigit
  if digitsOnly.length ≤ 4 then return String.ofList (stars digitsOnly.length)
  else
    return String.ofList
      (digitsOnly.take 4 ++ stars (digitsOnly.length - 6) ++ digitsOnly.drop (digitsOnly.length - 2))

def resolveActorUserId (userId : String) : Option String :=
  if userId = "" ∨ userId = authAnonymousUserId then none else some userId

section Audit

variable {Tables : Type} (runtime : FraudRuntime) (context : RequestContext) (event : SecurityEvent)

def createAuditLog (log : AuditLog) : Transaction (List AuditLog) Exception Unit := do
  failIf (isBlank log.action) (.database "ck_audit_logs_action_not_blank")
  failIf (isBlank log.resourceType) (.database "ck_audit_logs_resource_type_not_blank")
  failIf (runtime.acceptsAuditLog log = false) (.database "invalid input value for audit_logs")
  Transaction.write (· ++ [log])

def onAuditLogs {A : Type} (action : Transaction (List AuditLog) Exception A) : AuditedAction Tables A :=
  Session.query (Transaction.zoom (·.auditLogs) (fun db auditLogs => { db with auditLogs }) action)

def auditLog (tenantId : String) : AuditLog where
  tenantId
  actorUserId := resolveActorUserId context.userId
  requestId := some context.requestId
  action := event.action
  resourceType := event.resourceType
  resourceId := event.resourceId
  ipAddress := context.clientIp
  userAgent := context.userAgent
  metadata := event.metadata

/-- `AuditLogService.record`, through the client of the request if it has one. -/
def recordSecurityEvent : AuditedAction Tables Unit :=
  match (event.tenantId <|> context.tenantId).filter (· ≠ "") with
  | none => fail (.badRequest "Tenant context is required for audit logging")
  | some tenantId => onAuditLogs (createAuditLog runtime (auditLog context event tenantId))

def emitAlert : AuditedAction Tables Unit := recordSecurityEvent runtime context event

def incrementCounter (key : String) (ttlSeconds : Nat) : Effect FraudCounters Exception Nat :=
  match context.counterStoreFailure with
  | some message => fail (.internal message)
  | none => do
    let counters ← Effect.current
    match (counters.get? key).filter fun counter => context.now < counter.expiresAt with
    | none =>
      Effect.write fun counters => counters.set key ⟨1, context.now + ttlSeconds * 1000⟩
      return 1
    | some counter =>
      Effect.write fun counters => counters.set key { counter with total := counter.total + 1 }
      return counter.total + 1

structure CallbackFailure where
  tenantId : String
  paymentIntentId : String
  checkoutRequestId : String
  reason : String
  phoneNumber : Option String

def callbackFailureKey (input : CallbackFailure) : String :=
  s!"fraud:mpesa:callback-failure:{input.tenantId}:{input.checkoutRequestId}"

def recordCallbackFailure (input : CallbackFailure) : AuditedAction Tables Unit := do
  let counter ← Session.onOutside
    (incrementCounter context (callbackFailureKey input) runtime.fraudVelocityWindowSeconds)
  if runtime.fraudCallbackFailureThreshold ≤ counter then
    emitAlert runtime context {
      tenantId := some input.tenantId
      action := "fraud.mpesa.callback_failures_detected"
      resourceType := "payment_intent"
      resourceId := some input.paymentIntentId
      metadata := .obj [
        ("severity", .str "medium"),
        ("checkout_request_id", .str input.checkoutRequestId),
        ("failure_reason", .str input.reason),
        ("failure_count", .num (JsNumber.ofNat counter)),
        ("phone_number_masked", jsonText (maskPhoneNumber input.phoneNumber))] }
  else return ()

inductive MismatchType where
  | amountMismatch
  | phoneMismatch
deriving DecidableEq

def MismatchType.text : MismatchType → String
  | .amountMismatch => "amount_mismatch"
  | .phoneMismatch => "phone_mismatch"

structure CallbackMismatch where
  tenantId : String
  paymentIntentId : String
  checkoutRequestId : String
  failureType : MismatchType
  expectedAmountMinor : Nat
  receivedAmountMinor : Option Nat
  expectedPhoneNumber : String
  receivedPhoneNumber : Option String

def mismatchAction (failureType : MismatchType) : String := "fraud.mpesa." ++ failureType.text

def mismatchEvent (input : CallbackMismatch) : SecurityEvent where
  tenantId := some input.tenantId
  action := mismatchAction input.failureType
  resourceType := "payment_intent"
  resourceId := some input.paymentIntentId
  metadata := .obj [
    ("severity", .str "high"),
    ("checkout_request_id", .str input.checkoutRequestId),
    ("expected_amount_minor", jsonNat input.expectedAmountMinor),
    ("received_amount_minor", (input.receivedAmountMinor.map jsonNat).getD .null),
    ("expected_phone_number_masked", jsonText (maskPhoneNumber (some input.expectedPhoneNumber))),
    ("received_phone_number_masked", jsonText (maskPhoneNumber input.receivedPhoneNumber))]

def recordCallbackMismatch (input : CallbackMismatch) : AuditedAction Tables Unit :=
  emitAlert runtime context (mismatchEvent input)

end Audit

end ShuleHub.Security
