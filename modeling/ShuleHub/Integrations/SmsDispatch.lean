import ShuleHub.Auth.EmailOutbox
import ShuleHub.Database.RequestTransactions
import ShuleHub.Integrations.PlatformSms
import ShuleHub.Integrations.SmsWallet
import ShuleHub.Lib.JsValue
import ShuleHub.Runtime

/-! A message that a school sends: its credits are reserved, the provider is called, and the log is marked, in the
transaction of one request. -/

namespace ShuleHub.Integrations

open Auth.Mailing (transactionAborted)
open Security (Iv PiiEncryptionService)

inductive SmsDispatchReadinessStatus where
  | configured
  | missingProvider
  | missingCredentials
  | degraded
deriving DecidableEq

inductive ProviderRequestBody where
  | form (fields : List (String × String))
  | json (value : Json)
deriving DecidableEq

structure ProviderRequest where
  url : String
  headers : List (String × String)
  body : ProviderRequestBody

/-- What comes of a request to the provider: no response, whether or not the provider has taken the message, or a status
and a body that may break off. -/
inductive ProviderAnswer where
  | unanswered (message : String) (taken : Bool)
  | answered (status : Nat) (text : Except String String)

def isOk (status : Nat) : Bool := 200 ≤ status && status ≤ 299

def ProviderAnswer.accepts : ProviderAnswer → Bool
  | .unanswered _ taken => taken
  | .answered status _ => isOk status

structure SmsDispatchInput where
  tenantId : Option String
  recipient : String
  message : String
  source : String

structure SmsDispatchResult where
  providerId : String
  providerCode : SmsProviderCode
  providerMessageId : Option String

def isMissing (value : String) : Bool := JsText.trim value = ""

def getMissingDispatchFields (dispatchProvider : DispatchProvider) : List String :=
  (if isMissing dispatchProvider.apiKey then ["api_key"] else []) ++
    (if isMissing dispatchProvider.provider.senderId then ["sender_id"] else []) ++
    (if dispatchProvider.provider.baseUrl.all isMissing then ["base_url"] else []) ++
    (if dispatchProvider.provider.providerCode = .africasTalking ∧ dispatchProvider.username.all isMissing = true then
      ["username"] else [])

def readinessStatus (dispatchProvider : Option DispatchProvider) : SmsDispatchReadinessStatus :=
  match dispatchProvider with
  | none => .missingProvider
  | some dispatchProvider =>
    if getMissingDispatchFields dispatchProvider ≠ [] then .missingCredentials
    else if dispatchProvider.provider.lastTestStatus = some "failed" then .degraded
    else .configured

def buildProviderRequest (dispatchProvider : DispatchProvider) (url : String) (input : SmsDispatchInput) :
    ProviderRequest :=
  let message := JsText.trim input.message
  let recipient := JsText.trim input.recipient
  let senderId := JsText.trim dispatchProvider.provider.senderId
  match dispatchProvider.provider.providerCode with
  | .africasTalking => {
      url
      headers := [("Accept", "application/json"), ("Content-Type", "application/x-www-form-urlencoded"),
        ("apiKey", dispatchProvider.apiKey)]
      body := .form ([("username", dispatchProvider.username.getD "sandbox"), ("to", recipient),
        ("message", message)] ++ if senderId = "" then [] else [("from", senderId)]) }
  | .twilio => {
      url
      headers := [("Accept", "application/json"), ("Content-Type", "application/x-www-form-urlencoded"),
        ("Authorization", "Basic " ++ String.ofList (Base64.encode (JsText.utf8
          (dispatchProvider.username.getD dispatchProvider.provider.senderId ++ ":" ++
            dispatchProvider.apiKey).toList)))]
      body := .form [("To", recipient), ("From", senderId), ("Body", message)] }
  | .textsmsKenya => {
      url
      headers := [("Accept", "application/json"), ("Content-Type", "application/json"),
        ("Authorization", "Bearer " ++ dispatchProvider.apiKey)]
      body := .json (.obj [("to", .str recipient), ("message", .str message), ("sender_id", .str senderId),
        ("tenant_id", jsonText input.tenantId), ("source", .str input.source), ("metadata", .obj [])]) }

def firstProperty (names : List String) (value : Json) : Option Json :=
  names.findSome? fun name => (value.property name).filter (· ≠ .null)

def presentText : Option Json → Option String
  | some (.str text) => if JsText.trim text = "" then none else some text
  | _ => none

def extractProviderMessageId (payload : Json) : Option String :=
  (presentText (firstProperty ["message_id", "messageId", "id"] payload)).or
    (match (payload.property "SMSMessageData").bind (Json.property "Recipients") with
    | some (.arr (first :: _)) => presentText (firstProperty ["messageId", "message_id"] first)
    | _ => none)

structure SentColumns where
  logId : String
  providerId : Option String
  providerMessageId : String

structure SmsTables where
  sms : SmsDb
  sentColumns : KeyedTable SentColumns String (·.logId)

abbrev SmsRequest := Effect (OpenTransaction SmsTables (List ProviderRequest)) Exception

structure SendSmsDto where
  recipient : String
  message : String
  messageType : Option String

inductive SmsStatement where
  | readProviderFirst
  | reserveSmsCredits
  | readProvider
  | markSmsLogSent
  | markSmsLogFailed
  | refundSmsCredits
deriving DecidableEq

/-- The services under `SchoolSmsWalletService`, some of which may be missing, and `JSON.parse`. -/
structure SmsServices where
  platform : PlatformSmsRuntime
  encryption : Option PiiEncryptionService
  sha256 : String → String
  parseJson : String → Option Json
  hasPlatformSms : Bool
  hasDispatch : Bool

/-- A request to send a message, and all that it meets: the ids and the bytes that are drawn, the providers that it
finds each time it reads them, the statements that fail, the answer of the provider, and a client that goes away before
the response is finished. -/
structure SmsCall where
  tenantId : Option String
  userId : Option String
  dto : SendSmsDto
  logId : String
  recipientIv : Iv
  messageIv : Iv
  providersFirst : PlatformSmsDb
  providers : PlatformSmsDb
  fails : SmsStatement → Bool
  answer : ProviderAnswer
  closed : Bool

inductive SendStatus where
  | sent
  | queued
deriving DecidableEq

structure SendSmsResponse where
  status : SendStatus
  logId : String
  balanceAfter : Int
  creditCost : Nat
  lowBalance : Bool

namespace SmsSending

open Transaction SmsWallet

section Requests

variable (services : SmsServices) (call : SmsCall) (tenantId logId : String)

def query {Result : Type} (kind : SmsStatement) (statement : Transaction SmsTables Exception Result) :
    SmsRequest Result :=
  OpenTransaction.query transactionAborted
    (if call.fails kind then fail (.database "connection") else statement)

def onSms {Result : Type} (action : Transaction SmsDb Exception Result) : Transaction SmsTables Exception Result :=
  zoom (·.sms) (fun tables sms => { tables with sms }) action

def getDispatchProvider (kind : SmsStatement) (providers : PlatformSmsDb) : SmsRequest (Option DispatchProvider) := do
  query call kind (pure ())
  monadLift (getDefaultProviderForDispatch services.platform providers)

def readResponsePayload (text : String) : Json :=
  if JsText.trim text = "" then .null else (services.parseJson text).getD (.str text)

def callProvider (dispatchProvider : DispatchProvider) (input : SmsDispatchInput) : SmsRequest Json := do
  let url := JsText.trim (dispatchProvider.provider.baseUrl.getD "")
  failIf (url = "") (.serviceUnavailable "Platform SMS provider endpoint is not configured")
  OpenTransaction.onOutside (· ++ if call.answer.accepts then [buildProviderRequest dispatchProvider url input] else [])
  match call.answer with
  | .unanswered message _ => fail (.internal message)
  | .answered status text => do
    failIf (isOk status = false) (.serviceUnavailable s!"SMS provider returned {status}")
    let text ← monadLift (text.mapError Exception.internal)
    return readResponsePayload services text

def send (input : SmsDispatchInput) : SmsRequest SmsDispatchResult := do
  match ← getDispatchProvider services call .readProvider call.providers with
  | none => fail (.serviceUnavailable "No active platform SMS provider is configured")
  | some dispatchProvider => do
    let missing := String.intercalate ", " (getMissingDispatchFields dispatchProvider)
    failIf (getMissingDispatchFields dispatchProvider ≠ [])
      (.serviceUnavailable s!"Platform SMS provider is missing {missing}")
    let payload ← callProvider services call dispatchProvider input
    return {
      providerId := dispatchProvider.provider.id
      providerCode := dispatchProvider.provider.providerCode
      providerMessageId := extractProviderMessageId payload }

def calculateCreditCost (message : String) : Nat :=
  let length := (Json.utf16Units (JsText.trim message)).length
  if length ≤ 160 then 1 else (length + 152) / 153

def digitsOf (value : String) : List Char := value.toList.filter Char.isDigit

def last4 (value : String) : Option String :=
  if digitsOf value = [] then none
  else some (String.ofList ((digitsOf value).drop ((digitsOf value).length - 4)))

/-- The first units of a text; half of a character is stored as the replacement character. -/
@[grind =] def unitPrefix : Nat → List Char → List Char
  | 0, _ => []
  | _, [] => []
  | limit + 1, c :: rest =>
    if c.toNat < 0x10000 then c :: unitPrefix limit rest
    else
      match limit with
      | 0 => [Char.ofNat 0xfffd]
      | limit + 1 => c :: unitPrefix limit rest

def preview (message : String) : String :=
  String.ofList (unitPrefix 120 (JsText.replaceRuns (fun c => !JsText.isSpace c) ' ' false message.toList))

def encrypt (value aad : String) (iv : Iv) : String :=
  match services.encryption with
  | none => value
  | some encryption => encryption.encrypt value (some aad) iv

def textOr (value : Option String) (fallback : String) : String := (trimmed value).getD fallback

def actorUserId : Option String := call.userId.filter fun userId => userId ≠ "" ∧ userId ≠ "anonymous"

def recipient : String := JsText.trim call.dto.recipient

def message : String := JsText.trim call.dto.message

def creditCost : Nat := calculateCreditCost (message call)

def reservation (tenantId : String) : ReserveSmsCreditsInput where
  tenantId
  recipientCiphertext := encrypt services (recipient call) ("sms:" ++ tenantId ++ ":recipient") call.recipientIv
  recipientLast4 := last4 (recipient call)
  recipientHash := services.sha256 (String.ofList (digitsOf (recipient call)))
  messageCiphertext := some (encrypt services (message call) ("sms:" ++ tenantId ++ ":message") call.messageIv)
  messagePreview := some (preview (message call))
  messageType := some (textOr call.dto.messageType "general")
  creditCost := creditCost call
  sentByUserId := actorUserId call

def describeSmsReadinessFailure : SmsDispatchReadinessStatus → String
  | .missingProvider => "SMS provider is not configured by the platform owner"
  | .missingCredentials => "SMS provider credentials are incomplete"
  | .degraded => "SMS provider is degraded. Try again after support confirms delivery is healthy"
  | .configured => "SMS provider is not ready"

def withStatus (status : SmsLogStatus) (failureReason : SmsLog → Option String)
    (log : SmsLog) : SmsLog :=
  if log.tenantId = tenantId ∧ log.id = logId then { log with status, failureReason := failureReason log } else log

theorem withStatus_id (tenantId logId : String) (status : SmsLogStatus) (failureReason : SmsLog → Option String)
    (log : SmsLog) : (withStatus tenantId logId status failureReason log).id = log.id := by
  unfold withStatus
  split <;> rfl

def markSmsLogSent (columns : SentColumns) : Transaction SmsTables Exception Unit :=
  write fun tables => { tables with
    sms := { tables.sms with
      logs := tables.sms.logs.modify (withStatus tenantId logId .sent (·.failureReason)) (withStatus_id _ _ _ _) }
    sentColumns := tables.sentColumns.put columns }

def markSmsLogFailed (tenantId logId failureReason : String) : Transaction SmsTables Exception Unit :=
  write fun tables => { tables with
    sms := { tables.sms with
      logs := tables.sms.logs.modify (withStatus tenantId logId .failed fun _ => some failureReason)
        (withStatus_id _ _ _ _) } }

def dispatch : SmsRequest Unit := do
  let result ← send services call {
    tenantId := some tenantId
    recipient := recipient call
    message := message call
    source := textOr call.dto.messageType "school_sms" }
  query call .markSmsLogSent (markSmsLogSent tenantId logId {
    logId
    providerId := some result.providerId
    providerMessageId := result.providerMessageId.getD (result.providerCode.text ++ ":" ++ logId) })

def giveBack (error : Exception) : SmsRequest Unit := do
  query call .markSmsLogFailed (markSmsLogFailed tenantId logId error.message)
  query call .refundSmsCredits (onSms (refundSmsCredits {
    tenantId
    logId
    creditCost := creditCost call
    reason := "sms_dispatch_failed"
    actorUserId := actorUserId call }))
  fail (.badRequest "SMS provider could not send the message. Credits were not used.")

def dispatchOrGiveBack : SmsRequest SendStatus := do
  match ← Effect.attempt (dispatch services call tenantId logId) with
  | .ok () => return .sent
  | .error error => do
    giveBack call tenantId logId error
    return .queued

def markUndispatched : SmsRequest SendStatus := do
  let provider ← (if services.hasPlatformSms then getDispatchProvider services call .readProvider call.providers
    else pure none)
  query call .markSmsLogSent (markSmsLogSent tenantId logId {
    logId
    providerId := provider.map (·.provider.id)
    providerMessageId := match provider with
      | some provider => provider.provider.providerCode.text ++ ":" ++ logId
      | none => "local:" ++ logId })
  return if provider.isSome then .sent else .queued

def assertReady : SmsRequest Unit := do
  if services.hasDispatch then
    let dispatchProvider ← getDispatchProvider services call .readProviderFirst call.providersFirst
    failIf (readinessStatus dispatchProvider ≠ .configured)
      (.badRequest (describeSmsReadinessFailure (readinessStatus dispatchProvider)))

def reserveCredits (tenantId : String) : SmsRequest ReservedSmsCredits :=
  query call .reserveSmsCredits (onSms (reserveSmsCreditsInTransaction (reservation services call tenantId) call.logId))

def requireTenantId : Except Exception String :=
  match call.tenantId.filter (· ≠ "") with
  | some tenantId => .ok tenantId
  | none => .error (.unauthorized "Tenant context is required for SMS operations")

def sendSms : SmsRequest SendSmsResponse := do
  let tenantId ← monadLift (requireTenantId call)
  assertReady services call
  let reserved ← reserveCredits services call tenantId
  failIf (reserved.accepted = false) (.badRequest (reserved.reason.getD "SMS balance exhausted"))
  let status ← (if services.hasDispatch then dispatchOrGiveBack services call tenantId reserved.logId
    else markUndispatched services call tenantId reserved.logId)
  return {
    status
    logId := reserved.logId
    balanceAfter := reserved.balanceAfter
    creditCost := reserved.creditCost.getD (creditCost call)
    lowBalance := reserved.balanceAfter ≤ 100 }

def responseStatus (outcome : Except Exception SendSmsResponse) : Option Nat :=
  if call.closed then none
  else
    match outcome with
    | .ok _ => some 201
    | .error error => some error.statusCode

def finish (tables : SmsTables) : SmsTables × List ProviderRequest :=
  let (after, outcome) := (sendSms services call).run (OpenTransaction.opened tables [])
  (after.settle (Database.rollsBack (responseStatus call outcome)) tables, after.outside)

end Requests

end SmsSending

end ShuleHub.Integrations
