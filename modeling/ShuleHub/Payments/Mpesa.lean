import ShuleHub.Payments.Intents

/-! `MpesaService.createPaymentIntent`: a payment request that the gateway pushes to a phone. -/

namespace ShuleHub.Payments

open Transaction Idempotency Finance

structure CreatePaymentIntentDto where
  idempotencyKey : String
  amountMinor : String
  phoneNumber : String
  studentId : Option String
  accountReference : String
  transactionDesc : String
  externalReference : Option String
  metadata : Metadata

structure StkPushResponse where
  merchantRequestId : String
  checkoutRequestId : String
  responseCode : Option String
  responseDescription : String
  customerMessage : String

/-- What comes back from the gateway: no answer, or one whose body may have failed to parse. -/
inductive StkReply where
  | unreachable (message : String)
  | answered (isOk : Bool) (status responseText : String) (body : Option StkPushResponse)

structure MpesaCall where
  now : Int
  userId : Option String
  newKeyId : String
  newIntentId : String
  stkReply : StkReply

namespace Mpesa

variable (runtime : PaymentsRuntime) (call : MpesaCall) (dto : CreatePaymentIntentDto) (owner : PaymentOwner)
  (config : ResolvedMpesaConfig)

def contextUserId : Option String :=
  call.userId.filter fun userId => userId ≠ "" ∧ userId ≠ authAnonymousUserId

def normalizePhoneNumber (value : String) : Except Exception String :=
  let digitsOnly := value.toList.filter Char.isDigit
  if digitsOnly.length = 12 ∧ digitsOnly.take 3 = ['2', '5', '4'] then .ok (String.ofList digitsOnly)
  else if digitsOnly.length = 10 ∧ digitsOnly.head? = some '0' then
    .ok ("254" ++ String.ofList (digitsOnly.drop 1))
  else if digitsOnly.length = 9 ∧ (digitsOnly.head? = some '1' ∨ digitsOnly.head? = some '7') then
    .ok ("254" ++ String.ofList digitsOnly)
  else .error (.badRequest ("Invalid Kenyan phone number \"" ++ value ++ "\""))

def normalizeMinorAmount (value : String) : Except Exception Nat :=
  if JsText.isPositiveNumeral (JsText.trim value) then .ok (JsText.decimalValue (JsText.trim value))
  else .error (.badRequest "M-PESA amount must be a positive integer in minor units")

def buildIdempotencyHash (runtime : Runtime) (dto : CreatePaymentIntentDto) (phoneNumber : String) (amountMinor : Nat) :
    String :=
  runtime.sha256 (stableSerialize (.obj [
    ("idempotency_key", .str (JsText.trim dto.idempotencyKey)),
    ("amount_minor", jsonNat amountMinor),
    ("phone_number", .str phoneNumber),
    ("account_reference", .str (JsText.trim dto.accountReference)),
    ("transaction_desc", .str (JsText.trim dto.transactionDesc)),
    ("student_id", jsonText dto.studentId),
    ("external_reference", jsonText (dto.externalReference.map JsText.trim)),
    ("metadata", .obj dto.metadata)]))

def onKeys {A : Type} (action : Transaction (List (IdempotencyRecord PaymentIntentResponse)) Exception A) :
    Transaction PaymentsDb Exception A :=
  zoom (·.idempotencyKeys) (fun db idempotencyKeys => { db with idempotencyKeys }) action

def paymentIntentKeyError : Exception → Exception
  | .conflict "Unable to lock idempotency key" => .conflict "Unable to lock payment intent idempotency key"
  | .conflict "Idempotency key has already been used with a different request payload" =>
    .conflict "Idempotency key has already been used with a different payment intent payload"
  | error => error

def lockRequest (now : Int) (newId : String) (input : IdempotencyRequestLock) :
    Transaction PaymentsDb Exception (IdempotencyRecord PaymentIntentResponse) := fun db =>
  ((onKeys (Idempotency.lockRequest now newId input)).run db).mapError paymentIntentKeyError

def requestLock (runtime : Runtime) (call : MpesaCall) (dto : CreatePaymentIntentDto) (phoneNumber : String)
    (amountMinor : Nat) : IdempotencyRequestLock where
  userId := contextUserId call
  scope := mpesaPaymentIntentScope
  idempotencyKey := JsText.trim dto.idempotencyKey
  requestHash := buildIdempotencyHash runtime dto phoneNumber amountMinor
  requestMethod := mpesaPaymentIntentRequestMethod
  requestPath := mpesaPaymentIntentRequestPath
  ttlSeconds := runtime.idempotencyTtlSeconds

def pendingIntent
    (idempotencyKeyId phoneNumber : String) (amountMinor : Nat) (amountPositive : 0 < amountMinor) :
    PaymentIntentEntity where
  id := call.newIntentId
  idempotencyKeyId
  userId := contextUserId call
  studentId := dto.studentId
  externalReference := readString dto.externalReference
  accountReference := JsText.trim dto.accountReference
  transactionDesc := JsText.trim dto.transactionDesc
  phoneNumber
  amountMinor
  currencyCode := mpesaDefaultCurrencyCode
  paymentOwner := owner
  mpesaShortCode := some config.shortcode
  paymentChannelType := some (if config.tillNumber.any (· ≠ "") then "mpesa_till" else "mpesa_paybill")
  ledgerDebitAccountCode := some config.ledgerDebitAccountCode
  ledgerCreditAccountCode := some config.ledgerCreditAccountCode
  status := .pending
  merchantRequestId := none
  checkoutRequestId := none
  responseCode := none
  responseDescription := none
  customerMessage := none
  ledgerTransactionId := none
  failureReason := none
  stkRequestedAt := none
  expiresAt := none
  metadata := dto.metadata
  createdAt := call.now
  amountPositive

/-- The amount of an intent is positive; the gateway only takes whole shillings. -/
def sendStkPush (paymentIntent : PaymentIntentEntity) : Except Exception StkPushResponse := do
  failIf (paymentIntent.amountMinor % 100 ≠ 0) (.badRequest "M-PESA STK push only supports whole KES amounts")
  match call.stkReply with
  | .unreachable message => fail (.internal message)
  | .answered isOk status responseText body =>
    match isOk, body with
    | true, some response =>
      failIf (response.merchantRequestId = "" ∨ response.checkoutRequestId = "" ∨ response.responseCode = none)
        (.badGateway "M-PESA STK push response was incomplete")
      failIf (response.responseCode ≠ some "0")
        (.badGateway ("M-PESA STK push was rejected: " ++ response.responseDescription))
      return response
    | _, _ => fail (.badGateway ("M-PESA STK push request failed: " ++ status ++ " " ++ responseText))

def requestStk (response : StkPushResponse) (now expiresAt : Int) (intent : PaymentIntentEntity) : PaymentIntentEntity :=
  { intent with
    merchantRequestId := some response.merchantRequestId
    checkoutRequestId := some response.checkoutRequestId
    responseCode := response.responseCode
    responseDescription := some response.responseDescription
    customerMessage := some response.customerMessage
    status := .stkRequested
    stkRequestedAt := some now
    expiresAt := some expiresAt }

def markStkRequested (paymentIntentId : String) (response : StkPushResponse) (now expiresAt : Int) :
    Transaction PaymentsDb Exception Unit := do
  let db ← current
  failIf (∃ other ∈ db.intents.rows, other.id ≠ paymentIntentId ∧
      other.checkoutRequestId = some response.checkoutRequestId)
    (.database "uq_payment_intents_tenant_checkout_request_id")
  failIf (∃ other ∈ db.intents.rows, other.id ≠ paymentIntentId ∧
      other.merchantRequestId = some response.merchantRequestId)
    (.database "uq_payment_intents_tenant_merchant_request_id")
  PaymentIntents.updateIntent paymentIntentId (requestStk response now expiresAt) fun _ => rfl

def toPaymentIntentResponse (intent : PaymentIntentEntity) : PaymentIntentResponse where
  paymentIntentId := intent.id
  studentId := intent.studentId
  status := intent.status
  amountMinor := intent.amountMinor
  currencyCode := intent.currencyCode
  paymentOwner := intent.paymentOwner
  mpesaShortCode := intent.mpesaShortCode
  paymentChannelType := intent.paymentChannelType
  phoneNumber := intent.phoneNumber
  accountReference := intent.accountReference
  externalReference := intent.externalReference
  merchantRequestId := intent.merchantRequestId
  checkoutRequestId := intent.checkoutRequestId
  responseCode := intent.responseCode
  responseDescription := intent.responseDescription
  customerMessage := intent.customerMessage
  createdAt := intent.createdAt

def requestPayment (idempotencyKeyId phoneNumber : String) (amountMinor : Nat) :
    Transaction PaymentsDb Exception PaymentIntentResponse := do
  if amountPositive : 0 < amountMinor then
    let paymentIntent ← PaymentIntents.createPending
      (pendingIntent call dto owner config idempotencyKeyId phoneNumber amountMinor amountPositive)
    let stkResponse ← monadLift (sendStkPush call paymentIntent)
    let expiresAt := call.now + runtime.paymentIntentExpirySeconds * 1000
    markStkRequested paymentIntent.id stkResponse call.now expiresAt
    let response := toPaymentIntentResponse (requestStk stkResponse call.now expiresAt paymentIntent)
    onKeys (Idempotency.markCompleted call.now idempotencyKeyId 201 response)
    return response
  else
    fail (.database "ck_payment_intents_amount_minor")

def answerLocked (phoneNumber : String) (amountMinor : Nat)
    (record : IdempotencyRecord PaymentIntentResponse) : Transaction PaymentsDb Exception PaymentIntentResponse :=
  match record.status, record.responseBody with
  | .completed, some response => return response
  | _, _ => requestPayment runtime call dto owner config record.id phoneNumber amountMinor

def createPaymentIntent
    (dto : CreatePaymentIntentDto) : Transaction PaymentsDb Exception PaymentIntentResponse := do
  let phoneNumber ← monadLift (normalizePhoneNumber dto.phoneNumber)
  let amountMinor ← monadLift (normalizeMinorAmount dto.amountMinor)
  let config ← monadLift (runtime.resolveMpesaConfig owner)
  let record ← lockRequest call.now call.newKeyId (requestLock runtime.toRuntime call dto phoneNumber amountMinor)
  answerLocked runtime call dto owner config phoneNumber amountMinor record

def createPlatformPaymentIntent :
    Transaction PaymentsDb Exception PaymentIntentResponse :=
  createPaymentIntent runtime call .platform dto

end Mpesa

end ShuleHub.Payments
