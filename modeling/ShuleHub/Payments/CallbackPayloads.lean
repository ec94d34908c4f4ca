import ShuleHub.Lib.Base64
import ShuleHub.Lib.JsValue
import ShuleHub.Payments.Mpesa
import ShuleHub.Payments.MpesaC2b

/-! What a callback of the gateway says about a payment, the shortcode it names, and the signature that it carries. -/

namespace ShuleHub.Payments

open Transaction

structure ParsedCallbackPayload where
  merchantRequestId : Json
  checkoutRequestId : Json
  resultCode : JsNumber
  resultDesc : Json
  status : MpesaTransactionStatus
  amountMinor : Option Nat
  mpesaReceiptNumber : Option String
  transactionOccurredAt : Option Int
  phoneNumber : Option String
  metadata : Metadata

def convertMajorToMinor (amount : String) : Except Exception Nat :=
  match MpesaC2b.parseHundredths (JsText.trim amount) with
  | some amountMinor => .ok amountMinor
  | none => .error (.badRequest ("Invalid M-PESA amount \"" ++ amount ++ "\""))

def parseTransactionDate (value : String) : Except Exception Int :=
  (MpesaC2b.parseSafaricomTimestamp value).mapError fun _ =>
    .badRequest ("Invalid M-PESA transaction date \"" ++ value ++ "\"")

def toMetadataMap (items : List Json) : Metadata :=
  items.foldl (fun metadata item =>
    match item.truthyProperty "Name" with
    | some name => metadata.set name.toText ((item.property "Value").getD .null)
    | none => metadata) []

def metadataValue (name : String) (metadata : Metadata) : Option Json := (metadata.get? name).filter (· ≠ .null)

def stkCallback (payload : Json) : Json :=
  (((payload.property "Body").getD .null).property "stkCallback").getD .null

/-- The items of the metadata; the code asks for no list, and calls a method that only a list has. -/
def metadataItems (callback : Json) : Except Exception (List Json) :=
  match ((callback.property "CallbackMetadata").getD .null).property "Item" with
  | none | some .null => .ok []
  | some (.arr items) => .ok items
  | some _ => .error (.internal "items.reduce is not a function")

def parseCallbackPayload (payload : Json) : Except Exception ParsedCallbackPayload :=
  let callback := stkCallback payload
  match callback.truthyProperty "MerchantRequestID", callback.truthyProperty "CheckoutRequestID" with
  | some merchantRequestId, some checkoutRequestId =>
    match callback.property "ResultCode", callback.truthyProperty "ResultDesc" with
    | some (.num resultCode), some resultDesc => do
      let metadata := toMetadataMap (← metadataItems callback)
      let amountMinor ← (metadataValue "Amount" metadata).mapM fun value => convertMajorToMinor value.toText
      let transactionOccurredAt ←
        (metadataValue "TransactionDate" metadata).mapM fun value => parseTransactionDate value.toText
      let phoneNumber ←
        (metadataValue "PhoneNumber" metadata).mapM fun value => Mpesa.normalizePhoneNumber value.toText
      return {
        merchantRequestId
        checkoutRequestId
        resultCode
        resultDesc
        status := if resultCode.value = 0 then .succeeded else .failed
        amountMinor
        mpesaReceiptNumber := (metadataValue "MpesaReceiptNumber" metadata).map Json.toText
        transactionOccurredAt
        phoneNumber
        metadata }
    | _, _ => .error (.badRequest "MPESA callback is missing result information")
  | _, _ => .error (.badRequest "MPESA callback is missing request identifiers")

def candidateKeys : List String :=
  ["BusinessShortCode", "ShortCode", "shortcode", "PayBillNumber", "paybill_number", "TillNumber", "till_number"]

def ownShortcode (fields : List (String × Json)) : Option String :=
  candidateKeys.findSome? fun key =>
    match JsMap.get? fields key with
    | some (.str text) => some (JsText.trim text)
    | some (.num number) => some (JsText.trim number.text)
    | _ => none

mutual

@[grind =] def extractShortcode : Json → Option String
  | .obj fields =>
    ownShortcode fields <|> ["Body", "Result", "CallbackMetadata"].findSome? fun key =>
      (JsMap.get? (fieldShortcodes fields) key).bind fun shortcode => shortcode.filter (· ≠ "")
  | _ => none

def fieldShortcodes : List (String × Json) → List (String × Option String)
  | [] => []
  | (key, value) :: fields => (key, extractShortcode value) :: fieldShortcodes fields

end

def namedShortcode (payload : Json) : Option String := (extractShortcode payload).filter (· ≠ "")

inductive HeaderValue where
  | single (value : String)
  | several (values : List String)
deriving DecidableEq

abbrev IncomingHttpHeaders := JsMap String HeaderValue

def mpesaCallbackSignatureHeader : String := "x-mpesa-signature"

def mpesaCallbackTimestampHeader : String := "x-mpesa-timestamp"

def mpesaCallbackDeliveryIdHeader : String := "x-mpesa-delivery-id"

def getHeaderValue (headers : IncomingHttpHeaders) (headerName : String) : Option String :=
  match headers.get? headerName with
  | some (.single value) => if value = "" then none else some value
  | some (.several values) => values.head?
  | none => none

/-- What the signatures rest on: hashes as hexadecimal text and as bytes, `new Date(text)`, and the settings. -/
structure SignatureRuntime where
  sha256 : String → String
  hmacSha256 : String → String → List UInt8
  parseDate : String → Option Int
  callbackSecret : String
  callbackTimestampToleranceSeconds : ℚ

structure CallbackVerificationResult where
  deliveryId : String
  requestFingerprint : String
  signature : Option String
  eventTimestamp : Option String
deriving DecidableEq

def maxDateTime : Nat := 8640000000000000

/-- A date, which has no time where the digits denote more than a date can have. -/
def parseTimestamp (runtime : SignatureRuntime) (value : Option String) : Option (Option Int) :=
  match value.filter (· ≠ "") with
  | none => none
  | some text =>
    if JsText.isDecimal text then
      let numericValue := JsText.decimalValue text
      let time := if 13 ≤ text.length then numericValue else numericValue * 1000
      some (if time ≤ maxDateTime then some time else none)
    else (runtime.parseDate text).map some

def isoString : Option Int → Except Exception String
  | some time => .ok (JsDate.toISOString time)
  | none => .error (.internal "Invalid time value")

def inspectCallback (runtime : SignatureRuntime) (rawBody : String) (headers : IncomingHttpHeaders) :
    Except Exception CallbackVerificationResult := do
  let signature := getHeaderValue headers mpesaCallbackSignatureHeader
  let timestamp := getHeaderValue headers mpesaCallbackTimestampHeader
  let eventTimestamp ← (parseTimestamp runtime timestamp).mapM isoString
  return {
    deliveryId := (getHeaderValue headers mpesaCallbackDeliveryIdHeader).getD
      (runtime.sha256 (timestamp.getD "" ++ "." ++ signature.getD "" ++ "." ++ rawBody))
    requestFingerprint := runtime.sha256 rawBody
    signature
    eventTimestamp }

def hex (bytes : List UInt8) : String :=
  String.ofList (bytes.flatMap fun byte => [Nat.digitChar (byte.toNat / 16), Nat.digitChar (byte.toNat % 16)])

def lower (text : String) : String := String.ofList (text.toList.map Char.toLower)

def signedBytes (runtime : SignatureRuntime) (rawBody timestamp : String) : Except Exception (List UInt8) := do
  failIf (JsText.trim runtime.callbackSecret = "") (.unauthorized "MPESA callback secret is not configured")
  return runtime.hmacSha256 runtime.callbackSecret (timestamp ++ "." ++ rawBody)

def computeSignature (runtime : SignatureRuntime) (rawBody timestamp : String) : Except Exception String := do
  return hex (← signedBytes runtime rawBody timestamp)

def computeSignatureBase64 (runtime : SignatureRuntime) (rawBody timestamp : String) : Except Exception String := do
  return String.ofList (Base64.encode (← signedBytes runtime rawBody timestamp))

def verifyCallback (runtime : SignatureRuntime) (now : Int) (rawBody : String) (headers : IncomingHttpHeaders)
    (inspection : CallbackVerificationResult) : Except Exception CallbackVerificationResult := do
  match inspection.signature.filter (· ≠ "") with
  | none => fail (.unauthorized "MPESA callback signature header is required")
  | some signature =>
    match (getHeaderValue headers mpesaCallbackTimestampHeader).filter (· ≠ "") with
    | none => fail (.unauthorized "MPESA callback timestamp header is required")
    | some timestamp =>
      match parseTimestamp runtime (some timestamp) with
      | none => fail (.unauthorized "MPESA callback timestamp is invalid")
      | some timestampDate =>
        -- The skew of a date without a time is no number, which is larger than nothing.
        failIf (timestampDate.any fun time =>
            runtime.callbackTimestampToleranceSeconds * 1000 < ((now - time).natAbs : ℚ))
          (.unauthorized "MPESA callback timestamp is outside the allowed skew")
        let expectedHex ← computeSignature runtime rawBody timestamp
        let expectedBase64 ← computeSignatureBase64 runtime rawBody timestamp
        failIf (lower signature ≠ lower expectedHex ∧ signature ≠ expectedBase64)
          (.unauthorized "Invalid MPESA callback signature")
        return inspection

theorem identifiers_of_parse {payload : Json} {parsed : ParsedCallbackPayload}
    (parses : parseCallbackPayload payload = .ok parsed) :
    (stkCallback payload).truthyProperty "MerchantRequestID" = some parsed.merchantRequestId ∧
      (stkCallback payload).truthyProperty "CheckoutRequestID" = some parsed.checkoutRequestId := by
  simp only [parseCallbackPayload] at parses
  split at parses
  · next merchant checkout =>
    split at parses
    · simp only [Outcome.bind_ok, Outcome.pure_ok] at parses
      obtain ⟨_, _, _, _, _, _, _, _, rfl⟩ := parses
      exact ⟨merchant, checkout⟩
    · cases parses
  · cases parses

end ShuleHub.Payments
