import ShuleHub.Payments.CallbackPayloads

/-! Which deliveries the signature service inspects, and what it has checked of those that it accepts. -/

namespace ShuleHub.Payments

open Transaction Outcome

section Timestamps

variable {runtime : SignatureRuntime} {text : String}

def digitTime (text : String) : Nat :=
  if 13 ≤ text.length then JsText.decimalValue text else JsText.decimalValue text * 1000

def IsBeyondDates (text : String) : Prop := JsText.isDecimal text = true ∧ maxDateTime < digitTime text

def Denotes (runtime : SignatureRuntime) (text : String) (time : Int) : Prop :=
  if JsText.isDecimal text then digitTime text ≤ maxDateTime ∧ time = digitTime text
  else runtime.parseDate text = some time

theorem parseTimestamp_of_present (present : text ≠ "") : parseTimestamp runtime (some text) =
    if JsText.isDecimal text then some (if digitTime text ≤ maxDateTime then some (digitTime text : Int) else none)
    else (runtime.parseDate text).map some := by
  rw [parseTimestamp, Option.filter_some, if_pos (by simpa using present)]
  rfl

theorem present_of_isDecimal (decimal : JsText.isDecimal text = true) : text ≠ "" := by
  intro empty
  rw [empty] at decimal
  exact absurd decimal (by decide)

theorem parseTimestamp_some {time : Int} (present : text ≠ "") :
    parseTimestamp runtime (some text) = some (some time) ↔ Denotes runtime text time := by
  rw [parseTimestamp_of_present present, Denotes]
  split
  · split
    · next small => simp [small, eq_comm]
    · next large => simp [large]
  · simp

/-- A timestamp has a date without a time exactly if its digits denote more than a date can have. -/
theorem parseTimestamp_invalid (present : text ≠ "") :
    parseTimestamp runtime (some text) = some none ↔ IsBeyondDates text := by
  rw [parseTimestamp_of_present present, IsBeyondDates]
  split
  · next decimal => simp [decimal]
  · next other => simp [other]

end Timestamps

def TimestampBeyondDates (headers : IncomingHttpHeaders) : Prop :=
  ∃ text, getHeaderValue headers mpesaCallbackTimestampHeader = some text ∧ IsBeyondDates text

section Inspection

variable {runtime : SignatureRuntime} {rawBody : String} {headers : IncomingHttpHeaders} {timestamp signature : String}

theorem inspectCallback_eq : inspectCallback runtime rawBody headers =
    ((parseTimestamp runtime (getHeaderValue headers mpesaCallbackTimestampHeader)).mapM isoString).map
      fun eventTimestamp => {
        deliveryId := (getHeaderValue headers mpesaCallbackDeliveryIdHeader).getD
          (runtime.sha256 ((getHeaderValue headers mpesaCallbackTimestampHeader).getD "" ++ "." ++
            (getHeaderValue headers mpesaCallbackSignatureHeader).getD "" ++ "." ++ rawBody))
        requestFingerprint := runtime.sha256 rawBody
        signature := getHeaderValue headers mpesaCallbackSignatureHeader
        eventTimestamp } := by
  rw [inspectCallback]
  cases (parseTimestamp runtime (getHeaderValue headers mpesaCallbackTimestampHeader)).mapM isoString <;> rfl

theorem inspectCallback_ok_iff : (∃ inspection, inspectCallback runtime rawBody headers = .ok inspection) ↔
    parseTimestamp runtime (getHeaderValue headers mpesaCallbackTimestampHeader) ≠ some none := by
  rw [inspectCallback_eq]
  cases parseTimestamp runtime (getHeaderValue headers mpesaCallbackTimestampHeader) with
  | none => exact ⟨fun _ => nofun, fun _ => ⟨_, rfl⟩⟩
  | some date =>
    cases date with
    | none =>
      constructor
      · intro ⟨_, inspected⟩
        cases inspected
      · intro dated
        exact absurd rfl dated
    | some time => exact ⟨fun _ => nofun, fun _ => ⟨_, rfl⟩⟩

theorem inspectCallback_ok_iff_timestamp :
    (∃ inspection, inspectCallback runtime rawBody headers = .ok inspection) ↔ ¬ TimestampBeyondDates headers := by
  rw [inspectCallback_ok_iff, not_iff_not, TimestampBeyondDates]
  cases getHeaderValue headers mpesaCallbackTimestampHeader with
  | none => simp [parseTimestamp]
  | some text =>
    by_cases present : text = ""
    · have absent : parseTimestamp runtime (some text) = none := by
        rw [present]
        rfl
      have short : ¬ IsBeyondDates text := fun beyond => present_of_isDecimal beyond.1 present
      simp [absent, short]
    · rw [parseTimestamp_invalid present]
      simp

/-- The delivery is of a time that the tolerance admits, and signed with the secret: in hexadecimal digits of
either case, or in base64. -/
def IsGenuine (runtime : SignatureRuntime) (now : Int) (rawBody : String) (headers : IncomingHttpHeaders) : Prop :=
  ∃ signature timestamp time,
    getHeaderValue headers mpesaCallbackSignatureHeader = some signature ∧
      getHeaderValue headers mpesaCallbackTimestampHeader = some timestamp ∧ Denotes runtime timestamp time ∧
      ((now - time).natAbs : ℚ) ≤ runtime.callbackTimestampToleranceSeconds * 1000 ∧
      let digest := runtime.hmacSha256 runtime.callbackSecret (timestamp ++ "." ++ rawBody)
      lower signature = lower (hex digest) ∨ signature = String.ofList (Base64.encode digest)

theorem signedBytes_ok {digest : List UInt8}
    (computed : signedBytes runtime rawBody timestamp = .ok digest) :
    digest = runtime.hmacSha256 runtime.callbackSecret (timestamp ++ "." ++ rawBody) := by
  simp only [signedBytes, bind_ok, failIf_ok, pure_ok] at computed
  obtain ⟨_, -, rfl⟩ := computed
  rfl

theorem computeSignature_ok
    (computed : computeSignature runtime rawBody timestamp = .ok signature) :
    signature = hex (runtime.hmacSha256 runtime.callbackSecret (timestamp ++ "." ++ rawBody)) := by
  simp only [computeSignature, bind_ok, pure_ok] at computed
  obtain ⟨digest, signed, rfl⟩ := computed
  rw [signedBytes_ok signed]

theorem computeSignatureBase64_ok
    (computed : computeSignatureBase64 runtime rawBody timestamp = .ok signature) :
    signature =
      String.ofList (Base64.encode (runtime.hmacSha256 runtime.callbackSecret (timestamp ++ "." ++ rawBody))) := by
  simp only [computeSignatureBase64, bind_ok, pure_ok] at computed
  obtain ⟨digest, signed, rfl⟩ := computed
  rw [signedBytes_ok signed]

theorem isGenuine_of_verified {now : Int} {inspection result : CallbackVerificationResult}
    (own : inspection.signature = getHeaderValue headers mpesaCallbackSignatureHeader)
    (dated : parseTimestamp runtime (getHeaderValue headers mpesaCallbackTimestampHeader) ≠ some none)
    (accepts : verifyCallback runtime now rawBody headers inspection = .ok result) :
    IsGenuine runtime now rawBody headers := by
  rw [verifyCallback, own] at accepts
  cases signed : getHeaderValue headers mpesaCallbackSignatureHeader with
  | none =>
    rw [signed] at accepts
    cases accepts
  | some signature =>
    cases stamped : getHeaderValue headers mpesaCallbackTimestampHeader with
    | none =>
      rw [signed, stamped, Option.filter_none] at accepts
      split at accepts <;> cases accepts
    | some timestamp =>
      rw [signed, stamped] at accepts
      rw [stamped] at dated
      by_cases unsigned : signature = ""
      · rw [Option.filter_some, if_neg (by simpa using unsigned)] at accepts
        cases accepts
      by_cases empty : timestamp = ""
      · rw [Option.filter_some, if_pos (by simpa using unsigned), Option.filter_some,
          if_neg (by simpa using empty)] at accepts
        cases accepts
      rw [Option.filter_some, if_pos (by simpa using unsigned), Option.filter_some, if_pos (by simpa using empty)]
        at accepts
      cases parsed : parseTimestamp runtime (some timestamp) with
      | none =>
        simp only [parsed] at accepts
        cases accepts
      | some date =>
        cases date with
        | none => exact absurd parsed dated
        | some time =>
          simp only [parsed, Option.any_some, decide_eq_true_eq, bind_ok, failIf_ok,
            pure_ok] at accepts
          obtain ⟨_, within, expectedHex, hexadecimal, expectedBase64, base64, _, matching, -⟩ := accepts
          rw [computeSignature_ok hexadecimal, computeSignatureBase64_ok base64, not_and_or, not_not, not_not]
            at matching
          exact ⟨signature, timestamp, time, signed, stamped, (parseTimestamp_some empty).mp parsed, Rat.not_lt.mp within,
            matching⟩

/-- What is asked of the service for a delivery: that it can be inspected, so that it is logged whatever it is, and
that it is accepted only if it is genuine. -/
structure ChecksDelivery (runtime : SignatureRuntime) (rawBody : String) (headers : IncomingHttpHeaders) : Prop where
  inspects : ∃ inspection, inspectCallback runtime rawBody headers = .ok inspection
  accepts (now : Int) (inspection result : CallbackVerificationResult) :
    inspection.signature = getHeaderValue headers mpesaCallbackSignatureHeader →
      verifyCallback runtime now rawBody headers inspection = .ok result → IsGenuine runtime now rawBody headers

end Inspection

/-- The deliveries that the service checks are those whose timestamp a date can hold. -/
theorem checksDelivery_iff (runtime : SignatureRuntime) (rawBody : String) (headers : IncomingHttpHeaders) :
    ChecksDelivery runtime rawBody headers ↔ ¬ TimestampBeyondDates headers := by
  constructor
  · intro checks
    exact inspectCallback_ok_iff_timestamp.mp checks.inspects
  · intro within
    have inspects := (@inspectCallback_ok_iff_timestamp runtime rawBody headers).mpr within
    refine ⟨inspects, ?_⟩
    intro now inspection result own accepts
    exact isGenuine_of_verified own (inspectCallback_ok_iff.mp inspects) accepts

def sampleSignatures : SignatureRuntime where
  sha256 text := text
  hmacSha256 secret text := JsText.utf8 (secret ++ text).toList
  parseDate _ := none
  callbackSecret := "secret"
  callbackTimestampToleranceSeconds := 300

def headersOf (timestamp signature : String) : IncomingHttpHeaders :=
  [(mpesaCallbackTimestampHeader, .single timestamp), (mpesaCallbackSignatureHeader, .single signature)]

/-- Seventeen nines are no date: the inspection throws, and the check of the skew would let the delivery pass. -/
theorem timestamp_beyond_dates_is_not_inspected :
    inspectCallback sampleSignatures "{}" (headersOf "99999999999999999" "00") =
        .error (.internal "Invalid time value") ∧
      (verifyCallback sampleSignatures 0 "{}" (headersOf "99999999999999999" "00") {
        deliveryId := "delivery-1"
        requestFingerprint := "{}"
        signature := some (hex (JsText.utf8 "secret99999999999999999.{}".toList))
        eventTimestamp := none }).isOk = true ∧
      ¬ ChecksDelivery sampleSignatures "{}" (headersOf "99999999999999999" "00") := by
  have throws : inspectCallback sampleSignatures "{}" (headersOf "99999999999999999" "00") =
      .error (.internal "Invalid time value") := by decide +kernel
  refine ⟨throws, by decide +kernel, ?_⟩
  intro checks
  have ⟨_, inspected⟩ := checks.inspects
  rw [throws] at inspected
  cases inspected

end ShuleHub.Payments
