import ShuleHub.MalwareScan.Scanner

/-! The uploads' side of a malware scan, and the channel between it and the scanner. -/

namespace ShuleHub.MalwareScan

open Uploads (Bytes)

structure Url where
  protocol : String
  pathname : String

structure ProviderMalwareScanUploadFile where
  originalname : String
  mimetype : String
  size : JsNumber
  buffer : Bytes

inductive ProviderMalwareScanStatus where
  | clean
  | infected
  | error
  | timeout
deriving DecidableEq

structure ProviderMalwareScanResult where
  provider : String
  status : ProviderMalwareScanStatus
  scannedAt : String
  scanId : Option String
  signature : Option String

structure FetchResponse where
  status : Nat
  json : Option Json

def FetchResponse.ok (response : FetchResponse) : Prop := 200 ≤ response.status ∧ response.status ≤ 299
deriving Decidable

/-- What the channel does with one exchange. It may lose the request or the response, for good or for longer than anyone
waits, cut the response short, or put another one in its place that is no JSON or no success. -/
inductive Channel where
  | losesRequest
  | losesResponse
  | delivers
  | truncates
  | answersOtherwise (arrives : Bool) (response : FetchResponse) (useless : response.json = none ∨ ¬ response.ok)

structure UploadScanConfig where
  provider : Option String
  apiUrl : Option String
  apiToken : Option String
  required : Option String
  allowUnscanned : Option String
  nodeEnv : Option String
  appNodeEnv : Option String

def readConfig (value : Option String) : Option String := (value.map JsText.trim).filter (· ≠ "")

def parseBooleanConfig (value : Option String) : Bool :=
  match value with
  | none => false
  | some text => text = "1" || text.toList.map Char.toLower = "true".toList || text.toList.map Char.toLower = "yes".toList

def readStringField (payload : Option Json) (fieldNames : List String) : Option String :=
  match payload with
  | some (.obj record) => fieldNames.findSome? fun fieldName =>
    match record.lookup fieldName with
    | some (.str value) => if JsText.trim value = "" then none else some (JsText.trim value)
    | _ => none
  | _ => none

def normalizeProviderScanStatus (status : Option String) : ProviderMalwareScanStatus :=
  let normalized := status.map fun status => String.ofList ((JsText.trim status).toList.map Char.toLower)
  if normalized ∈ [some "clean", some "safe", some "passed"] then .clean
  else if normalized ∈ [some "infected", some "malicious", some "found"] then .infected
  else if normalized = some "timeout" then .timeout
  else .error

def normalizeProviderName (provider : String) : Except Exception String :=
  let normalized := String.ofList ((JsText.trim provider).toList.map Char.toLower)
  if normalized ∈ ["clamav", "webhook"] then .ok normalized
  else .error (.badRequest "Unsupported upload malware scan provider")

section Scan

variable (sha256 : Bytes → String) (parseUrl : String → Option Url) (parsesDate : String → Bool)

def normalizeHttpsUrl (apiUrl : String) : Except Exception Url :=
  match parseUrl (JsText.trim apiUrl) with
  | some url => if url.protocol = "https:" then .ok url
    else .error (.badRequest "Upload malware scan API URL must use HTTPS")
  | none => .error (.badRequest "Upload malware scan API URL must use HTTPS")

def normalizeTimestamp (timestamp : Option String) (fallback : String) : String :=
  match timestamp with
  | some text => if parsesDate text then text else fallback
  | none => fallback

def scanRequestBody (file : ProviderMalwareScanUploadFile) : Json :=
  .obj [("content_base64", .str (String.ofList (Base64.encode file.buffer))), ("filename", .str file.originalname),
    ("mime_type", .str file.mimetype), ("sha256", .str (sha256 file.buffer)), ("size_bytes", .num file.size)]

def exchange (env : ScannerEnvironment) (conditions : ScanConditions) (channel : Channel) (request : ScanHttpRequest) :
    ScannerAction FetchResponse :=
  match channel with
  | .losesRequest => fail (.internal "fetch failed")
  | .losesResponse => do
    let _ ← handleRequest sha256 env conditions request
    fail (.internal "fetch failed")
  | .delivers => do
    let response ← handleRequest sha256 env conditions request
    return { status := response.statusCode, json := some response.body }
  | .truncates => do
    let response ← handleRequest sha256 env conditions request
    return { status := response.statusCode, json := none }
  | .answersOtherwise arrives other _ => do
    if arrives then
      let _ ← handleRequest sha256 env conditions request
      return other
    else return other

def scanFailure (provider : String) (status : ProviderMalwareScanStatus) (scannedAt : String) :
    ProviderMalwareScanResult where
  provider := provider
  status := status
  scannedAt := scannedAt
  scanId := none
  signature := none

def responseResult (provider scannedAt : String) (response : FetchResponse) : ProviderMalwareScanResult :=
  if ¬ response.ok then
    scanFailure provider (if response.status = 408 ∨ response.status = 504 then .timeout else .error) scannedAt
  else
    { provider
      status := normalizeProviderScanStatus (readStringField response.json ["status", "verdict"])
      scannedAt := normalizeTimestamp parsesDate (readStringField response.json ["scanned_at", "scannedAt"]) scannedAt
      scanId := readStringField response.json ["scan_id", "scanId", "id"]
      signature := readStringField response.json ["signature", "malware_signature", "threat"] }

variable (env : ScannerEnvironment) (conditions : ScanConditions) (channel : Channel)

def runProviderMalwareScan (provider apiUrl apiToken scannedAt : String) (file : ProviderMalwareScanUploadFile) :
    ScannerAction ProviderMalwareScanResult := do
  let provider ← normalizeProviderName provider
  let url ← normalizeHttpsUrl parseUrl apiUrl
  failIf (JsText.trim apiToken = "") (.badRequest "Upload malware scan API token is required")
  failIf (file.buffer = []) (.badRequest "Upload malware scan requires file content")
  let request : ScanHttpRequest :=
    { method := "POST", pathname := url.pathname, authorization := some ("Bearer " ++ JsText.trim apiToken)
      body := some (scanRequestBody sha256 file) }
  match ← Effect.attempt (exchange sha256 env conditions channel request) with
  | .ok response => return responseResult parsesDate provider scannedAt response
  | .error _ => return scanFailure provider .error scannedAt

def assertProviderMalwareScanPassed (scan : ProviderMalwareScanResult) : Except Exception Unit := do
  failIf (JsText.trim scan.provider = "") (.badRequest "Provider malware scan result is invalid")
  failIf (parsesDate scan.scannedAt = false) (.badRequest "Provider malware scan result timestamp is invalid")
  failIf (scan.status ≠ .clean) (.badRequest "Provider malware scan rejected uploaded file")

def scanIfConfigured (config : UploadScanConfig) (scannedAt : String) (file : ProviderMalwareScanUploadFile) :
    ScannerAction (Option ProviderMalwareScanResult) := do
  let provider := readConfig config.provider
  let apiUrl := readConfig config.apiUrl
  let apiToken := readConfig config.apiToken
  let productionRequiresScan := (readConfig config.nodeEnv).or (readConfig config.appNodeEnv) = some "production" ∧
    parseBooleanConfig (readConfig config.allowUnscanned) = false
  match provider, apiUrl, apiToken with
  | none, none, none =>
    failIf (parseBooleanConfig (readConfig config.required) = true ∨ productionRequiresScan)
      (.badRequest "Upload malware scan provider is required")
    return none
  | some provider, some apiUrl, some apiToken =>
    let result ← runProviderMalwareScan sha256 parseUrl parsesDate env conditions channel provider apiUrl apiToken scannedAt
      file
    let () ← assertProviderMalwareScanPassed parsesDate result
    return some result
  | _, _, _ => fail (.badRequest "Upload malware scan provider is not fully configured")

end Scan

end ShuleHub.MalwareScan
