import ShuleHub.Lib.Base64
import ShuleHub.Lib.JsDate
import ShuleHub.Lib.JsValue
import ShuleHub.Uploads.ObjectStorage

/-! The malware scanner: a server that writes what it is sent into a file and runs the engine on it. -/

namespace ShuleHub.MalwareScan

open Uploads (Bytes)

variable (record : List (String × Json))

inductive ScannerVerdict where
  | clean
  | infected
  | error
deriving DecidableEq

def ScannerVerdict.text : ScannerVerdict → String
  | .clean => "clean"
  | .infected => "infected"
  | .error => "error"

/-- The size limit is what `Number` makes of its text, where that is finite. -/
structure ScannerEnvironment where
  authToken : String
  maxBytes : Option ℚ
  eicarTestEnabled : String
  healthScanEnabled : String
  useDaemon : String
  databasePath : String

structure ScannerRequest where
  contentBase64 : String
  filename : String
  mimeType : String
  sha256 : Option String
  sizeBytes : Int

structure ScannerResult where
  status : ScannerVerdict
  signature : Option String

structure EngineRun where
  command : String
  arguments : List String
  content : Option Bytes
  exitCode : Option Int

structure ScannerHost where
  files : String → Option Bytes
  received : List Bytes
  engineRuns : List EngineRun

abbrev ScannerAction := Effect ScannerHost Exception

/-- The engine does not start, or it ends with an exit code, or with none where a signal has killed it. -/
inductive EngineOutcome where
  | unavailable
  | closed (exitCode : Option Int) (output : String)

structure ScanConditions where
  now : Int
  scanId : String
  directory : Option String
  writesFile : Bool
  engine : EngineOutcome
  removesDirectory : Bool

structure ScanHttpRequest where
  method : String
  pathname : String
  authorization : Option String
  body : Option Json

structure ScanHttpResponse where
  statusCode : Nat
  body : Json

def getEnv (value : String) : String := JsText.trim value

def parseBoolean (value : String) (fallback : Bool) : Bool :=
  let normalized := value.toList.map Char.toLower
  if normalized ∈ ["1", "true", "yes", "on"].map String.toList then true
  else if normalized ∈ ["0", "false", "no", "off"].map String.toList then false
  else fallback

def getMaxBytes (env : ScannerEnvironment) : Nat :=
  match env.maxBytes with
  | some parsed => if 0 < parsed then parsed.floor.toNat else 10 * 1024 * 1024
  | none => 10 * 1024 * 1024

def includesBytes (buffer part : Bytes) : Bool := buffer.tails.any part.isPrefixOf

def eicarTestSignature : Bytes := JsText.utf8 "EICAR-STANDARD-ANTIVIRUS-TEST-FILE".toList

def readRequiredString (key : String) : Except Exception String :=
  match record.lookup key with
  | some (.str value) => if JsText.trim value = "" then .error (.internal (key ++ " is required")) else .ok (JsText.trim value)
  | _ => .error (.internal (key ++ " is required"))

def readRequiredNumber (key : String) : Except Exception Int :=
  match record.lookup key with
  | some (.num value) =>
    if value.value < 0 then .error (.internal (key ++ " must be a non-negative number")) else .ok value.value.floor
  | _ => .error (.internal (key ++ " must be a non-negative number"))

def requestChecksum : Option String :=
  match record.lookup "sha256" with
  | some (.str value) => some (String.ofList ((JsText.trim value).toList.map Char.toLower))
  | _ => none

def decodedContent (request : ScannerRequest) : Bytes := Base64.decode request.contentBase64.toList

def validatePayload (env : ScannerEnvironment) : Json → Except Exception ScannerRequest
  | .obj record => do
    let contentBase64 ← readRequiredString record "content_base64"
    let filename ← readRequiredString record "filename"
    let mimeType ← readRequiredString record "mime_type"
    let sizeBytes ← readRequiredNumber record "size_bytes"
    let request : ScannerRequest :=
      { contentBase64, filename, mimeType, sha256 := requestChecksum record, sizeBytes }
    let buffer := decodedContent request
    failIf (buffer.length = 0) (.internal "content_base64 must contain file content")
    failIf ((buffer.length : Int) ≠ request.sizeBytes) (.internal "size_bytes does not match decoded file content")
    failIf (getMaxBytes env < buffer.length) (.internal "file exceeds malware scanner size limit")
    return request
  | _ => .error (.internal "Invalid scan request")

def isAuthorized (request : ScanHttpRequest) (env : ScannerEnvironment) : Prop :=
  getEnv env.authToken ≠ "" ∧ request.authorization = some ("Bearer " ++ getEnv env.authToken)
deriving Decidable

def sanitizeFilename (filename : String) : String :=
  let sanitized := (filename.toList.map fun c => if c.isAlphanum ∨ c ∈ ['.', '_', '-'] then c else '_').take 120
  if sanitized = [] then "upload.bin" else String.ofList sanitized

def beforeLast (mark : List Char) : List Char → Option (List Char)
  | [] => none
  | c :: rest =>
    match beforeLast mark rest with
    | some text => some (c :: text)
    | none => if mark.isPrefixOf rest then some [c] else none

def foundSignature : List Char → Option (List Char)
  | [] => none
  | c :: rest =>
    let here := if c = ':' ∧ rest.head? = some ' ' then
      beforeLast " FOUND".toList ((rest.drop 1).takeWhile (· ∉ ['\n', '\r', Char.ofNat 0x2028, Char.ofNat 0x2029]))
    else none
    here.or (foundSignature rest)

def extractClamSignature (output : String) : Option String :=
  (foundSignature output.toList).map fun signature => JsText.trim (String.ofList signature)

structure ClamScanResult where
  exitCode : Option Int
  output : String

def runClamScan (filePath databasePath : String) (useDaemon : Bool) (engine : EngineOutcome) :
    ScannerAction ClamScanResult := do
  let command := if useDaemon then "/usr/bin/clamdscan" else "/usr/bin/clamscan"
  let arguments :=
    if useDaemon then ["--config-file=/etc/clamav/clamd.conf", "--stream", "--no-summary", "--stdout", filePath]
    else ["--database=" ++ databasePath, "--no-summary", "--stdout", filePath]
  match engine with
  | .unavailable => return { exitCode := some 2, output := command ++ " unavailable" }
  | .closed exitCode output =>
    Effect.write fun host =>
      { host with engineRuns := host.engineRuns ++ [{ command, arguments, content := host.files filePath, exitCode }] }
    return { exitCode, output }

def writeFile (filePath : String) (buffer : Bytes) : ScannerAction Unit :=
  Effect.write fun host => { host with files := Function.update host.files filePath (some buffer) }

def verdict (result : ClamScanResult) : ScannerResult :=
  if result.exitCode = some 0 then { status := .clean, signature := none }
  else if result.exitCode = some 1 then { status := .infected, signature := extractClamSignature result.output }
  else { status := .error, signature := none }

section Server

variable (sha256 : Bytes → String) (env : ScannerEnvironment) (conditions : ScanConditions)

def assertChecksum (request : ScannerRequest) (buffer : Bytes) : Except Exception Unit :=
  match request.sha256 with
  | none => .ok ()
  | some expected =>
    failIf (expected ≠ "" ∧ sha256 buffer ≠ expected) (.internal "sha256 does not match decoded file content")

def scanFile (filePath filename : String) (buffer : Bytes) : ScannerAction ScannerResult := do
  failIf (conditions.writesFile = false ∨ filename = "." ∨ filename = "..") (.internal "writeFile")
  writeFile filePath buffer
  let databasePath := if getEnv env.databasePath = "" then "/var/lib/clamav" else getEnv env.databasePath
  let result ← runClamScan filePath databasePath (parseBoolean (getEnv env.useDaemon) true) conditions.engine
  return verdict result

def scanWithClamAv (buffer : Bytes) (request : ScannerRequest) : ScannerAction ScannerResult :=
  match conditions.directory with
  | none => fail (.internal "mkdtemp")
  | some directory => do
    let filename := sanitizeFilename request.filename
    let filePath := directory ++ "/" ++ filename
    let outcome ← Effect.attempt (scanFile env conditions filePath filename buffer)
    Effect.write fun host => { host with files := Function.update host.files filePath none }
    failIf (conditions.removesDirectory = false) (.internal "rm")
    (outcome : Except Exception ScannerResult)

def checkScannerReadiness : ScannerAction (Bool × Option String) := do
  if parseBoolean (getEnv env.healthScanEnabled) true = false then return (true, none)
  else
    let buffer := JsText.utf8 "shulehub-malware-scanner-health-check".toList
    let request : ScannerRequest :=
      { contentBase64 := String.ofList (Base64.encode buffer), filename := "health-check.txt", mimeType := "text/plain"
        sha256 := some (sha256 buffer), sizeBytes := buffer.length }
    match ← Effect.attempt (scanWithClamAv env conditions buffer request) with
    | .error _ => return (false, some "scanner_unavailable")
    | .ok result =>
      match result.status with
      | .clean => return (true, none)
      | .infected => return (false, some "health_check_signature_detected")
      | .error => return (false, some "scanner_returned_error")

def healthBody (readiness : Bool × Option String) : Json :=
  .obj ([("status", .str (if readiness.1 then "ok" else "degraded")), ("scanner_ready", .bool readiness.1),
    ("max_bytes", .num (JsNumber.ofNat (getMaxBytes env))),
    ("eicar_test_enabled", .bool (parseBoolean (getEnv env.eicarTestEnabled) true))] ++
    (readiness.2.map fun reason => ("reason", Json.str reason)).toList)

def scanBody (status : ScannerVerdict) (signature : Option String) : Json :=
  .obj ([("status", .str status.text), ("scan_id", .str conditions.scanId),
    ("scanned_at", .str (JsDate.toISOString conditions.now))] ++
    ((signature.filter (· ≠ "")).map fun signature => ("signature", Json.str signature)).toList)

def errorBody (message : String) : Json := .obj [("error", .str message)]

def errorMessage : Exception → String
  | .internal message => message
  | _ => "Invalid scan request"

def readScanRequest (body : Option Json) : Except Exception (ScannerRequest × Bytes) := do
  match body with
  | none => .error (.internal "Unexpected token in JSON")
  | some value => do
    let request ← validatePayload env value
    let buffer := decodedContent request
    assertChecksum sha256 request buffer
    return (request, buffer)

def scanReceived (request : ScannerRequest) (buffer : Bytes) : ScannerAction ScanHttpResponse := do
  Effect.write fun host => { host with received := host.received ++ [buffer] }
  if parseBoolean (getEnv env.eicarTestEnabled) true ∧ includesBytes buffer eicarTestSignature then
    return { statusCode := 200, body := scanBody conditions .infected (some "EICAR-Test-File") }
  else
    match ← Effect.attempt (scanWithClamAv env conditions buffer request) with
    | .ok result => return { statusCode := 200, body := scanBody conditions result.status result.signature }
    | .error _ => return { statusCode := 200, body := scanBody conditions .error none }

def handleRequest (request : ScanHttpRequest) : ScannerAction ScanHttpResponse := do
  if request.method = "GET" ∧ request.pathname = "/health" then
    let readiness ← checkScannerReadiness sha256 env conditions
    return { statusCode := if readiness.1 then 200 else 503, body := healthBody env readiness }
  else if request.method ≠ "POST" ∨ request.pathname ≠ "/scan" then
    return { statusCode := 404, body := errorBody "Not found" }
  else if ¬ isAuthorized request env then return { statusCode := 401, body := errorBody "Unauthorized" }
  else
    match readScanRequest sha256 env request.body with
    | .error error => return { statusCode := 400, body := errorBody (errorMessage error) }
    | .ok (scanRequest, buffer) => scanReceived env conditions scanRequest buffer

end Server

end ShuleHub.MalwareScan
