import ShuleHub.Lib.JsMap
import ShuleHub.Reports.Snapshots

/-! The worker that makes the report exports: it stores the artifact, then the snapshot, and remembers what it has
completed for as long as its process lives. -/

namespace ShuleHub.Reports

open Uploads (Bytes FileStorage ObjectStorageConfig SaveInput TimeText)

structure ReportExportJobPayload where
  tenantId : String
  requestedByUserId : Option String
  requestId : String
  module : String
  reportId : String
  format : ReportExportFormat
  filters : Option (List (String × Json))
  estimatedRows : Option JsNumber
  enqueuedAt : TimeText

variable (payload : ReportExportJobPayload)

structure ReportExportSourceData where
  title : String
  headers : List String
  rows : List (List ReportArtifactValue)

def validateReportExportJobPayload : List String :=
  errorIf (JsText.trim payload.tenantId = "") "tenant_id is required." ++
  errorIf (JsText.trim payload.requestId = "") "request_id is required." ++
  errorIf (JsText.trim payload.module = "") "module is required." ++
  errorIf (JsText.trim payload.reportId = "") "report_id is required." ++
  errorIf (containsRetiredAttendanceReference (.str payload.module) ∨
      containsRetiredAttendanceReference (.str payload.reportId) ∨
      ∃ filters ∈ payload.filters, containsRetiredAttendanceReference (.obj filters))
    "Attendance exports are retired. Use the exams or active academic modules instead."

def buildExportDedupeKey : String :=
  String.ofList (Json.render (.obj [("tenant_id", .str payload.tenantId),
    ("requested_by_user_id", payload.requestedByUserId.elim .null .str), ("request_id", .str payload.requestId),
    ("module", .str payload.module), ("report_id", .str payload.reportId), ("format", .str payload.format.text),
    ("filters", .obj (payload.filters.getD []))]))

def buildDefaultSourceData : ReportExportSourceData where
  title := String.ofList (JsText.replaceRuns (· ∉ ['-', '_']) ' ' false
    (payload.module ++ " " ++ payload.reportId).toList)
  headers := ["Module", "Report", "Request ID", "Estimated Rows"]
  rows := [[.str payload.module, .str payload.reportId, .str payload.requestId,
    .num (payload.estimatedRows.elim "0" (·.text))]]

def artifactInput (source : ReportExportSourceData) : ReportArtifactInput where
  reportId := payload.reportId
  module := payload.module
  title := source.title
  filename := payload.module ++ "-" ++ payload.reportId ++ "." ++ payload.format.text
  generatedAt := payload.enqueuedAt
  filters := payload.filters.getD []
  headers := source.headers
  rows := source.rows

structure StoredReportArtifact where
  storagePath : String
  checksumSha256 : String
  storageBackend : Uploads.StorageBackend

structure ExportedArtifact where
  filename : String
  contentType : String
  format : ReportExportFormat
  rowCount : Nat
  checksumSha256 : String
  storagePath : String

structure ReportExportWorkerResult where
  deduplicated : Bool
  artifact : ExportedArtifact
  snapshot : ReportSnapshotManifest
  persisted : StoredReportSnapshot

structure ReportWorker where
  storage : FileStorage
  tables : SnapshotTables
  completedExports : JsMap String ReportExportWorkerResult

abbrev WorkerAction := Effect ReportWorker Exception

/-- After which statement a call is stopped: its object has been sent, its file stored, its snapshot inserted, or its
audit log written. -/
inductive Interruption where
  | objectStored
  | fileStored
  | snapshotInserted
  | auditLogInserted
deriving DecidableEq

structure ReportExportCall where
  context : ReportContext
  payload : ReportExportJobPayload
  sourceData : Option ReportExportSourceData
  objectStorageEnabled : Bool
  etag : Option String
  interruption : Option Interruption

def ReportExportCall.source (call : ReportExportCall) : ReportExportSourceData :=
  call.sourceData.getD (buildDefaultSourceData call.payload)

section Execute

variable (sha256 : Bytes → String) (objectStorage : Option (Except Exception ObjectStorageConfig))
  (renderers : ReportRenderers) (payload : ReportExportJobPayload) (call : ReportExportCall) (artifact : ReportArtifact)

def createArtifact (source : ReportExportSourceData) (now : Int) :
    Except Exception ReportArtifact :=
  match payload.format with
  | .xlsx => createXlsxReportArtifact sha256 renderers (artifactInput payload source) now
  | .pdf => createPdfReportArtifact sha256 renderers (artifactInput payload source) now
  | .csv => createCsvReportArtifact sha256 (artifactInput payload source)

def buildReportArtifactStoragePath : String :=
  let last := ((artifact.filename.toList.splitOn '.').getLast?.getD []).map Char.toLower
  let extension := if last = [] then "bin" else String.ofList last
  "tenant/" ++ payload.tenantId ++ "/reports/" ++ sanitizeSegment "report" payload.module ++ "/" ++
    sanitizeSegment "report" payload.reportId ++ "/" ++ artifact.checksumSha256 ++ "." ++ extension

def artifactFile : SaveInput where
  tenantId := payload.tenantId
  storagePath := buildReportArtifactStoragePath payload artifact
  originalFileName := artifact.filename
  mimeType := artifact.contentType
  sizeBytes := artifact.byteLength
  buffer := artifact.content
  metadata := [("module", .str payload.module), ("report_id", .str payload.reportId),
    ("row_count", .num (JsNumber.ofNat artifact.rowCount)), ("generated_at", .str artifact.generatedAt),
    ("checksum_sha256", .str artifact.checksumSha256)]
  retentionPolicy := some "reports"
  retentionExpiresAt := none

def storeArtifact :
    Uploads.FileAction StoredReportArtifact := do
  let stored ← Uploads.save sha256 objectStorage call.context.db call.objectStorageEnabled
    (artifactFile call.payload artifact) (.answered call.etag) (call.interruption = some .objectStored)
  return { storagePath := stored.storedPath, checksumSha256 := stored.sha256, storageBackend := stored.storageBackend }

def manifestInput (source : ReportExportSourceData) (artifact : ReportArtifact) :
    ReportSnapshotManifestInput where
  tenantId := payload.tenantId
  module := payload.module
  reportId := payload.reportId
  title := source.title
  format := payload.format
  artifact :=
    { filename := artifact.filename
      contentType := artifact.contentType
      rowCount := artifact.rowCount
      checksumSha256 := artifact.checksumSha256
      generatedAt := artifact.generatedAt }
  filters := payload.filters.getD []
  generatedByUserId := payload.requestedByUserId

def interruptedAt (point : Interruption) : WorkerAction Unit :=
  failIf (call.interruption = some point) (.internal "stopped")

def exportResult (stored : StoredReportArtifact)
    (manifest : ReportSnapshotManifest) (persisted : StoredReportSnapshot) : ReportExportWorkerResult where
  deduplicated := false
  artifact :=
    { filename := artifact.filename
      contentType := artifact.contentType
      format := payload.format
      rowCount := artifact.rowCount
      checksumSha256 := artifact.checksumSha256
      storagePath := stored.storagePath }
  snapshot := manifest
  persisted := persisted

def recordExport (stored : StoredReportArtifact) :
    WorkerAction ReportExportWorkerResult := do
  interruptedAt call .fileStored
  let manifest ← createReportSnapshotManifest sha256 (manifestInput call.payload call.source artifact)
  let persisted ← Effect.zoom ReportWorker.tables (fun worker tables => { worker with tables })
    (saveManifest call.context manifest (call.interruption = some .snapshotInserted))
  interruptedAt call .auditLogInserted
  let result := exportResult call.payload artifact stored manifest persisted
  Effect.write fun worker =>
    { worker with completedExports := worker.completedExports.set (buildExportDedupeKey call.payload) result }
  return result

def exportReport : WorkerAction ReportExportWorkerResult := do
  let artifact ← createArtifact sha256 renderers call.payload call.source call.context.db.now
  let stored ← Effect.zoom ReportWorker.storage (fun worker storage => { worker with storage })
    (storeArtifact sha256 objectStorage call artifact)
  recordExport sha256 call artifact stored

def execute : WorkerAction ReportExportWorkerResult := do
  let errors := validateReportExportJobPayload call.payload
  failIf (errors ≠ []) (.badRequest (" ".intercalate errors))
  let worker ← Effect.current
  match worker.completedExports.get? (buildExportDedupeKey call.payload) with
  | some existing => return { existing with deduplicated := true }
  | none => exportReport sha256 objectStorage renderers call

end Execute

end ShuleHub.Reports
