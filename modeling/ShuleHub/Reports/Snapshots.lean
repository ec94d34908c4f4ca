import ShuleHub.Lib.JsDate
import ShuleHub.Uploads.FileStorage

/-! The artifacts of the report exports: what is put into a file, and its checksum. -/

namespace ShuleHub.Reports

open Uploads (Bytes TimeText)

inductive ReportExportFormat where
  | csv
  | xlsx
  | pdf
deriving DecidableEq

@[grind =] def ReportExportFormat.text : ReportExportFormat → String
  | .csv => "csv"
  | .xlsx => "xlsx"
  | .pdf => "pdf"

/-- A number stands as it is written, and a date that is none has no time. -/
inductive ReportArtifactValue where
  | null
  | bool (value : Bool)
  | num (literal : String)
  | str (value : String)
  | date (time : Option Int)
deriving DecidableEq

structure ReportArtifactInput where
  reportId : String
  module : String
  title : String
  filename : String
  generatedAt : TimeText
  filters : List (String × Json)
  headers : List String
  rows : List (List ReportArtifactValue)

structure ReportArtifact where
  filename : String
  contentType : String
  byteLength : Nat
  checksumSha256 : String
  generatedAt : String
  rowCount : Nat
  content : Bytes

def isSegmentChar (c : Char) : Bool := c.isAlphanum || c = '_' || c = '-'

def sanitizeSegment (fallback value : String) : String :=
  let hyphenated := JsText.replaceRuns isSegmentChar '-' false (JsText.trim value).toList
  let segment := ((hyphenated.dropWhile (· = '-')).reverse.dropWhile (· = '-')).reverse
  if segment = [] then fallback else String.ofList segment

def dateText (value : TimeText) : Except Exception String :=
  match value.time with
  | some time => .ok (JsDate.toISOString time)
  | none => .error (.internal "Invalid time value")

def csvText : ReportArtifactValue → Except Exception String
  | .null => .ok ""
  | .bool value => .ok (if value then "true" else "false")
  | .num literal => .ok literal
  | .str value => .ok value
  | .date (some time) => .ok (JsDate.toISOString time)
  | .date none => .error (.internal "Invalid time value")

def escapeCsvValue (value : ReportArtifactValue) : Except Exception (List Char) := do
  let normalized := (← csvText value).toList
  if normalized.any (· ∈ [Json.mark, ',', '\r', '\n']) then
    return Json.mark :: normalized.flatMap (fun c => if c = Json.mark then [c, c] else [c]) ++ [Json.mark]
  else return normalized

def renderCsv (rows : List (List ReportArtifactValue)) : Except Exception (List Char) := do
  let lines ← rows.mapM fun row => do return Json.commaSeparated (← row.mapM escapeCsvValue)
  return List.intercalate ['\r', '\n'] lines ++ ['\r', '\n']

def normalizeReportGeneratedAt (value : TimeText) (now : Int) : Except Exception String :=
  if value.text = "" then .ok (JsDate.toISOString now)
  else match value.time with
    | some time => .ok (JsDate.toISOString time)
    | none => .error (.internal "Report generatedAt must be a valid timestamp.")

def normalizeReportFilename (input : ReportArtifactInput) (extension : ReportExportFormat) : String :=
  let suffix := "." ++ extension.text
  let given := JsText.trim input.filename
  let filename := if given = "" then sanitizeSegment "report" input.reportId ++ suffix else given
  if suffix.toList.isSuffixOf (filename.toList.map Char.toLower) then filename else filename ++ suffix

structure ReportRenderers where
  xlsx : ReportArtifactInput → String → Int → Except Exception Bytes
  pdf : ReportArtifactInput → String → Int → Except Exception Bytes

section Create

variable (sha256 : Bytes → String)

def createCsvReportArtifact (input : ReportArtifactInput) : Except Exception ReportArtifact := do
  let csv ← renderCsv (input.headers.map .str :: input.rows)
  let generatedAt ← dateText input.generatedAt
  let content := JsText.utf8 csv
  return { filename := input.filename, contentType := "text/csv; charset=utf-8", byteLength := content.length
           checksumSha256 := sha256 content, generatedAt, rowCount := input.rows.length, content }

def createRenderedArtifact (format : ReportExportFormat) (contentType : String)
    (renderContent : ReportArtifactInput → String → Int → Except Exception Bytes) (input : ReportArtifactInput)
    (now : Int) : Except Exception ReportArtifact := do
  let generatedAt ← normalizeReportGeneratedAt input.generatedAt now
  let content ← renderContent input generatedAt now
  return { filename := normalizeReportFilename input format, contentType, byteLength := content.length
           checksumSha256 := sha256 content, generatedAt, rowCount := input.rows.length, content }

def createXlsxReportArtifact (renderers : ReportRenderers) : ReportArtifactInput → Int → Except Exception ReportArtifact :=
  createRenderedArtifact sha256 .xlsx "application/vnd.openxmlformats-officedocument.spreadsheetml.sheet" renderers.xlsx

def createPdfReportArtifact (renderers : ReportRenderers) : ReportArtifactInput → Int → Except Exception ReportArtifact :=
  createRenderedArtifact sha256 .pdf "application/pdf" renderers.pdf

end Create

end ShuleHub.Reports

/-! The manifests of the exported reports, and the table that keeps them. -/

namespace ShuleHub.Reports

open Uploads (Bytes DbContext)

structure ReportSnapshotArtifact where
  filename : String
  contentType : String
  rowCount : Nat
  checksumSha256 : String
  generatedAt : String

structure ReportSnapshotManifestInput where
  tenantId : String
  module : String
  reportId : String
  title : String
  format : ReportExportFormat
  artifact : ReportSnapshotArtifact
  filters : List (String × Json)
  generatedByUserId : Option String

structure ReportSnapshotManifest where
  snapshotId : String
  tenantId : String
  module : String
  reportId : String
  title : String
  format : ReportExportFormat
  artifact : ReportSnapshotArtifact
  filters : List (String × Json)
  generatedByUserId : Option String
  manifestChecksumSha256 : String

def errorIf (condition : Prop) [Decidable condition] (message : String) : List String :=
  if condition then [message] else []

/-- No letter outside ASCII has one of these in its lower case. -/
def mentionsAttendance (text : List Char) : Prop :=
  JsText.includes (String.ofList (text.map Char.toLower)) "attendance" = true
deriving Decidable

def containsRetiredAttendanceReference (value : Json) : Prop := mentionsAttendance (Json.render value)
deriving Decidable

def isSha256Digest (text : String) : Prop :=
  text.toList.length = 64 ∧ (text.toList.all fun c => c.isDigit || c.toLower ∈ ['a', 'b', 'c', 'd', 'e', 'f']) = true
deriving Decidable

/-- The checks that the type of the input leaves open: the format is one of the three, the rows are counted, the filters
are an object, and the time of an artifact that has been made is one. -/
def validateReportSnapshotManifestInput (input : ReportSnapshotManifestInput) : List String :=
  errorIf (JsText.trim input.tenantId = "") "tenantId is required." ++
  errorIf (JsText.trim input.module = "") "module is required." ++
  errorIf (JsText.trim input.reportId = "") "reportId is required." ++
  errorIf (JsText.trim input.title = "") "title is required." ++
  errorIf (JsText.trim input.artifact.filename = "") "artifact.filename is required." ++
  errorIf (JsText.trim input.artifact.contentType = "") "artifact.contentType is required." ++
  errorIf (¬ isSha256Digest input.artifact.checksumSha256) "artifact.checksumSha256 must be a SHA-256 hex digest." ++
  errorIf (containsRetiredAttendanceReference (.str input.module) ∨
      containsRetiredAttendanceReference (.str input.reportId) ∨ containsRetiredAttendanceReference (.str input.title) ∨
      containsRetiredAttendanceReference (.str input.artifact.filename) ∨
      containsRetiredAttendanceReference (.obj input.filters))
    "Attendance report snapshots are retired. Use exams or active academic modules instead."

def buildReportSnapshotId (input : ReportSnapshotManifestInput) : String :=
  ":".intercalate (["report-snapshot", input.tenantId, input.module, input.reportId, input.format.text,
    String.ofList (input.artifact.checksumSha256.toList.take 16)].map (sanitizeSegment "unknown"))

def ReportSnapshotArtifact.toJson (artifact : ReportSnapshotArtifact) : Json :=
  .obj [("filename", .str artifact.filename), ("content_type", .str artifact.contentType),
    ("row_count", .num (JsNumber.ofNat artifact.rowCount)), ("checksum_sha256", .str artifact.checksumSha256),
    ("generated_at", .str artifact.generatedAt)]

def ReportSnapshotManifest.toJson (manifest : ReportSnapshotManifest) : Json :=
  .obj [("snapshot_id", .str manifest.snapshotId), ("tenant_id", .str manifest.tenantId), ("module", .str manifest.module),
    ("report_id", .str manifest.reportId), ("title", .str manifest.title), ("format", .str manifest.format.text),
    ("artifact", manifest.artifact.toJson), ("filters", .obj manifest.filters),
    ("generated_by_user_id", manifest.generatedByUserId.elim .null .str)]

def snapshotWithoutChecksum (input : ReportSnapshotManifestInput) : ReportSnapshotManifest where
  snapshotId := buildReportSnapshotId input
  tenantId := JsText.trim input.tenantId
  module := JsText.trim input.module
  reportId := JsText.trim input.reportId
  title := JsText.trim input.title
  format := input.format
  artifact :=
    { filename := JsText.trim input.artifact.filename
      contentType := JsText.trim input.artifact.contentType
      rowCount := input.artifact.rowCount
      checksumSha256 := String.ofList ((JsText.trim input.artifact.checksumSha256).toList.map Char.toLower)
      generatedAt := JsText.trim input.artifact.generatedAt }
  filters := input.filters
  generatedByUserId := (input.generatedByUserId.map JsText.trim).filter (· ≠ "")
  manifestChecksumSha256 := ""

def withChecksum (sha256 : Bytes → String) (manifest : ReportSnapshotManifest) : ReportSnapshotManifest :=
  { manifest with manifestChecksumSha256 := sha256 (JsText.utf8 (Json.serialize manifest.toJson)) }

def createReportSnapshotManifest (sha256 : Bytes → String) (input : ReportSnapshotManifestInput) :
    Except Exception ReportSnapshotManifest := do
  let errors := validateReportSnapshotManifestInput input
  failIf (errors ≠ []) (.internal (" ".intercalate errors))
  return withChecksum sha256 (snapshotWithoutChecksum input)

structure ReportSnapshot where
  id : String
  manifest : ReportSnapshotManifest
  createdAt : Int

def ReportSnapshot.key (snapshot : ReportSnapshot) : String × String :=
  (snapshot.manifest.tenantId, snapshot.manifest.snapshotId)

structure ReportSnapshotAuditLog where
  tenantId : String
  snapshotId : String
  action : String
  actorUserId : Option String
  requestId : Option String
  metadata : Json

structure SnapshotTables where
  snapshots : KeyedTable ReportSnapshot (String × String) ReportSnapshot.key
  auditLogs : List ReportSnapshotAuditLog

abbrev SnapshotAction := Effect SnapshotTables Exception

/-- The context of a request, with the user and the id that it has. -/
structure ReportContext where
  db : DbContext
  userId : Option String
  requestId : Option String
  newId : String

variable (context : ReportContext) (manifest : ReportSnapshotManifest)

structure StoredReportSnapshot where
  id : String
  snapshotId : String
  manifestChecksumSha256 : String
  createdAt : Int

def ReportSnapshotManifest.input : ReportSnapshotManifestInput where
  tenantId := manifest.tenantId
  module := manifest.module
  reportId := manifest.reportId
  title := manifest.title
  format := manifest.format
  artifact := manifest.artifact
  filters := manifest.filters
  generatedByUserId := manifest.generatedByUserId

def snapshotError (tables : SnapshotTables) :
    Option Exception :=
  if ¬ context.db.sees manifest.tenantId then some (.database "report_snapshots_rls_policy")
  else if ¬ (isSha256Digest manifest.manifestChecksumSha256 ∧
      (manifest.manifestChecksumSha256.toList.all fun c => c.toLower = c) = true) then
    some (.database "ck_report_snapshots_checksum")
  else if mentionsAttendance manifest.module.toList then some (.database "ck_report_snapshots_module_not_attendance")
  else if mentionsAttendance manifest.reportId.toList then some (.database "ck_report_snapshots_report_not_attendance")
  else if ∃ other ∈ tables.snapshots.rows, other.key = (manifest.tenantId, manifest.snapshotId) then
    some (.database "uq_report_snapshots_tenant_snapshot")
  else none

def insertSnapshot : SnapshotAction StoredReportSnapshot := do
  let tables ← Effect.current
  match snapshotError context manifest tables with
  | some error => fail error
  | none =>
    Effect.write fun tables => { tables with snapshots := tables.snapshots.put ⟨context.newId, manifest, context.db.now⟩ }
    return { id := context.newId, snapshotId := manifest.snapshotId
             manifestChecksumSha256 := manifest.manifestChecksumSha256, createdAt := context.db.now }

def auditLog : ReportSnapshotAuditLog where
  tenantId := manifest.tenantId
  snapshotId := manifest.snapshotId
  action := "report.snapshot.created"
  actorUserId := context.userId
  requestId := context.requestId
  metadata := .obj [("module", .str manifest.module), ("report_id", .str manifest.reportId),
    ("format", .str manifest.format.text), ("row_count", .num (JsNumber.ofNat manifest.artifact.rowCount)),
    ("artifact_checksum_sha256", .str manifest.artifact.checksumSha256),
    ("manifest_checksum_sha256", .str manifest.manifestChecksumSha256)]

/-- The snapshot has just been inserted, so its reference holds and its tenant is seen. -/
def insertAuditLog : SnapshotAction Unit :=
  Effect.write fun tables => { tables with auditLogs := tables.auditLogs ++ [auditLog context manifest] }

def saveManifest (stops : Bool) :
    SnapshotAction StoredReportSnapshot := do
  failIf (validateReportSnapshotManifestInput manifest.input ≠ []) (.badRequest "Report snapshot manifest is invalid.")
  let snapshot ← insertSnapshot context manifest
  failIf (stops = true) (.internal "stopped")
  insertAuditLog context manifest
  return snapshot

end ShuleHub.Reports
