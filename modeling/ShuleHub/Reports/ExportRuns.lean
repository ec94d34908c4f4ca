import ShuleHub.Reports.ExportWorker
import ShuleHub.Uploads.FileRuns

/-! Exports that are repeated, stopped after any statement, or made anew by another process: when each of them succeeds
and returns what was returned before. -/

namespace ShuleHub.Reports

open Runs Uploads Effect Outcome

structure ReportWorld where
  worker : ReportWorker
  returned : List (ReportExportJobPayload × ReportExportWorkerResult)

def ReportWorld.start (storage : FileStorage) (tables : SnapshotTables) : ReportWorld where
  worker := ⟨storage, tables, []⟩
  returned := []

/-- A restart forgets what the process has completed. -/
inductive ReportEvent where
  | execute (call : ReportExportCall)
  | restart

def SameExport (first second : ReportExportWorkerResult) : Prop :=
  first.artifact.storagePath = second.artifact.storagePath ∧ first.snapshot.snapshotId = second.snapshot.snapshotId

section Definitions

variable (sha256 : Bytes → String) (objectStorage : Option (Except Exception ObjectStorageConfig))
  (renderers : ReportRenderers) (world : ReportWorld)

def step : ReportEvent → ReportWorld
  | .restart => { world with worker := { world.worker with completedExports := [] } }
  | .execute call =>
    let ran := (execute sha256 objectStorage renderers call).run world.worker
    { worker := ran.1
      returned := match call.interruption, ran.2 with
        | none, .ok result => (call.payload, result) :: world.returned
        | _, _ => world.returned }

def HasOwnChecksum (storage : FileStorage) (tenantId : String) (artifact : ExportedArtifact) : Prop :=
  ∃ file ∈ storage.files.rows, file.key = (tenantId, artifact.storagePath) ∧ file.sha256 = artifact.checksumSha256 ∧
    ∃ content, sha256 content = artifact.checksumSha256 ∧ (file.storageBackend = .database → file.content = some content)

/-- What is promised of one call: it succeeds, with the checksum of its artifact and what was returned before. -/
def Delivers : ReportEvent → Prop
  | .restart => True
  | .execute call => call.interruption = none → validateReportExportJobPayload call.payload = [] →
    ∃ after result, (execute sha256 objectStorage renderers call).run world.worker = (after, .ok result) ∧
      HasOwnChecksum sha256 after.storage call.payload.tenantId result.artifact ∧
      ∀ earlier ∈ world.returned, earlier.1 = call.payload → SameExport earlier.2 result

structure Storable (context : DbContext) (objectStorageEnabled : Bool) (input : SaveInput) (insertFails : Bool)
    (storage : FileStorage) : Prop where
  checked : (saveChecks input).isOk = true
  object : objectStorageEnabled = true → ∃ config ∈ objectStorage,
    (putChecks config input.tenantId input.storagePath input.mimeType).isOk = true
  free : insertError context (input.tenantId, input.storagePath) input.sizeBytes insertFails storage = none

def manifestOf (call : ReportExportCall) (artifact : ReportArtifact) : ReportSnapshotManifest :=
  withChecksum sha256 (snapshotWithoutChecksum (manifestInput call.payload call.source artifact))

structure Recordable (call : ReportExportCall) (artifact : ReportArtifact) (tables : SnapshotTables) : Prop where
  checked : validateReportSnapshotManifestInput (manifestInput call.payload call.source artifact) = []
  rechecked : validateReportSnapshotManifestInput (manifestOf sha256 call artifact).input = []
  free : snapshotError call.context (manifestOf sha256 call artifact) tables = none

/-- The artifact can be made, and neither table has its path or its snapshot. -/
def Exportable (worker : ReportWorker) (call : ReportExportCall) : Prop :=
  ∃ artifact, createArtifact sha256 renderers call.payload call.source call.context.db.now = .ok artifact ∧
    Storable objectStorage call.context.db call.objectStorageEnabled (artifactFile call.payload artifact)
      (call.interruption = some .objectStored) worker.storage ∧
    Recordable sha256 call artifact worker.tables

/-- The condition on one call. What the process remembers must be what was returned for the payload before; without a
memory the export must be possible, and nothing may have been returned for the payload. -/
def FindsItsExport : ReportEvent → Prop
  | .restart => True
  | .execute call => call.interruption = none → validateReportExportJobPayload call.payload = [] →
    match world.worker.completedExports.get? (buildExportDedupeKey call.payload) with
    | some existing => ∀ earlier ∈ world.returned, earlier.1 = call.payload → SameExport earlier.2 existing
    | none => Exportable sha256 objectStorage renderers world.worker call ∧
      ∀ earlier ∈ world.returned, earlier.1 ≠ call.payload

end Definitions

section Files

variable {sha256 : Bytes → String} {objectStorage : Option (Except Exception ObjectStorageConfig)} {context : DbContext}
  {objectStorageEnabled : Bool} {input : SaveInput} {etag : Option String} {insertFails : Bool} {storage : FileStorage}

theorem writeObjectStorageIfEnabled_files {after : FileStorage} {outcome : Except Exception (Option ObjectStoragePutResult)}
    (checked : (saveChecks input).isOk = true)
    (ran : (writeObjectStorageIfEnabled sha256 objectStorage objectStorageEnabled input (.answered etag)).run storage =
      (after, outcome)) :
    after.files = storage.files ∧ (outcome.isOk = true ↔ (objectStorageEnabled = true → ∃ config ∈ objectStorage,
      (putChecks config input.tenantId input.storagePath input.mimeType).isOk = true)) := by
  have wrote : WroteObject objectStorage objectStorageEnabled input (.answered etag) storage (after, outcome) := by
    rw [← ran]
    exact writeObjectStorageIfEnabled_wrote checked
  cases objectStorageEnabled with
  | false =>
    have off : (writeObjectStorageIfEnabled sha256 objectStorage false input (.answered etag)).run storage =
        (storage, .ok none) := rfl
    rw [off] at ran
    cases ran
    exact ⟨rfl, iff_of_true rfl (by simp)⟩
  | true =>
    cases wrote with
    | disabled off => cases off
    | unstored apart error =>
      simp only [StoresObject, checked, ne_eq, reduceCtorEq, not_false_iff, true_and] at apart
      exact ⟨rfl, iff_of_false (by simp [Except.isOk, Except.toBool]) fun usable => apart (usable rfl)⟩
    | unanswered stores lost error => cases lost
    | stored stores answered result =>
      obtain ⟨-, -, -, usable⟩ := stores
      exact ⟨rfl, iff_of_true rfl fun _ => usable⟩

inductive FileSaved (sha256 : Bytes → String) (objectStorage : Option (Except Exception ObjectStorageConfig))
    (context : DbContext) (objectStorageEnabled : Bool) (input : SaveInput) (insertFails : Bool) (storage : FileStorage) :
    FileStorage × Except Exception StoredFileObject → Prop where
  | refused (apart : ¬ Storable objectStorage context objectStorageEnabled input insertFails storage)
    (after : FileStorage) (error : Exception) (same : after.files = storage.files) :
    FileSaved sha256 objectStorage context objectStorageEnabled input insertFails storage (after, .error error)
  | stored (storable : Storable objectStorage context objectStorageEnabled input insertFails storage)
    (after : FileStorage) (retention : String × Option Int) (result : Option ObjectStoragePutResult)
    (put : after.files = storage.files.put (newFile sha256 context input retention.1 retention.2 result)) :
    FileSaved sha256 objectStorage context objectStorageEnabled input insertFails storage
      (after, .ok (mapStoredFileObjectRow (newFile sha256 context input retention.1 retention.2 result)))

theorem save_fileSaved : FileSaved sha256 objectStorage context objectStorageEnabled input insertFails storage
    ((save sha256 objectStorage context objectStorageEnabled input (.answered etag) insertFails).run storage) := by
  unfold save
  cases checked : saveChecks input with
  | error error =>
    refine .refused (fun storable => ?_) storage error rfl
    have accepted := storable.checked
    rw [checked] at accepted
    exact absurd accepted nofun
  | ok retention =>
    have accepted : (saveChecks input).isOk = true := by rw [checked]; rfl
    change FileSaved _ _ _ _ _ _ _
      ((writeObjectStorageIfEnabled sha256 objectStorage objectStorageEnabled input (.answered etag) >>= fun stored =>
        insertFile context (newFile sha256 context input retention.1 retention.2 stored) insertFails >>= fun file =>
          pure (mapStoredFileObjectRow file)).run storage)
    rw [run_bind]
    cases ran : (writeObjectStorageIfEnabled sha256 objectStorage objectStorageEnabled input (.answered etag)).run storage with
    | mk middle outcome =>
      obtain ⟨same, written⟩ := writeObjectStorageIfEnabled_files accepted ran
      cases outcome with
      | error error =>
        refine .refused (fun storable => ?_) middle error same
        exact absurd (written.mpr storable.object) nofun
      | ok result =>
        have unchanged : insertError context (newFile sha256 context input retention.1 retention.2 result).key
            (newFile sha256 context input retention.1 retention.2 result).sizeBytes insertFails middle =
          insertError context (input.tenantId, input.storagePath) input.sizeBytes insertFails storage := by
          unfold insertError
          rw [same]
          rfl
        simp only [run_bind, insertFile_run, unchanged]
        cases free : insertError context (input.tenantId, input.storagePath) input.sizeBytes insertFails storage with
        | some error =>
          refine .refused (fun storable => ?_) middle error same
          rw [storable.free] at free
          cases free
        | none =>
          refine .stored ⟨accepted, written.mp rfl, free⟩ _ retention result ?_
          rw [← same]

end Files

section Exports

variable {sha256 : Bytes → String} {objectStorage : Option (Except Exception ObjectStorageConfig)}
  {renderers : ReportRenderers} {call : ReportExportCall} {worker : ReportWorker} {artifact : ReportArtifact}
  {payload : ReportExportJobPayload} {manifest : ReportSnapshotManifest} {tables : SnapshotTables}
  {context : ReportContext} {after storage : FileStorage} {stored : StoredReportArtifact}
  {retention : String × Option Int} {object : Option ObjectStoragePutResult}

theorem createArtifact_checksum {source : ReportExportSourceData} {now : Int}
    (created : createArtifact sha256 renderers payload source now = .ok artifact) :
    artifact.checksumSha256 = sha256 artifact.content := by
  unfold createArtifact createXlsxReportArtifact createPdfReportArtifact createRenderedArtifact createCsvReportArtifact
    at created
  split at created <;>
  · simp only [bind_ok, pure_ok] at created
    obtain ⟨_, _, _, _, rfl⟩ := created
    rfl

theorem insertSnapshot_run :
    (insertSnapshot context manifest).run tables =
      match snapshotError context manifest tables with
      | some error => (tables, .error error)
      | none => ({ tables with snapshots := tables.snapshots.put ⟨context.newId, manifest, context.db.now⟩ }, .ok
          { id := context.newId, snapshotId := manifest.snapshotId
            manifestChecksumSha256 := manifest.manifestChecksumSha256, createdAt := context.db.now }) := by
  simp only [insertSnapshot, run_bind, run_current]
  cases snapshotError context manifest tables with
  | some error => rfl
  | none => simp only [run_bind, run_write, run_pure]

theorem saveManifest_isOk {after : SnapshotTables} {stops : Bool} {outcome : Except Exception StoredReportSnapshot}
    (ran : (saveManifest context manifest stops).run tables = (after, outcome)) :
    outcome.isOk = true ↔ validateReportSnapshotManifestInput manifest.input = [] ∧
      snapshotError context manifest tables = none ∧ stops = false := by
  simp only [saveManifest, run_bind, run_failIf, insertSnapshot_run] at ran
  cases checked : validateReportSnapshotManifestInput manifest.input with
  | cons first others =>
    rw [checked, if_pos (List.cons_ne_nil _ _)] at ran
    cases ran
    simp [Except.isOk, Except.toBool]
  | nil =>
    rw [checked, if_neg (not_not.mpr rfl)] at ran
    cases free : snapshotError context manifest tables with
    | some error =>
      simp only [free] at ran
      cases ran
      simp [Except.isOk, Except.toBool]
    | none =>
      simp only [free] at ran
      cases stops with
      | true =>
        cases ran
        simp [Except.isOk, Except.toBool]
      | false =>
        cases ran
        exact iff_of_true rfl ⟨rfl, rfl, rfl⟩

theorem createReportSnapshotManifest_eq :
    createReportSnapshotManifest sha256 (manifestInput call.payload call.source artifact) =
      if validateReportSnapshotManifestInput (manifestInput call.payload call.source artifact) = [] then
        .ok (manifestOf sha256 call artifact)
      else .error (.internal (" ".intercalate
        (validateReportSnapshotManifestInput (manifestInput call.payload call.source artifact)))) := by
  simp only [createReportSnapshotManifest, failIf]
  by_cases checked : validateReportSnapshotManifestInput (manifestInput call.payload call.source artifact) = []
  · rw [if_pos checked, if_neg (not_not.mpr checked)]
    rfl
  · rw [if_neg checked, if_pos checked]
    rfl

inductive Recorded (sha256 : Bytes → String) (worker : ReportWorker) (call : ReportExportCall)
    (artifact : ReportArtifact) (stored : StoredReportArtifact) :
    ReportWorker × Except Exception ReportExportWorkerResult → Prop where
  | refused (apart : call.interruption = none → ¬ Recordable sha256 call artifact worker.tables)
    (tables : SnapshotTables) (error : Exception) :
    Recorded sha256 worker call artifact stored ({ worker with tables }, .error error)
  | completed (recordable : Recordable sha256 call artifact worker.tables) (tables : SnapshotTables)
    (persisted : StoredReportSnapshot) (result : ReportExportWorkerResult)
    (shown : result = exportResult call.payload artifact stored (manifestOf sha256 call artifact) persisted) :
    Recorded sha256 worker call artifact stored
      (⟨worker.storage, tables, worker.completedExports.set (buildExportDedupeKey call.payload) result⟩, .ok result)

theorem recordExport_recorded :
    Recorded sha256 worker call artifact stored ((recordExport sha256 call artifact stored).run worker) := by
  simp only [recordExport, interruptedAt, run_bind, run_failIf, run_lift,
    createReportSnapshotManifest_eq]
  by_cases stopped : call.interruption = some .fileStored
  · rw [if_pos stopped]
    exact .refused (by simp [stopped]) worker.tables _
  · rw [if_neg stopped]
    by_cases checked : validateReportSnapshotManifestInput (manifestInput call.payload call.source artifact) = []
    · rw [if_pos checked]
      simp only [run_zoom]
      cases ran : (saveManifest call.context (manifestOf sha256 call artifact)
          (call.interruption = some .snapshotInserted)).run worker.tables with
      | mk tables outcome =>
        cases outcome with
        | error error =>
          refine .refused (fun running recordable => ?_) tables error
          have kept : decide (call.interruption = some .snapshotInserted) = false := by simp [running]
          cases (saveManifest_isOk ran).mpr ⟨recordable.rechecked, recordable.free, kept⟩
        | ok persisted =>
          obtain ⟨rechecked, free, -⟩ := (saveManifest_isOk ran).mp rfl
          dsimp only
          by_cases late : call.interruption = some .auditLogInserted
          · rw [if_pos late]
            exact .refused (by simp [late]) tables _
          · rw [if_neg late]
            exact .completed ⟨checked, rechecked, free⟩ tables persisted _ rfl
    · rw [if_neg checked]
      exact .refused (fun _ recordable => checked recordable.checked) worker.tables _

inductive Exported (sha256 : Bytes → String) (objectStorage : Option (Except Exception ObjectStorageConfig))
    (renderers : ReportRenderers) (worker : ReportWorker) (call : ReportExportCall) :
    ReportWorker × Except Exception ReportExportWorkerResult → Prop where
  | refused (apart : call.interruption = none → ¬ Exportable sha256 objectStorage renderers worker call)
    (after : ReportWorker) (error : Exception) (grown : worker.storage.files.rows ⊆ after.storage.files.rows)
    (same : after.completedExports = worker.completedExports) :
    Exported sha256 objectStorage renderers worker call (after, .error error)
  | completed (exportable : Exportable sha256 objectStorage renderers worker call) (after : ReportWorker)
    (result : ReportExportWorkerResult) (grown : worker.storage.files.rows ⊆ after.storage.files.rows)
    (own : HasOwnChecksum sha256 after.storage call.payload.tenantId result.artifact)
    (fresh : ∀ file ∈ worker.storage.files.rows, file.key ≠ (call.payload.tenantId, result.artifact.storagePath))
    (remembered : after.completedExports = worker.completedExports.set (buildExportDedupeKey call.payload) result) :
    Exported sha256 objectStorage renderers worker call (after, .ok result)

theorem insertError_none {context : DbContext} {key : String × String} {sizeBytes : Int} {fails : Bool} (free : insertError context key sizeBytes fails storage = none) :
    ∀ other ∈ storage.files.rows, other.key ≠ key := by
  intro other member same
  unfold insertError at free
  have taken : ∃ other ∈ storage.files.rows, other.key = key := ⟨other, member, same⟩
  rw [if_pos taken] at free
  split_ifs at free

theorem hasOwnChecksum_stored {context : DbContext} {stored : ExportedArtifact}
    (put : after.files = storage.files.put
      (newFile sha256 context (artifactFile payload artifact) retention.1 retention.2 object))
    (path : stored.storagePath = buildReportArtifactStoragePath payload artifact)
    (checksum : stored.checksumSha256 = sha256 artifact.content) :
    HasOwnChecksum sha256 after payload.tenantId stored := by
  refine ⟨newFile sha256 context (artifactFile payload artifact) retention.1 retention.2 object, ?_, ?_, checksum.symm,
    artifact.content, checksum.symm, ?_⟩
  · rw [put]
    exact KeyedTable.mem_put.mpr (.inl rfl)
  · rw [path]
    rfl
  · cases object with
    | none => exact fun _ => rfl
    | some object => exact nofun

theorem exported_of_recorded
    {ran : ReportWorker × Except Exception ReportExportWorkerResult}
    (created : createArtifact sha256 renderers call.payload call.source call.context.db.now = .ok artifact)
    (storable : Storable objectStorage call.context.db call.objectStorageEnabled (artifactFile call.payload artifact)
      (call.interruption = some .objectStored) worker.storage)
    (put : after.files = worker.storage.files.put
      (newFile sha256 call.context.db (artifactFile call.payload artifact) retention.1 retention.2 object))
    (path : stored.storagePath = buildReportArtifactStoragePath call.payload artifact)
    (recorded : Recorded sha256 { worker with storage := after } call artifact stored ran) :
    Exported sha256 objectStorage renderers worker call ran := by
  have fresh := insertError_none storable.free
  have grown : worker.storage.files.rows ⊆ after.files.rows := by
    intro file member
    rw [put]
    exact KeyedTable.mem_put.mpr (.inr ⟨member, fresh file member⟩)
  cases recorded with
  | refused apart tables error =>
    refine .refused (fun running exportable => ?_) _ error grown rfl
    obtain ⟨other, made, -, recordable⟩ := exportable
    rw [created] at made
    cases made
    exact apart running recordable
  | completed recordable tables persisted result shown =>
    subst shown
    apply Exported.completed ⟨artifact, created, storable, recordable⟩ _ _ grown
    · exact hasOwnChecksum_stored put path (createArtifact_checksum created)
    · intro file member same
      apply fresh file member
      rw [same]
      exact congrArg (Prod.mk call.payload.tenantId) path
    · rfl

theorem exportReport_exported : Exported sha256 objectStorage renderers worker call
    ((exportReport sha256 objectStorage renderers call).run worker) := by
  simp only [exportReport, storeArtifact, run_bind, run_lift]
  cases created : createArtifact sha256 renderers call.payload call.source call.context.db.now with
  | error error =>
    refine .refused (fun _ exportable => ?_) worker error (List.Subset.refl _) rfl
    obtain ⟨artifact, made, -⟩ := exportable
    rw [created] at made
    cases made
  | ok artifact =>
    simp only [run_zoom, run_bind]
    have saved : FileSaved sha256 objectStorage call.context.db call.objectStorageEnabled
        (artifactFile call.payload artifact) (call.interruption = some .objectStored) worker.storage
        ((save sha256 objectStorage call.context.db call.objectStorageEnabled (artifactFile call.payload artifact)
          (.answered call.etag) (call.interruption = some .objectStored)).run worker.storage) := save_fileSaved
    generalize (save sha256 objectStorage call.context.db call.objectStorageEnabled (artifactFile call.payload artifact)
      (.answered call.etag) (call.interruption = some .objectStored)).run worker.storage = ran at saved
    cases saved with
    | refused apart after error same =>
      refine .refused (fun _ exportable => ?_) _ error ?_ rfl
      · obtain ⟨other, made, storable, -⟩ := exportable
        rw [created] at made
        cases made
        exact apart storable
      · rw [← same]
        exact List.Subset.refl _
    | stored storable after retention object put =>
      simp only [run_pure]
      exact exported_of_recorded created storable put rfl recordExport_recorded

inductive Executed (sha256 : Bytes → String) (objectStorage : Option (Except Exception ObjectStorageConfig))
    (renderers : ReportRenderers) (worker : ReportWorker) (call : ReportExportCall) :
    ReportWorker × Except Exception ReportExportWorkerResult → Prop where
  | invalid (errors : validateReportExportJobPayload call.payload ≠ []) (error : Exception) :
    Executed sha256 objectStorage renderers worker call (worker, .error error)
  | remembered (existing : ReportExportWorkerResult)
    (found : worker.completedExports.get? (buildExportDedupeKey call.payload) = some existing) :
    Executed sha256 objectStorage renderers worker call (worker, .ok { existing with deduplicated := true })
  | exported (absent : worker.completedExports.get? (buildExportDedupeKey call.payload) = none)
    (ran : ReportWorker × Except Exception ReportExportWorkerResult)
    (exported : Exported sha256 objectStorage renderers worker call ran) :
    Executed sha256 objectStorage renderers worker call ran

theorem execute_executed : Executed sha256 objectStorage renderers worker call
    ((execute sha256 objectStorage renderers call).run worker) := by
  simp only [execute, run_bind, run_failIf, run_current]
  by_cases errors : validateReportExportJobPayload call.payload ≠ []
  · rw [if_pos errors]
    exact .invalid errors _
  · rw [if_neg errors]
    dsimp only
    cases found : worker.completedExports.get? (buildExportDedupeKey call.payload) with
    | some existing => exact .remembered existing found
    | none => exact .exported found _ exportReport_exported

end Exports

section Steps

variable {sha256 : Bytes → String} {objectStorage : Option (Except Exception ObjectStorageConfig)}
  {renderers : ReportRenderers} {world : ReportWorld}

theorem hasOwnChecksum_grown {storage after : FileStorage} {tenantId : String} {artifact : ExportedArtifact}
    (grown : storage.files.rows ⊆ after.files.rows) (own : HasOwnChecksum sha256 storage tenantId artifact) :
    HasOwnChecksum sha256 after tenantId artifact := by
  obtain ⟨file, member, rest⟩ := own
  exact ⟨file, grown member, rest⟩

theorem tenantId_of_dedupeKey {first second : ReportExportJobPayload}
    (same : buildExportDedupeKey first = buildExportDedupeKey second) : first.tenantId = second.tenantId := by
  have fields := Json.render_injective (String.ofList_injective same)
  simp only [Json.obj.injEq, List.cons.injEq, Prod.mk.injEq, Json.str.injEq, true_and] at fields
  exact fields.1

/-- Whatever is remembered or has been returned names a file with its checksum. -/
structure Backed (sha256 : Bytes → String) (world : ReportWorld) : Prop where
  remembered : ∀ key result, world.worker.completedExports.get? key = some result →
    ∃ payload, buildExportDedupeKey payload = key ∧
      HasOwnChecksum sha256 world.worker.storage payload.tenantId result.artifact
  returned : ∀ entry ∈ world.returned,
    HasOwnChecksum sha256 world.worker.storage entry.1.tenantId entry.2.artifact

theorem backed_existing (backed : Backed sha256 world) {payload : ReportExportJobPayload}
    {existing : ReportExportWorkerResult}
    (found : world.worker.completedExports.get? (buildExportDedupeKey payload) = some existing) :
    HasOwnChecksum sha256 world.worker.storage payload.tenantId existing.artifact := by
  obtain ⟨first, same, own⟩ := backed.remembered _ _ found
  rw [← tenantId_of_dedupeKey same]
  exact own

theorem backed_executed {call : ReportExportCall} {after : ReportWorker}
    {outcome : Except Exception ReportExportWorkerResult} (backed : Backed sha256 world)
    (executed : Executed sha256 objectStorage renderers world.worker call (after, outcome)) :
    Backed sha256 ⟨after, world.returned⟩ ∧
      ∀ result, outcome = .ok result → HasOwnChecksum sha256 after.storage call.payload.tenantId result.artifact := by
  cases executed with
  | invalid errors error => exact ⟨backed, fun _ same => absurd same error_ne_ok⟩
  | remembered existing found =>
    have own := backed_existing backed found
    refine ⟨backed, fun result same => ?_⟩
    cases same
    exact own
  | exported absent ran exported =>
    cases exported with
    | refused apart after error grown same =>
      refine ⟨⟨fun key result found => ?_, fun entry member => ?_⟩,
        fun _ same => absurd same error_ne_ok⟩
      · rw [same] at found
        obtain ⟨payload, own, backing⟩ := backed.remembered key result found
        exact ⟨payload, own, hasOwnChecksum_grown grown backing⟩
      · exact hasOwnChecksum_grown grown (backed.returned entry member)
    | completed exportable after result grown own fresh remembered =>
      refine ⟨⟨fun key found same => ?_, fun entry member => ?_⟩, fun found same => ?_⟩
      · rw [remembered, JsMap.get?_set] at same
        split at same
        · next own' =>
          cases same
          exact ⟨call.payload, own', own⟩
        · obtain ⟨payload, own', backing⟩ := backed.remembered key found same
          exact ⟨payload, own', hasOwnChecksum_grown grown backing⟩
      · exact hasOwnChecksum_grown grown (backed.returned entry member)
      · cases same
        exact own

theorem backed_step (backed : Backed sha256 world) (event : ReportEvent) :
    Backed sha256 (step sha256 objectStorage renderers world event) := by
  cases event with
  | restart => exact ⟨fun _ result found => absurd found (Option.some_ne_none result).symm, backed.returned⟩
  | execute call =>
    have executed : Executed sha256 objectStorage renderers world.worker call
        ((execute sha256 objectStorage renderers call).run world.worker) := execute_executed
    unfold step
    dsimp only
    generalize (execute sha256 objectStorage renderers call).run world.worker = ran at executed
    obtain ⟨after, outcome⟩ := ran
    obtain ⟨kept, own⟩ := backed_executed backed executed
    split
    · next result _ same =>
      refine ⟨kept.remembered, fun entry member => ?_⟩
      rcases List.mem_cons.mp member with rfl | earlier
      · exact own result same
      · exact kept.returned entry earlier
    · exact kept

theorem delivers_iff (backed : Backed sha256 world) (event : ReportEvent) :
    Delivers sha256 objectStorage renderers world event ↔ FindsItsExport sha256 objectStorage renderers world event := by
  cases event with
  | restart => exact Iff.rfl
  | execute call =>
    unfold Delivers FindsItsExport
    apply forall_congr'
    intro running
    apply forall_congr'
    intro valid
    have executed : Executed sha256 objectStorage renderers world.worker call
        ((execute sha256 objectStorage renderers call).run world.worker) := execute_executed
    generalize (execute sha256 objectStorage renderers call).run world.worker = ran at executed
    cases executed with
    | invalid errors error => exact absurd valid errors
    | remembered existing found =>
      have own := backed_existing backed found
      rw [found]
      constructor
      · rintro ⟨after, result, same, -, agree⟩
        cases same
        exact agree
      · intro agree
        exact ⟨_, _, rfl, own, agree⟩
    | exported absent ran exported =>
      rw [absent]
      cases exported with
      | refused apart after error grown same =>
        constructor
        · rintro ⟨_, _, same, -⟩
          cases same
        · rintro ⟨exportable, -⟩
          exact absurd exportable (apart running)
      | completed exportable after result grown own fresh remembered =>
        constructor
        · rintro ⟨_, _, same, -, agree⟩
          cases same
          refine ⟨exportable, fun earlier member equal => ?_⟩
          obtain ⟨file, present, key, -⟩ := backed.returned earlier member
          apply fresh file present
          rw [key, equal, (agree earlier member equal).1]
        · rintro ⟨-, unknown⟩
          exact ⟨after, result, rfl, own, fun earlier member same => absurd same (unknown earlier member)⟩

end Steps

/-- Every call of a run succeeds with its own checksum and what was returned before exactly if every call of it finds its
export in the memory of its process, or finds it possible and new. -/
theorem exports_delivered_iff (sha256 : Bytes → String) (objectStorage : Option (Except Exception ObjectStorageConfig))
    (renderers : ReportRenderers) (storage : FileStorage) (tables : SnapshotTables) (events : List ReportEvent) :
    Meets (step sha256 objectStorage renderers) (Delivers sha256 objectStorage renderers)
        (ReportWorld.start storage tables) events ↔
      Meets (step sha256 objectStorage renderers) (FindsItsExport sha256 objectStorage renderers)
        (ReportWorld.start storage tables) events := by
  have agree (world : ReportWorld) (event : ReportEvent) (backed : Backed sha256 world) :
      Delivers sha256 objectStorage renderers world event ↔ FindsItsExport sha256 objectStorage renderers world event :=
    delivers_iff backed event
  have kept (world : ReportWorld) (event : ReportEvent) (backed : Backed sha256 world)
      (_ : FindsItsExport sha256 objectStorage renderers world event) :
      Backed sha256 (step sha256 objectStorage renderers world event) :=
    backed_step backed event
  apply meets_iff_meets agree kept events
  constructor
  · intro key result found
    exact absurd found (Option.some_ne_none result).symm
  · intro entry member
    exact absurd member List.not_mem_nil

def digest (bytes : Bytes) : String :=
  if bytes = JsText.utf8 "Module,Report,Request ID,Estimated Rows\r\nexams,results,req-1,0\r\n".toList then
    "e01eb383fd2b911db46732758edb8e9e7a01e06aa5fb458d11fcccf63c3b44e2"
  else "53367998f3c48a35201e8dd5ea505b76ef3a2b051cde90986d742001d992d11e"

def noRenderers : ReportRenderers where
  xlsx _ _ _ := .error (.internal "no spreadsheets")
  pdf _ _ _ := .error (.internal "no pages")

def noFiles : FileStorage where
  files := .empty
  objects := fun _ => none

def noSnapshots : SnapshotTables where
  snapshots := .empty
  auditLogs := []

def exportResults : ReportExportCall where
  context := ⟨⟨"lakeside", "admin", 1778745600000⟩, none, some "req-1", "snapshot-1"⟩
  payload :=
    { tenantId := "lakeside", requestedByUserId := none, requestId := "req-1", module := "exams", reportId := "results"
      format := .csv, filters := none, estimatedRows := none
      enqueuedAt := ⟨"2026-05-14T08:00:00.000Z", some 1778745600000⟩ }
  sourceData := none
  objectStorageEnabled := false
  etag := none
  interruption := none

/-- A process that has been restarted finds the file of its own export in the way. -/
theorem export_refused_after_restart :
    ¬ ∀ (sha256 : Bytes → String) (objectStorage : Option (Except Exception ObjectStorageConfig))
      (renderers : ReportRenderers) (storage : FileStorage) (tables : SnapshotTables) (events : List ReportEvent),
      Meets (step sha256 objectStorage renderers) (Delivers sha256 objectStorage renderers)
        (ReportWorld.start storage tables) events := by
  intro always
  obtain ⟨-, -, delivers, -⟩ := always digest none noRenderers noFiles noSnapshots
    [.execute exportResults, .restart, .execute exportResults]
  obtain ⟨after, result, ran, -⟩ := delivers rfl (by decide +kernel)
  have failed : ((execute digest none noRenderers exportResults).run
      (step digest none noRenderers (step digest none noRenderers (ReportWorld.start noFiles noSnapshots)
        (.execute exportResults)) .restart).worker).2.isOk = false := by
    decide +kernel
  rw [ran] at failed
  exact absurd failed nofun

end ShuleHub.Reports
