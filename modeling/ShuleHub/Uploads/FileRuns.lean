import ShuleHub.Lib.Runs
import ShuleHub.Uploads.FileStorage

/-! Saves that may fail at any step, and purges, in any order: when a failed save spares the files that are there, and
when a purge leaves nothing of the files that it deletes. -/

namespace ShuleHub.Uploads

open Runs Effect Outcome

inductive StorageOperation where
  | save (input : SaveInput) (outcome : PutOutcome) (insertFails : Bool)
  | purgeExpiredFileObjects (input : PurgeInput)

/-- The backend is that of the moment: the object storage can be switched on and off. -/
structure StorageCall where
  context : DbContext
  objectStorageEnabled : Bool
  operation : StorageOperation

inductive StorageResponse where
  | stored (file : StoredFileObject)
  | purged (result : ExpiredFileObjectPurgeResult)

section Definitions

variable (sha256 : Bytes → String) (objectStorage : Option (Except Exception ObjectStorageConfig))
  (storage : FileStorage) (call : StorageCall)

def perform : FileAction StorageResponse :=
  match call.operation with
  | .save input outcome insertFails => do
    return .stored (← save sha256 objectStorage call.context call.objectStorageEnabled input outcome insertFails)
  | .purgeExpiredFileObjects input => do return .purged (← purgeExpiredFileObjects call.context input)

def step : FileStorage :=
  ((perform sha256 objectStorage call).run storage).1

def KeepsReadable (now : Int) (before after : FileStorage) : Prop :=
  ∀ file ∈ before.files.rows, ¬ file.isExpired now → ∀ bytes,
    readFile sha256 objectStorage before file.tenantId file.storagePath = .ok bytes →
      readFile sha256 objectStorage after file.tenantId file.storagePath = .ok bytes

def HoldsBytes (file : FileObject) : Prop :=
  (∃ row ∈ storage.files.rows, row.key = file.key) ∨
    ∃ bytes ∈ storage.objects (objectKey file.storagePath), sha256 bytes = file.sha256

/-- What is promised of one call: a save that throws spares the other files, and a purge that returns leaves nothing of
those that it deletes. -/
def KeepsFiles : Prop :=
  match call.operation with
  | .save _ _ _ => ∀ after error, (perform sha256 objectStorage call).run storage = (after, .error error) →
    KeepsReadable sha256 objectStorage call.context.now storage after
  | .purgeExpiredFileObjects _ => ∀ after response, (perform sha256 objectStorage call).run storage = (after, .ok response) →
    ∀ file ∈ storage.files.rows, file ∉ after.files.rows → ¬ HoldsBytes sha256 after file

def StoresObject (objectStorageEnabled : Bool) (input : SaveInput) (outcome : PutOutcome) : Prop :=
  objectStorageEnabled = true ∧ (saveChecks input).isOk = true ∧ outcome ≠ .refused ∧
    ∃ config ∈ objectStorage, (putChecks config input.tenantId input.storagePath input.mimeType).isOk = true

def FailsToInsert (context : DbContext) (input : SaveInput) (outcome : PutOutcome) (insertFails : Bool)
    (storage : FileStorage) : Prop :=
  outcome = .lost ∨
    insertError context (input.tenantId, input.storagePath) input.sizeBytes insertFails storage ≠ none

/-- The condition on one call. A save that stores its object but does not complete must not do so under the key of a
file that is there and has other bytes, and a purge must not delete files whose bytes are in the object store. -/
def SparesFiles : Prop :=
  match call.operation with
  | .save input outcome insertFails =>
    StoresObject objectStorage call.objectStorageEnabled input outcome →
      FailsToInsert call.context input outcome insertFails storage →
      ∀ file ∈ storage.files.rows, ¬ file.isExpired call.context.now → file.storageBackend = .objectStorage →
        objectKey file.storagePath = objectKey input.storagePath → ∀ bytes,
          readFile sha256 objectStorage storage file.tenantId file.storagePath = .ok bytes → bytes = input.buffer
  | .purgeExpiredFileObjects input => ∀ checked ∈ (input.checked).toOption,
    ∀ file ∈ expiredFileObjects call.context checked.1 checked.2 storage,
      ∀ bytes ∈ storage.objects (objectKey file.storagePath), sha256 bytes ≠ file.sha256

end Definitions

section Reads

variable {sha256 : Bytes → String} {objectStorage : Option (Except Exception ObjectStorageConfig)} {storage : FileStorage}
  {file : FileObject} {bytes : Bytes} {objects : ObjectStore} {storagePath : String} {input : SaveInput}

theorem getObject_ok {config : Except Exception ObjectStorageConfig} {tenantId : String}
    {object : ObjectStorageGetResult} :
    getObject sha256 config objects tenantId storagePath = .ok object ↔
      (isTenantScopedStoragePath tenantId storagePath ∧ ∃ resolved, config = .ok resolved) ∧
        ∃ content, objects (objectKey storagePath) = some content ∧ ⟨content, sha256 content⟩ = object := by
  simp only [getObject, assertTenantScopedStoragePath, bind_ok, failIf_ok, not_not]
  cases objects (objectKey storagePath) with
  | none => simp
  | some content =>
    simp only [pure_ok, Option.some.injEq, exists_eq_left', and_assoc]
    constructor
    · rintro ⟨_, tenant, resolved, found, same⟩
      exact ⟨tenant, ⟨resolved, found⟩, same⟩
    · rintro ⟨tenant, ⟨resolved, found⟩, same⟩
      exact ⟨(), tenant, resolved, found, same⟩

def CanFetch (objectStorage : Option (Except Exception ObjectStorageConfig)) (file : FileObject) : Prop :=
  isTenantScopedStoragePath file.tenantId file.storagePath ∧ ∃ resolved, objectStorage = some (.ok resolved)

theorem readFileContent_ok :
    readFileContent sha256 objectStorage objects file = .ok bytes ↔
      match file.storageBackend with
      | .database => file.content = some bytes
      | .objectStorage => CanFetch objectStorage file ∧ objects (objectKey file.storagePath) = some bytes ∧
        sha256 bytes = file.sha256 := by
  unfold readFileContent CanFetch
  cases file.storageBackend with
  | database => cases file.content <;> simp
  | objectStorage =>
    cases objectStorage with
    | none => simp
    | some config =>
      simp only [bind_ok, getObject_ok, failIf_ok, pure_ok, not_not, Option.some.injEq]
      constructor
      · rintro ⟨_, ⟨⟨tenant, resolved⟩, content, found, rfl⟩, _, same, rfl⟩
        exact ⟨⟨tenant, resolved⟩, found, same⟩
      · rintro ⟨⟨tenant, resolved⟩, found, same⟩
        exact ⟨_, ⟨⟨tenant, resolved⟩, bytes, found, rfl⟩, (), same, rfl⟩

theorem readFile_of_mem (member : file ∈ storage.files.rows) :
    readFile sha256 objectStorage storage file.tenantId file.storagePath =
      readFileContent sha256 objectStorage storage.objects file := by
  have found : storage.files.find (file.tenantId, file.storagePath) = some file :=
    (KeyedTable.find_eq_some storage.files).mpr ⟨member, rfl⟩
  rw [readFile, found]

def overwritten (input : SaveInput) (storage : FileStorage) : FileStorage :=
  { storage with objects := storeObject input.storagePath input.buffer storage.objects }

theorem overwritten_same
    (same : objectKey storagePath = objectKey input.storagePath) :
    (overwritten input storage).objects (objectKey storagePath) = some input.buffer := by
  simp only [overwritten, storeObject, same, Function.update_self]

theorem overwritten_other
    (differs : objectKey storagePath ≠ objectKey input.storagePath) :
    (overwritten input storage).objects (objectKey storagePath) = storage.objects (objectKey storagePath) := by
  simp only [overwritten, storeObject, ne_eq, differs, not_false_iff, Function.update_of_ne]

theorem keepsReadable_overwritten {now : Int} :
    KeepsReadable sha256 objectStorage now storage (overwritten input storage) ↔
      ∀ file ∈ storage.files.rows, ¬ file.isExpired now → file.storageBackend = .objectStorage →
        objectKey file.storagePath = objectKey input.storagePath → ∀ bytes,
          readFile sha256 objectStorage storage file.tenantId file.storagePath = .ok bytes → bytes = input.buffer := by
  constructor
  · intro keeps file member current backend same bytes read
    have still := keeps file member current bytes read
    have there : file ∈ (overwritten input storage).files.rows := member
    rw [readFile_of_mem there, readFileContent_ok, backend] at still
    obtain ⟨-, found, -⟩ := still
    rw [overwritten_same same] at found
    exact (Option.some.inj found).symm
  · intro spares file member current bytes read
    have there : file ∈ (overwritten input storage).files.rows := member
    have plain := read
    rw [readFile_of_mem member, readFileContent_ok] at plain
    rw [readFile_of_mem there, readFileContent_ok]
    cases backend : file.storageBackend with
    | database =>
      rw [backend] at plain
      exact plain
    | objectStorage =>
      rw [backend] at plain
      obtain ⟨ready, found, checksum⟩ := plain
      refine ⟨ready, ?_, checksum⟩
      by_cases same : objectKey file.storagePath = objectKey input.storagePath
      · rw [overwritten_same same, spares file member current backend same bytes read]
      · rw [overwritten_other same]
        exact found

end Reads

section Saves

variable {sha256 : Bytes → String} {objectStorage : Option (Except Exception ObjectStorageConfig)} {storage : FileStorage}
  {context : DbContext} {objectStorageEnabled : Bool} {input : SaveInput} {outcome : PutOutcome} {insertFails : Bool}
  {config : Except Exception ObjectStorageConfig} {tenantId storagePath mimeType : String} {buffer : Bytes}
  {objects : ObjectStore}

theorem putObject_of_error {error : Exception}
    (refused : putChecks config tenantId storagePath mimeType = .error error) :
    (putObject sha256 config tenantId storagePath mimeType buffer outcome).run objects = (objects, .error error) := by
  unfold putObject
  apply run_bind_of_error
  rw [refused]
  rfl

theorem putObject_of_ok {resolved : ObjectStorageConfig}
    (admitted : putChecks config tenantId storagePath mimeType = .ok resolved) :
    (putObject sha256 config tenantId storagePath mimeType buffer outcome).run objects =
      match outcome with
      | .answered etag => (storeObject storagePath buffer objects, .ok
          { provider := resolved.provider, bucket := resolved.bucket, key := objectKey storagePath
            sha256 := sha256 buffer, etag })
      | .refused => (objects, .error (.serviceUnavailable "Object storage upload failed"))
      | .lost => (storeObject storagePath buffer objects, .error (.serviceUnavailable "Object storage upload failed")) := by
  unfold putObject
  rw [admitted]
  cases outcome <;> rfl

/-- What the attempt to store an object comes to: nothing where it is not enabled, a failure that leaves the store as it
was, the object without its answer, or the object. -/
inductive WroteObject (objectStorage : Option (Except Exception ObjectStorageConfig)) (objectStorageEnabled : Bool)
    (input : SaveInput) (outcome : PutOutcome) (storage : FileStorage) :
    FileStorage × Except Exception (Option ObjectStoragePutResult) → Prop where
  | disabled (off : objectStorageEnabled = false) :
    WroteObject objectStorage objectStorageEnabled input outcome storage (storage, .ok none)
  | unstored (apart : ¬ StoresObject objectStorage objectStorageEnabled input outcome) (error : Exception) :
    WroteObject objectStorage objectStorageEnabled input outcome storage (storage, .error error)
  | unanswered (stores : StoresObject objectStorage objectStorageEnabled input outcome) (lost : outcome = .lost)
    (error : Exception) :
    WroteObject objectStorage objectStorageEnabled input outcome storage (overwritten input storage, .error error)
  | stored (stores : StoresObject objectStorage objectStorageEnabled input outcome) (answered : outcome ≠ .lost)
    (result : ObjectStoragePutResult) :
    WroteObject objectStorage objectStorageEnabled input outcome storage (overwritten input storage, .ok (some result))

theorem writeObjectStorageIfEnabled_wrote (checked : (saveChecks input).isOk = true) :
    WroteObject objectStorage objectStorageEnabled input outcome storage
      ((writeObjectStorageIfEnabled sha256 objectStorage objectStorageEnabled input outcome).run storage) := by
  unfold writeObjectStorageIfEnabled
  cases objectStorageEnabled with
  | false => exact .disabled rfl
  | true =>
    rw [if_pos rfl]
    cases objectStorage with
    | none => exact .unstored (by simp [StoresObject]) _
    | some config =>
      cases admitted : putChecks config input.tenantId input.storagePath input.mimeType with
      | error error =>
        rw [run_bind, run_zoom, putObject_of_error admitted]
        exact .unstored (by simp [StoresObject, admitted, Except.isOk, Except.toBool]) error
      | ok resolved =>
        have stores (put : outcome ≠ .refused) : StoresObject (some config) true input outcome :=
          ⟨rfl, checked, put, config, rfl, by rw [admitted]; rfl⟩
        rw [run_bind, run_zoom, putObject_of_ok admitted]
        cases outcome with
        | answered etag =>
          simp only [run_bind, run_failIf, ne_eq, not_true_eq_false, if_false]
          exact .stored (stores (by simp)) (by simp) _
        | refused => exact .unstored (by simp [StoresObject]) _
        | lost => exact .unanswered (stores (by simp)) rfl _

theorem insertFile_run {file : FileObject} {fails : Bool} : (insertFile context file fails).run storage =
    match insertError context file.key file.sizeBytes fails storage with
    | some error => (storage, .error error)
    | none => ({ storage with files := storage.files.put file }, .ok file) := by
  simp only [insertFile, run_bind, run_current]
  cases insertError context file.key file.sizeBytes fails storage <;> rfl

/-- A save leaves everything as it was, or stores its object without its row, or completes. -/
inductive Saved (objectStorage : Option (Except Exception ObjectStorageConfig)) (context : DbContext)
    (objectStorageEnabled : Bool) (input : SaveInput) (outcome : PutOutcome) (insertFails : Bool) (storage : FileStorage) :
    FileStorage × Except Exception StoredFileObject → Prop where
  | spared (apart : ¬ StoresObject objectStorage objectStorageEnabled input outcome) (error : Exception) :
    Saved objectStorage context objectStorageEnabled input outcome insertFails storage (storage, .error error)
  | failed (stores : StoresObject objectStorage objectStorageEnabled input outcome)
    (fails : FailsToInsert context input outcome insertFails storage) (error : Exception) :
    Saved objectStorage context objectStorageEnabled input outcome insertFails storage
      (overwritten input storage, .error error)
  | completed (succeeds : StoresObject objectStorage objectStorageEnabled input outcome →
      ¬ FailsToInsert context input outcome insertFails storage) (after : FileStorage) (result : StoredFileObject) :
    Saved objectStorage context objectStorageEnabled input outcome insertFails storage (after, .ok result)

theorem save_saved : Saved objectStorage context objectStorageEnabled input outcome insertFails storage
    ((save sha256 objectStorage context objectStorageEnabled input outcome insertFails).run storage) := by
  unfold save
  cases checked : saveChecks input with
  | error error => exact .spared (by simp [StoresObject, checked, Except.isOk, Except.toBool]) error
  | ok retention =>
    obtain ⟨retentionPolicy, retentionExpiresAt⟩ := retention
    have wrote : WroteObject objectStorage objectStorageEnabled input outcome storage
        ((writeObjectStorageIfEnabled sha256 objectStorage objectStorageEnabled input outcome).run storage) :=
      writeObjectStorageIfEnabled_wrote (by rw [checked]; rfl)
    change Saved _ _ _ _ _ _ _ ((writeObjectStorageIfEnabled sha256 objectStorage objectStorageEnabled input outcome >>=
      fun stored => insertFile context (newFile sha256 context input retentionPolicy retentionExpiresAt stored)
        insertFails >>= fun file => pure (mapStoredFileObjectRow file)).run storage)
    rw [run_bind]
    generalize (writeObjectStorageIfEnabled sha256 objectStorage objectStorageEnabled input outcome).run storage = ran at *
    cases wrote with
    | disabled off =>
      simp only [run_bind, insertFile_run]
      cases insertError context (newFile sha256 context input retentionPolicy retentionExpiresAt none).key
        (newFile sha256 context input retentionPolicy retentionExpiresAt none).sizeBytes insertFails storage with
      | some error => exact .spared (by simp [StoresObject, off]) error
      | none => exact .completed (by simp [StoresObject, off]) _ _
    | unstored apart error => exact .spared apart error
    | unanswered stores lost error => exact .failed stores (.inl lost) error
    | stored stores answered result =>
      simp only [run_bind, insertFile_run]
      have same : insertError context (newFile sha256 context input retentionPolicy retentionExpiresAt result).key
          (newFile sha256 context input retentionPolicy retentionExpiresAt result).sizeBytes insertFails
          (overwritten input storage) =
        insertError context (input.tenantId, input.storagePath) input.sizeBytes insertFails storage := rfl
      rw [same]
      cases refused : insertError context (input.tenantId, input.storagePath) input.sizeBytes insertFails storage with
      | some error => exact .failed stores (.inr (by simp [refused])) error
      | none => exact .completed (fun _ => by simp [FailsToInsert, answered, refused]) _ _

end Saves

section Calls

variable {sha256 : Bytes → String} {objectStorage : Option (Except Exception ObjectStorageConfig)} {storage : FileStorage}
  {call : StorageCall} {input : SaveInput} {outcome : PutOutcome} {insertFails : Bool} {file : FileObject}
  {purged : List FileObject}

theorem perform_save
    (asked : call.operation = .save input outcome insertFails) :
    (perform sha256 objectStorage call).run storage =
      (((save sha256 objectStorage call.context call.objectStorageEnabled input outcome insertFails).run storage).1,
        ((save sha256 objectStorage call.context call.objectStorageEnabled input outcome insertFails).run storage).2.map
          StorageResponse.stored) := by
  simp only [perform, asked, run_bind]
  rcases (save sha256 objectStorage call.context call.objectStorageEnabled input outcome insertFails).run storage with
    ⟨after, result | result⟩ <;> rfl

theorem keepsFiles_save
    (asked : call.operation = .save input outcome insertFails) :
    KeepsFiles sha256 objectStorage storage call ↔ SparesFiles sha256 objectStorage storage call := by
  unfold KeepsFiles SparesFiles
  rw [asked]
  simp only [perform_save asked]
  have saved : Saved objectStorage call.context call.objectStorageEnabled input outcome insertFails storage
    ((save sha256 objectStorage call.context call.objectStorageEnabled input outcome insertFails).run storage) := save_saved
  generalize (save sha256 objectStorage call.context call.objectStorageEnabled input outcome insertFails).run storage = ran
    at saved
  cases saved with
  | spared apart error =>
    constructor
    · intro _ stores
      exact absurd stores apart
    · rintro - after error same
      cases same
      exact fun _ _ _ _ read => read
  | failed stores fails error =>
    rw [← keepsReadable_overwritten]
    constructor
    · intro keeps _ _
      exact keeps _ error rfl
    · intro spares after error same
      cases same
      exact spares stores fails
  | completed succeeds after result =>
    constructor
    · intro _ stores fails
      exact absurd fails (succeeds stores)
    · intro _ after error same
      cases same

theorem mem_expiredFileObjects {context : DbContext} {now : Int} {batchSize : Nat}
    (expired : file ∈ expiredFileObjects context now batchSize storage) : file ∈ storage.files.rows :=
  (List.mem_filter.mp ((List.mem_insertionSort _).mp (List.mem_of_mem_take expired))).1

theorem mem_deleteFiles :
    file ∈ (deleteFiles storage.files purged).rows ↔ file ∈ storage.files.rows ∧ file ∉ purged := by
  simp [deleteFiles]

theorem holdsBytes_purged (present : file ∈ storage.files.rows)
    (member : file ∈ purged) :
    ¬ HoldsBytes sha256 { storage with files := deleteFiles storage.files purged } file ↔
      ∀ bytes ∈ storage.objects (objectKey file.storagePath), sha256 bytes ≠ file.sha256 := by
  have gone : ¬ ∃ row ∈ (deleteFiles storage.files purged).rows, row.key = file.key := by
    rintro ⟨row, kept, same⟩
    obtain ⟨there, apart⟩ := mem_deleteFiles.mp kept
    rw [KeyedTable.eq_of_key there present same] at apart
    exact apart member
  simp only [HoldsBytes, gone, false_or, not_exists, not_and]

theorem perform_purge {input : PurgeInput} (asked : call.operation = .purgeExpiredFileObjects input) :
    (perform sha256 objectStorage call).run storage =
      match input.checked with
      | .error error => (storage, .error error)
      | .ok (now, batchSize) =>
        let purged := expiredFileObjects call.context now batchSize storage
        ({ storage with files := deleteFiles storage.files purged }, .ok (.purged
          { deletedCount := purged.length
            deletedBytes := (purged.map (·.sizeBytes)).sum
            storagePaths := purged.map (·.storagePath) })) := by
  simp only [perform, asked, purgeExpiredFileObjects]
  cases input.checked <;> rfl

theorem keepsFiles_purge {input : PurgeInput} (asked : call.operation = .purgeExpiredFileObjects input) :
    KeepsFiles sha256 objectStorage storage call ↔ SparesFiles sha256 objectStorage storage call := by
  unfold KeepsFiles SparesFiles
  rw [asked]
  simp only [perform_purge asked]
  cases input.checked with
  | error error => simp [Except.toOption]
  | ok checked =>
    obtain ⟨now, batchSize⟩ := checked
    constructor
    · intro keeps _ same file expired
      cases same
      have present := mem_expiredFileObjects expired
      apply (holdsBytes_purged present expired).mp
      apply keeps _ _ rfl file present
      exact fun kept => (mem_deleteFiles.mp kept).2 expired
    · intro spares after response same file present gone
      cases same
      have expired : file ∈ expiredFileObjects call.context now batchSize storage := by
        by_contra apart
        exact gone (mem_deleteFiles.mpr ⟨present, apart⟩)
      exact (holdsBytes_purged present expired).mpr (spares (now, batchSize) rfl file expired)

theorem keepsFiles_iff (storage : FileStorage) (call : StorageCall) :
    KeepsFiles sha256 objectStorage storage call ↔ SparesFiles sha256 objectStorage storage call := by
  cases asked : call.operation with
  | save input outcome insertFails => exact keepsFiles_save asked
  | purgeExpiredFileObjects input => exact keepsFiles_purge asked

end Calls

/-- Every call of a run keeps the files exactly if every call of it spares them. -/
theorem files_kept_iff (sha256 : Bytes → String) (objectStorage : Option (Except Exception ObjectStorageConfig))
    (start : FileStorage) (calls : List StorageCall) :
    Meets (step sha256 objectStorage) (KeepsFiles sha256 objectStorage) start calls ↔
      Meets (step sha256 objectStorage) (SparesFiles sha256 objectStorage) start calls := by
  have agree (storage : FileStorage) (call : StorageCall) (_ : True) :
      KeepsFiles sha256 objectStorage storage call ↔ SparesFiles sha256 objectStorage storage call :=
    keepsFiles_iff storage call
  exact meets_iff_meets agree (fun _ _ _ _ => trivial) calls trivial

def digest : Bytes → String
  | [0x41] => "559aead08264d5795d3909718cdd05abd49572e84fe55590eef31a88a08fdffd"
  | [0x42] => "df7e70e5021544f4834bbee64a9e3789febc4be81470df629cad6ddb03320a5c"
  | _ => ""

def bucket : Option (Except Exception ObjectStorageConfig) := some (.ok ⟨"s3", "shulehub-files"⟩)

def emptyStorage : FileStorage where
  files := .empty
  objects := fun _ => none

def saveByte (byte : UInt8) : StorageCall where
  context := ⟨"lakeside", "admin", 0⟩
  objectStorageEnabled := true
  operation := .save
    { tenantId := "lakeside", storagePath := "tenant/lakeside/report.txt", originalFileName := "report.txt"
      mimeType := "text/plain", sizeBytes := 1, buffer := [byte], metadata := [], retentionPolicy := none
      retentionExpiresAt := none } (.answered none) false

/-- The second save of a path is refused by the table when its object has already replaced the first one. -/
theorem file_overwritten :
    ¬ ∀ (sha256 : Bytes → String) (objectStorage : Option (Except Exception ObjectStorageConfig)) (start : FileStorage)
      (calls : List StorageCall), Meets (step sha256 objectStorage) (KeepsFiles sha256 objectStorage) start calls := by
  intro always
  obtain ⟨-, keeps, -⟩ := always digest bucket emptyStorage [saveByte 0x41, saveByte 0x42]
  set saved := step digest bucket emptyStorage (saveByte 0x41)
  have refused : (perform digest bucket (saveByte 0x42)).run saved =
      (((perform digest bucket (saveByte 0x42)).run saved).1, .error (.database "uq_file_objects_tenant_path")) := by
    rfl
  have present : ∃ file ∈ saved.files.rows, ¬ file.isExpired 0 ∧ file.tenantId = "lakeside" ∧
      file.storagePath = "tenant/lakeside/report.txt" := by
    decide +kernel
  obtain ⟨file, member, current, tenantId, storagePath⟩ := present
  have still := keeps _ _ refused file member current [0x41]
  rw [tenantId, storagePath] at still
  have lost : (readFile digest bucket ((perform digest bucket (saveByte 0x42)).run saved).1 "lakeside"
      "tenant/lakeside/report.txt").toOption = none := by
    decide +kernel
  rw [still (Outcome.toOption_eq_some.mp (by decide +kernel))] at lost
  exact absurd lost nofun

end ShuleHub.Uploads
