import ShuleHub.Lib.Json
import ShuleHub.Lib.KeyedTable
import ShuleHub.Uploads.ObjectStorage
import Mathlib.Data.Rat.Defs

/-! The files of the schools: a table whose rows hold the bytes of a file or refer to the object store. -/

namespace ShuleHub.Uploads

inductive StorageBackend where
  | database
  | objectStorage
deriving DecidableEq

structure FileObject where
  tenantId : String
  storagePath : String
  originalFileName : String
  mimeType : String
  sizeBytes : Int
  sha256 : String
  content : Option Bytes
  metadata : Json
  storageBackend : StorageBackend
  objectStorageProvider : Option String
  objectStorageBucket : Option String
  objectStorageKey : Option String
  objectStorageEtag : Option String
  retentionPolicy : String
  retentionExpiresAt : Option Int
  createdAt : Int
deriving DecidableEq

def FileObject.key (file : FileObject) : String × String := (file.tenantId, file.storagePath)

structure FileStorage where
  files : KeyedTable FileObject (String × String) FileObject.key
  objects : ObjectStore

abbrev FileAction := Effect FileStorage Exception

/-- The settings of the row level security, and `NOW()`. -/
structure DbContext where
  tenantId : String
  role : String
  now : Int

def DbContext.sees (context : DbContext) (tenantId : String) : Prop :=
  tenantId = context.tenantId ∨
    context.role ∈ ["platform_owner", "superadmin", "support_agent", "support_lead", "developer", "system"]
deriving Decidable

structure TimeText where
  text : String
  time : Option Int

structure SaveInput where
  tenantId : String
  storagePath : String
  originalFileName : String
  mimeType : String
  sizeBytes : Int
  buffer : Bytes
  metadata : List (String × Json)
  retentionPolicy : Option String
  retentionExpiresAt : Option TimeText

structure StoredFileObject where
  storedPath : String
  originalFileName : String
  mimeType : String
  sizeBytes : Int
  sha256 : String
  storageBackend : StorageBackend
  retentionPolicy : String
  retentionExpiresAt : Option Int

structure ExpiredFileObjectPurgeResult where
  deletedCount : Nat
  deletedBytes : Int
  storagePaths : List String

def isPolicyIdentifier (policy : String) : Prop :=
  policy.toList.head?.any Char.isAlphanum = true ∧ policy.toList.length ≤ 64 ∧
    (policy.toList.all fun c => c.isAlphanum || c = '.' || c = '_' || c = '-') = true
deriving Decidable

def normalizeRetentionPolicy (retentionPolicy : Option String) : Except Exception String := do
  let given := JsText.trim (retentionPolicy.getD "")
  let policy := if given = "" then "operational" else given
  failIf (¬ isPolicyIdentifier policy) (.badRequest "File retention policy must be a short policy identifier")
  return policy

def normalizeRetentionExpiry (retentionExpiresAt : Option TimeText) : Except Exception (Option Int) :=
  match retentionExpiresAt with
  | none => .ok none
  | some expiresAt =>
    match expiresAt.time with
    | none => .error (.badRequest "File retention expiry must be an ISO timestamp")
    | some time =>
      if JsText.trim expiresAt.text = "" then .error (.badRequest "File retention expiry must be an ISO timestamp")
      else .ok (some time)

def mapStoredFileObjectRow (file : FileObject) : StoredFileObject where
  storedPath := file.storagePath
  originalFileName := file.originalFileName
  mimeType := file.mimeType
  sizeBytes := file.sizeBytes
  sha256 := file.sha256
  storageBackend := file.storageBackend
  retentionPolicy := file.retentionPolicy
  retentionExpiresAt := file.retentionExpiresAt

section Service

variable (sha256 : Bytes → String) (objectStorage : Option (Except Exception ObjectStorageConfig)) (context : DbContext)
  (input : SaveInput)

/-- The object storage service may be missing, or be there with a configuration that does not resolve. -/
def writeObjectStorageIfEnabled (objectStorageEnabled : Bool) (input : SaveInput) (outcome : PutOutcome) :
    FileAction (Option ObjectStoragePutResult) := do
  if objectStorageEnabled then
    match objectStorage with
    | none => fail (.badRequest "Object storage is enabled but not configured")
    | some config =>
      let stored ← Effect.zoom FileStorage.objects (fun storage objects => { storage with objects })
        (putObject sha256 config input.tenantId input.storagePath input.mimeType input.buffer outcome)
      failIf (stored.sha256 ≠ sha256 input.buffer) (.badRequest "Object storage upload checksum mismatch")
      return some stored
  else return none

def objectMetadata (stored : ObjectStoragePutResult) : Json :=
  .obj ([("provider", .str stored.provider), ("bucket", .str stored.bucket), ("key", .str stored.key)] ++
    (stored.etag.map fun etag => ("etag", Json.str etag)).toList)

def fileMetadata (stored : Option ObjectStoragePutResult) : Json :=
  match stored with
  | none => .obj input.metadata
  | some stored => .obj (input.metadata.filter (·.1 ≠ "object_storage") ++ [("object_storage", objectMetadata stored)])

def newFile (retentionPolicy : String) (retentionExpiresAt : Option Int)
    (stored : Option ObjectStoragePutResult) : FileObject where
  tenantId := input.tenantId
  storagePath := input.storagePath
  originalFileName := input.originalFileName
  mimeType := input.mimeType
  sizeBytes := input.sizeBytes
  sha256 := sha256 input.buffer
  content := if stored.isSome then none else some input.buffer
  metadata := fileMetadata input stored
  storageBackend := if stored.isSome then .objectStorage else .database
  objectStorageProvider := stored.map (·.provider)
  objectStorageBucket := stored.map (·.bucket)
  objectStorageKey := stored.map (·.key)
  objectStorageEtag := stored.bind (·.etag)
  retentionPolicy := retentionPolicy
  retentionExpiresAt := retentionExpiresAt
  createdAt := context.now

def insertError (key : String × String) (sizeBytes : Int) (fails : Bool) (storage : FileStorage) : Option Exception :=
  if fails then some (.database "connection")
  else if ¬ context.sees key.1 then some (.database "file_objects_rls_policy")
  else if sizeBytes < 0 then some (.database "ck_file_objects_size")
  else if ∃ other ∈ storage.files.rows, other.key = key then some (.database "uq_file_objects_tenant_path")
  else none

def insertFile (file : FileObject) (fails : Bool) : FileAction FileObject := do
  let storage ← Effect.current
  match insertError context file.key file.sizeBytes fails storage with
  | some error => fail error
  | none =>
    Effect.write fun storage => { storage with files := storage.files.put file }
    return file

def saveChecks : Except Exception (String × Option Int) := do
  assertTenantScopedStoragePath input.tenantId input.storagePath
  let retentionPolicy ← normalizeRetentionPolicy input.retentionPolicy
  let retentionExpiresAt ← normalizeRetentionExpiry input.retentionExpiresAt
  return (retentionPolicy, retentionExpiresAt)

/-- A save whose request to the object store and whose statement may fail. -/
def save (objectStorageEnabled : Bool) (input : SaveInput) (outcome : PutOutcome) (insertFails : Bool) :
    FileAction StoredFileObject := do
  let (retentionPolicy, retentionExpiresAt) ← saveChecks input
  let stored ← writeObjectStorageIfEnabled sha256 objectStorage objectStorageEnabled input outcome
  let file ← insertFile context (newFile sha256 context input retentionPolicy retentionExpiresAt stored) insertFails
  return mapStoredFileObjectRow file

def readFileContent (objects : ObjectStore) (file : FileObject) : Except Exception Bytes :=
  match file.storageBackend with
  | .database =>
    match file.content with
    | none => .error (.badRequest "File object content is missing")
    | some content => .ok content
  | .objectStorage =>
    match objectStorage with
    | none => .error (.badRequest "Object storage reader is not configured")
    | some config => do
      let object ← getObject sha256 config objects file.tenantId file.storagePath
      failIf (object.sha256 ≠ file.sha256) (.badRequest "File object checksum mismatch")
      return object.content

def readFile (storage : FileStorage) (tenantId storagePath : String) : Except Exception Bytes :=
  match storage.files.find (tenantId, storagePath) with
  | none => .error (.badRequest "File object was not found")
  | some file => readFileContent sha256 objectStorage storage.objects file

def expiresBefore (first second : FileObject) : Prop :=
  first.retentionExpiresAt.getD 0 < second.retentionExpiresAt.getD 0 ∨
    first.retentionExpiresAt.getD 0 = second.retentionExpiresAt.getD 0 ∧ first.createdAt ≤ second.createdAt
deriving Decidable

def FileObject.isExpired (now : Int) (file : FileObject) : Prop := ∃ expiresAt ∈ file.retentionExpiresAt, expiresAt ≤ now
deriving Decidable

def expiredFileObjects (now : Int) (batchSize : Nat) (storage : FileStorage) : List FileObject :=
  ((storage.files.rows.filter fun file => context.sees file.tenantId ∧ file.isExpired now).insertionSort
    expiresBefore).take batchSize

def deleteFiles (files : KeyedTable FileObject (String × String) FileObject.key) (purged : List FileObject) :
    KeyedTable FileObject (String × String) FileObject.key where
  rows := files.rows.filter (· ∉ purged)
  distinct := files.distinct.sublist (List.filter_sublist.map FileObject.key)

structure PurgeInput where
  now : Option TimeText
  batchSize : Option ℚ

def PurgeInput.checked (input : PurgeInput) : Except Exception (Int × Nat) := do
  let batchSize := input.batchSize.getD 500
  match ← normalizeRetentionExpiry input.now with
  | none => fail (.badRequest "A retention purge timestamp is required")
  | some now =>
    failIf (batchSize.den ≠ 1 ∨ batchSize < 1 ∨ 1000 < batchSize)
      (.badRequest "Retention purge batch size must be between 1 and 1000")
    return (now, batchSize.num.toNat)

def purgeExpiredFileObjects (input : PurgeInput) : FileAction ExpiredFileObjectPurgeResult := do
  let (now, batchSize) ← input.checked
  let storage ← Effect.current
  let purged := expiredFileObjects context now batchSize storage
  Effect.write fun storage => { storage with files := deleteFiles storage.files purged }
  return { deletedCount := purged.length
           deletedBytes := (purged.map (·.sizeBytes)).sum
           storagePaths := purged.map (·.storagePath) }

end Service

end ShuleHub.Uploads
