import ShuleHub.Exceptions
import ShuleHub.Lib.Effects
import ShuleHub.Lib.JsText
import Mathlib.Data.List.SplitOn

/-! The external object store: a map from keys to bytes that no transaction rolls back. -/

namespace ShuleHub.Uploads

abbrev Bytes := List UInt8

abbrev ObjectStore := String → Option Bytes

abbrev ObjectStoreAction := Effect ObjectStore Exception

structure ObjectStorageConfig where
  provider : String
  bucket : String

/-- What becomes of a request that stores an object: it is stored and answered, neither, or stored without the
answer arriving. -/
inductive PutOutcome where
  | answered (etag : Option String)
  | refused
  | lost
deriving DecidableEq

structure ObjectStoragePutResult where
  provider : String
  bucket : String
  key : String
  sha256 : String
  etag : Option String

structure ObjectStorageGetResult where
  content : Bytes
  sha256 : String

def isTenantScopedStoragePath (tenantId storagePath : String) : Prop :=
  JsText.trim tenantId ≠ "" ∧
    ("tenant/" ++ JsText.trim tenantId ++ "/").toList.isPrefixOf (JsText.trim storagePath).toList = true ∧
    (JsText.trim storagePath).toList.head? ≠ some '/' ∧ '\\' ∉ (JsText.trim storagePath).toList ∧
    ∀ segment ∈ (JsText.trim storagePath).toList.splitOn '/', segment ≠ [] ∧ segment ≠ ['.'] ∧ segment ≠ ['.', '.']
deriving Decidable

def assertTenantScopedStoragePath (tenantId storagePath : String) : Except Exception Unit :=
  failIf (¬ isTenantScopedStoragePath tenantId storagePath)
    (.badRequest "Uploaded file must use a tenant-scoped storage path")

def objectKey (storagePath : String) : String := JsText.trim storagePath

section Operations

variable (sha256 : Bytes → String) (config : Except Exception ObjectStorageConfig)

def putChecks (tenantId storagePath mimeType : String) : Except Exception ObjectStorageConfig := do
  assertTenantScopedStoragePath tenantId storagePath
  let config ← config
  failIf (JsText.trim mimeType = "") (.badRequest "Object storage upload requires a MIME type")
  return config

def storeObject (storagePath : String) (buffer : Bytes) (objects : ObjectStore) : ObjectStore :=
  Function.update objects (objectKey storagePath) (some buffer)

def putObject (tenantId storagePath mimeType : String) (buffer : Bytes) (outcome : PutOutcome) :
    ObjectStoreAction ObjectStoragePutResult := do
  let config ← putChecks config tenantId storagePath mimeType
  match outcome with
  | .answered etag =>
    Effect.write (storeObject storagePath buffer)
    return { provider := config.provider, bucket := config.bucket, key := objectKey storagePath
             sha256 := sha256 buffer, etag }
  | .refused => fail (.serviceUnavailable "Object storage upload failed")
  | .lost =>
    Effect.write (storeObject storagePath buffer)
    fail (.serviceUnavailable "Object storage upload failed")

def getObject (objects : ObjectStore) (tenantId storagePath : String) : Except Exception ObjectStorageGetResult := do
  assertTenantScopedStoragePath tenantId storagePath
  let _ ← config
  match objects (objectKey storagePath) with
  | some content => return { content, sha256 := sha256 content }
  | none => fail (.serviceUnavailable "Object storage download failed")

end Operations

end ShuleHub.Uploads
