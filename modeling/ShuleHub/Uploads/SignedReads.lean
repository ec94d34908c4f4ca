import ShuleHub.Lib.JsSplit
import ShuleHub.Lib.JsValue
import ShuleHub.Runtime
import ShuleHub.Uploads.FileRuns

/-! Signed tokens for one read of a file, in any sequence of issued and presented ones: whoever reads holds a token that
was issued for that, and finds the bytes of the file under the path that was signed, but not how long it is retained. -/

namespace ShuleHub.Uploads

open Runs JsText Effect Outcome

structure SignedFileObjectReadPayload where
  tenantId : String
  storagePath : String
  actorUserId : Option String
  expiresAt : String

def SignedFileObjectReadPayload.toJson (payload : SignedFileObjectReadPayload) : Json :=
  .obj [("purpose", .str "file_object.read"), ("tenant_id", .str payload.tenantId),
    ("storage_path", .str payload.storagePath), ("actor_user_id", jsonText payload.actorUserId),
    ("expires_at", .str payload.expiresAt)]

def SignedFileObjectReadPayload.stringified (payload : SignedFileObjectReadPayload) : String :=
  String.ofList (Json.render payload.toJson)

/-- HMAC-SHA256 of a text under a secret, `Date.parse`, which finds no time in blanks, a `JSON.parse` that reads payloads
back, and what bytes that are not UTF-8 read as. -/
structure TokenRuntime where
  hmacSha256 : String → String → Bytes
  hmacSha256_length : ∀ secret text, (hmacSha256 secret text).length = 32
  parseDate : String → Option Int
  parseDate_blank : ∀ text, JsText.trim text = "" → parseDate text = none
  parseJson : String → Option Json
  parseJson_stringified : ∀ payload : SignedFileObjectReadPayload, parseJson payload.stringified = some payload.toJson
  malformedText : Bytes → String

structure CreateSignedReadTokenInput where
  tenantId : String
  storagePath : String
  actorUserId : Option String
  allowTenantBearerToken : Option Bool
  expiresAt : String
  signingSecret : String

structure SignedFileObjectReadToken where
  token : String
  storagePath : String
  expiresAt : String

structure ReadWithSignedTokenInput where
  tenantId : String
  actorUserId : Option String
  token : String
  signingSecret : String
  now : Option String

/-- The statement does not select the columns of the retention: for all files these are undefined here. -/
structure StoredFileObjectRead where
  storedPath : String
  originalFileName : String
  mimeType : String
  sizeBytes : Int
  sha256 : String
  storageBackend : StorageBackend
  retentionPolicy : Option String
  retentionExpiresAt : Option (Option Int)
  content : Bytes

def encodeBase64Url (value : String) : String := String.ofList (Base64.encodeUrl (JsText.utf8 value.toList))

def requireSigningSecret (signingSecret : String) : Except Exception String := do
  let secret := JsText.trim signingSecret
  failIf (secret = "") (.badRequest "A file object signing secret is required")
  return secret

def safeEqual (left right : String) : Prop := JsText.utf8 left.toList = JsText.utf8 right.toList
deriving Decidable

def visibleText (value : Json) (name : String) : Option String :=
  match value.property name with
  | some (.str text) => if JsText.trim text = "" then none else some text
  | _ => none

def payloadActor (value : Json) : Option (Option String) :=
  match value.property "actor_user_id" with
  | none | some .null => some none
  | some (.str text) => some (readString (some text))
  | some _ => none

def CreateSignedReadTokenInput.payload (input : CreateSignedReadTokenInput) : SignedFileObjectReadPayload where
  tenantId := JsText.trim input.tenantId
  storagePath := JsText.trim input.storagePath
  actorUserId := readString input.actorUserId
  expiresAt := input.expiresAt

def CreateSignedReadTokenInput.encodedPayload (input : CreateSignedReadTokenInput) : String :=
  encodeBase64Url input.payload.stringified

def FileObject.readWith (file : FileObject) (content : Bytes) : StoredFileObjectRead where
  storedPath := file.storagePath
  originalFileName := file.originalFileName
  mimeType := file.mimeType
  sizeBytes := file.sizeBytes
  sha256 := file.sha256
  storageBackend := file.storageBackend
  retentionPolicy := none
  retentionExpiresAt := none
  content := content

section Service

variable (runtime : TokenRuntime)

def decodeBase64Url (value : String) : String :=
  let bytes := Base64.decode value.toList
  ((JsText.ofUtf8 bytes).map String.ofList).getD (runtime.malformedText bytes)

def signTokenPayload (encodedPayload signingSecret : String) : String :=
  String.ofList (Base64.encodeUrl (runtime.hmacSha256 signingSecret encodedPayload))

def createSignedReadToken (input : CreateSignedReadTokenInput) : Except Exception SignedFileObjectReadToken := do
  let secret ← requireSigningSecret input.signingSecret
  assertTenantScopedStoragePath (JsText.trim input.tenantId) (JsText.trim input.storagePath)
  failIf (runtime.parseDate input.expiresAt = none)
    (.badRequest "Signed file read token expiry must be an ISO timestamp")
  failIf (readString input.actorUserId = none ∧ input.allowTenantBearerToken ≠ some true)
    (.badRequest "Signed file read tokens require an actor user")
  return { token := input.encodedPayload ++ "." ++ signTokenPayload runtime input.encodedPayload secret
           storagePath := JsText.trim input.storagePath
           expiresAt := input.expiresAt }

def payloadOfJson (value : Json) : Option SignedFileObjectReadPayload := do
  let purpose ← value.property "purpose"
  guard (purpose = .str "file_object.read")
  let tenantId ← visibleText value "tenant_id"
  let storagePath ← visibleText value "storage_path"
  let expiresAt ← visibleText value "expires_at"
  guard (runtime.parseDate expiresAt ≠ none)
  let actorUserId ← payloadActor value
  return { tenantId, storagePath, actorUserId, expiresAt }

def verifySignedReadPayload (token signingSecret : String) : Except Exception SignedFileObjectReadPayload :=
  match JsText.split '.' token with
  | [encodedPayload, signature] => do
    failIf (encodedPayload = "" ∨ signature = "") (.badRequest "Signed file read token is invalid")
    failIf (¬ safeEqual signature (signTokenPayload runtime encodedPayload signingSecret))
      (.badRequest "Signed file read token is invalid")
    match (runtime.parseJson (decodeBase64Url runtime encodedPayload)).bind (payloadOfJson runtime) with
    | some payload => .ok payload
    | none => .error (.badRequest "Signed file read token is invalid")
  | _ => .error (.badRequest "Signed file read token is invalid")

variable (sha256 : Bytes → String) (objectStorage : Option (Except Exception ObjectStorageConfig))

/-- Where a token is presented: the settings of the statement, whose `now` is `Date.now()` as well, and the files. -/
structure Presented where
  context : DbContext
  storage : FileStorage
  input : ReadWithSignedTokenInput

/-- `input.now ? Date.parse(input.now) : Date.now()`. -/
def Presented.nowMs (presented : Presented) : Option Int :=
  match presented.input.now.filter (· ≠ "") with
  | some text => runtime.parseDate text
  | none => some presented.context.now

def selectFile (context : DbContext) (storage : FileStorage) (tenantId storagePath : String) : Except Exception FileObject :=
  match storage.files.find (tenantId, storagePath) with
  | none => .error (.badRequest "File object was not found")
  | some file =>
    if context.sees file.tenantId then .ok file else .error (.badRequest "File object was not found")

def readWithSignedToken (presented : Presented) : Except Exception StoredFileObjectRead := do
  let input := presented.input
  let payload ← requireSigningSecret input.signingSecret >>= verifySignedReadPayload runtime input.token
  failIf (payload.tenantId ≠ JsText.trim input.tenantId)
    (.badRequest "Signed file read token must match the tenant-scoped storage path")
  assertTenantScopedStoragePath payload.tenantId payload.storagePath
  failIf (payload.actorUserId ≠ none ∧ input.actorUserId.map JsText.trim ≠ payload.actorUserId)
    (.badRequest "Signed file read token does not belong to this actor")
  failIf (presented.nowMs runtime = none) (.badRequest "Signed file read timestamp must be an ISO timestamp")
  failIf (∃ expiresAt ∈ runtime.parseDate payload.expiresAt, ∃ nowMs ∈ presented.nowMs runtime, expiresAt ≤ nowMs)
    (.badRequest "Signed file read token has expired")
  let file ← selectFile presented.context presented.storage payload.tenantId payload.storagePath
  let content ← readFileContent sha256 objectStorage presented.storage.objects file
  return file.readWith content

end Service

section Tokens

variable {runtime : TokenRuntime} {sha256 : Bytes → String}
  {objectStorage : Option (Except Exception ObjectStorageConfig)} {created : CreateSignedReadTokenInput}
  {token : SignedFileObjectReadToken} {presented : Presented} {result : StoredFileObjectRead}

theorem safeEqual_iff {left right : String} : safeEqual left right ↔ left = right := by
  rw [safeEqual, utf8_injective.eq_iff, String.toList_inj]

theorem decodeBase64Url_encodeBase64Url (value : String) : decodeBase64Url runtime (encodeBase64Url value) = value := by
  simp [decodeBase64Url, encodeBase64Url, Base64.decode_encodeUrl, ofUtf8_utf8]

theorem requireSigningSecret_ok {signingSecret secret : String} :
    requireSigningSecret signingSecret = .ok secret ↔ trim signingSecret ≠ "" ∧ trim signingSecret = secret := by
  simp only [requireSigningSecret, bind_ok, failIf_ok, pure_ok, exists_const]

theorem readString_readString (value : Option String) : readString (readString value) = readString value := by
  cases trimmed : readString value with
  | none => rfl
  | some text =>
    obtain ⟨given, visible⟩ := Option.filter_eq_some_iff.mp trimmed
    obtain ⟨spaced, -, rfl⟩ := Option.map_eq_some_iff.mp given
    rw [readString, Option.map_some, trim_trim]
    exact Option.filter_eq_some_iff.mpr ⟨rfl, visible⟩

structure Issued (runtime : TokenRuntime) (created : CreateSignedReadTokenInput) (token : SignedFileObjectReadToken) :
    Prop where
  secret : JsText.trim created.signingSecret ≠ ""
  inTenant : isTenantScopedStoragePath (JsText.trim created.tenantId) (JsText.trim created.storagePath)
  expires : runtime.parseDate created.expiresAt ≠ none
  bearer : readString created.actorUserId = none → created.allowTenantBearerToken = some true
  signed : token.token = created.encodedPayload ++ "." ++
    signTokenPayload runtime created.encodedPayload (JsText.trim created.signingSecret)

theorem issued_of_ok (succeeded : createSignedReadToken runtime created = .ok token) : Issued runtime created token := by
  simp only [createSignedReadToken, assertTenantScopedStoragePath, bind_ok, failIf_ok, pure_ok,
    requireSigningSecret_ok, not_not, not_and] at succeeded
  obtain ⟨_, ⟨secret, rfl⟩, _, inTenant, _, expires, _, bearer, rfl⟩ := succeeded
  exact ⟨secret, inTenant, expires, bearer, rfl⟩

theorem payloadOfJson_issued (issued : Issued runtime created token) (payload : SignedFileObjectReadPayload) :
    payloadOfJson runtime created.payload.toJson = some payload ↔ created.payload = payload := by
  have dated : trim created.expiresAt ≠ "" := fun blank => issued.expires (runtime.parseDate_blank _ blank)
  have tenant : trim created.tenantId ≠ "" := by simpa [trim_trim] using issued.inTenant.1
  have path : trim created.storagePath ≠ "" := by
    intro empty
    have begins := issued.inTenant.2.1
    rw [empty] at begins
    simp [trim] at begins
  have actor : payloadActor created.payload.toJson = some created.payload.actorUserId := by
    have again := readString_readString created.actorUserId
    simp only [payloadActor, SignedFileObjectReadPayload.toJson, Json.property, JsMap.get?,
      CreateSignedReadTokenInput.payload]
    cases read : readString created.actorUserId with
    | none => simp [jsonText]
    | some actor =>
      rw [read] at again
      simp [jsonText, again]
  rw [payloadOfJson, actor]
  simp [visibleText, SignedFileObjectReadPayload.toJson, Json.property, JsMap.get?, guard,
    CreateSignedReadTokenInput.payload, trim_trim, tenant, path, dated, issued.expires]

theorem split_issued (issued : Issued runtime created token) :
    split '.' token.token =
      [created.encodedPayload, signTokenPayload runtime created.encodedPayload (trim created.signingSecret)] := by
  have apart (bytes : Bytes) : '.' ∉ Base64.encodeUrl bytes := Base64.not_mem_encodeUrl rfl bytes
  have payload : '.' ∉ created.encodedPayload.toList := by
    rw [CreateSignedReadTokenInput.encodedPayload, encodeBase64Url, String.toList_ofList]
    exact apart _
  have signature (secret : String) : '.' ∉ (signTokenPayload runtime created.encodedPayload secret).toList := by
    rw [signTokenPayload, String.toList_ofList]
    exact apart _
  rw [issued.signed, split, String.toList_append, String.toList_append, List.append_assoc]
  rw [show ".".toList = ['.'] from rfl, List.singleton_append, List.splitOn_append_cons_self_of_not_mem payload,
    List.splitOn_eq_singleton (signature _)]
  simp

theorem signTokenPayload_ne_empty (encodedPayload secret : String) : signTokenPayload runtime encodedPayload secret ≠ "" := by
  intro empty
  have chars := congrArg String.toList empty
  rw [signTokenPayload, String.toList_ofList] at chars
  refine Base64.encodeUrl_ne_nil ?_ chars
  intro none
  have length := runtime.hmacSha256_length secret encodedPayload
  rw [none] at length
  cases length

theorem encodedPayload_ne_empty : created.encodedPayload ≠ "" := by
  intro empty
  have chars := congrArg String.toList empty
  rw [CreateSignedReadTokenInput.encodedPayload, encodeBase64Url, String.toList_ofList] at chars
  refine Base64.encodeUrl_ne_nil ?_ chars
  rw [ne_eq, utf8_eq_nil_iff, SignedFileObjectReadPayload.stringified, String.toList_ofList]
  exact List.cons_ne_nil _ _

theorem verifySignedReadPayload_issued (issued : Issued runtime created token) (payload : SignedFileObjectReadPayload) :
    verifySignedReadPayload runtime token.token (trim created.signingSecret) = .ok payload ↔
      created.payload = payload := by
  have parsed : runtime.parseJson (decodeBase64Url runtime created.encodedPayload) = some created.payload.toJson := by
    rw [CreateSignedReadTokenInput.encodedPayload, decodeBase64Url_encodeBase64Url]
    exact runtime.parseJson_stringified _
  rw [← payloadOfJson_issued issued, verifySignedReadPayload, split_issued issued]
  simp only [parsed, Option.bind_some, encodedPayload_ne_empty, signTokenPayload_ne_empty, safeEqual_iff, or_self,
    not_true_eq_false, bind_ok, failIf_ok, not_false_eq_true, exists_const, true_and]
  cases payloadOfJson runtime created.payload.toJson <;> simp

theorem signed_of_verified {text secret : String} {payload : SignedFileObjectReadPayload}
    (verified : verifySignedReadPayload runtime text secret = .ok payload) :
    ∃ encodedPayload, split '.' text = [encodedPayload, signTokenPayload runtime encodedPayload secret] := by
  unfold verifySignedReadPayload at verified
  split at verified
  · next encodedPayload signature parts =>
    simp only [bind_ok, failIf_ok, safeEqual_iff, not_not] at verified
    obtain ⟨_, -, _, rfl, -⟩ := verified
    exact ⟨encodedPayload, parts⟩
  · cases verified

theorem text_of_split {text first second : String} (parts : split '.' text = [first, second]) :
    text = first ++ "." ++ second := by
  have pieces : text.toList.splitOn '.' = [first.toList, second.toList] := by
    have same := congrArg (List.map String.toList) parts
    simpa [split, List.map_map, Function.comp_def] using same
  have joined : ['.'].intercalate (text.toList.splitOn '.') = text.toList := List.intercalate_splitOn '.'
  rw [pieces] at joined
  apply String.toList_injective
  rw [← joined]
  simp [List.intercalate]

structure Presentable (runtime : TokenRuntime) (created : CreateSignedReadTokenInput) (presented : Presented) : Prop where
  secret : JsText.trim created.signingSecret = JsText.trim presented.input.signingSecret
  tenant : JsText.trim created.tenantId = JsText.trim presented.input.tenantId
  actor : ∀ actorUserId ∈ readString created.actorUserId,
    presented.input.actorUserId.map JsText.trim = some actorUserId
  unexpired : ∃ nowMs ∈ presented.nowMs runtime, ∃ expiresAt ∈ runtime.parseDate created.expiresAt, nowMs < expiresAt

structure Grants (runtime : TokenRuntime) (sha256 : Bytes → String)
    (objectStorage : Option (Except Exception ObjectStorageConfig)) (created : CreateSignedReadTokenInput)
    (presented : Presented) (result : StoredFileObjectRead) : Prop extends Presentable runtime created presented where
  file : ∃ file ∈ presented.storage.files.rows, presented.context.sees file.tenantId ∧
    file.key = (JsText.trim created.tenantId, JsText.trim created.storagePath) ∧
    ∃ content, readFileContent sha256 objectStorage presented.storage.objects file = .ok content ∧
      result = file.readWith content

theorem selectFile_ok {context : DbContext} {storage : FileStorage} {tenantId storagePath : String} {file : FileObject} :
    selectFile context storage tenantId storagePath = .ok file ↔
      file ∈ storage.files.rows ∧ context.sees file.tenantId ∧ file.key = (tenantId, storagePath) := by
  have found := @KeyedTable.find_eq_some _ _ _ _ storage.files (tenantId, storagePath) file
  unfold selectFile
  rw [and_left_comm, ← found]
  cases storage.files.find (tenantId, storagePath) with
  | none => simp
  | some other =>
    simp only [Option.some.injEq]
    constructor
    · intro selected
      split at selected
      · next seen =>
        obtain rfl := Except.ok.inj selected
        exact ⟨seen, rfl⟩
      · cases selected
    · rintro ⟨seen, rfl⟩
      rw [if_pos seen]

theorem readWithSignedToken_issued (issued : Issued runtime created token)
    (secret : trim created.signingSecret = trim presented.input.signingSecret)
    (text : presented.input.token = token.token) :
    readWithSignedToken runtime sha256 objectStorage presented = .ok result ↔
      Grants runtime sha256 objectStorage created presented result := by
  have verified (payload : SignedFileObjectReadPayload) :
      (requireSigningSecret presented.input.signingSecret >>= verifySignedReadPayload runtime presented.input.token) =
        .ok payload ↔ created.payload = payload := by
    simp only [bind_ok, requireSigningSecret_ok, ← secret, text]
    constructor
    · rintro ⟨_, ⟨-, rfl⟩, verified⟩
      exact (verifySignedReadPayload_issued issued payload).mp verified
    · intro same
      exact ⟨_, ⟨issued.secret, rfl⟩, (verifySignedReadPayload_issued issued payload).mpr same⟩
  simp only [readWithSignedToken, assertTenantScopedStoragePath, bind_ok, failIf_ok, pure_ok,
    verified, selectFile_ok, not_not]
  constructor
  · rintro ⟨_, rfl, _, tenant, _, -, _, actor, _, timed, _, unexpired, file, ⟨member, seen, key⟩, content, read, rfl⟩
    refine ⟨⟨secret, tenant, ?_, ?_⟩, file, member, seen, key, content, read, rfl⟩
    · intro actorUserId owned
      by_contra differs
      refine actor ⟨?_, fun same => differs (same.trans owned)⟩
      exact Option.ne_none_iff_exists'.mpr ⟨actorUserId, owned⟩
    · obtain ⟨nowMs, now⟩ := Option.ne_none_iff_exists'.mp timed
      obtain ⟨expiresAt, expires⟩ := Option.ne_none_iff_exists'.mp issued.expires
      refine ⟨nowMs, now, expiresAt, expires, ?_⟩
      by_contra late
      exact unexpired ⟨expiresAt, expires, nowMs, now, not_lt.mp late⟩
  · rintro ⟨⟨-, tenant, actor, nowMs, now, expiresAt, expires, before⟩, file, member, seen, key, content, read, rfl⟩
    refine ⟨_, rfl, (), tenant, (), issued.inTenant, (), ?_, (), ?_, (), ?_, file, ⟨member, seen, key⟩, content, read, rfl⟩
    · rintro ⟨named, differs⟩
      obtain ⟨actorUserId, owned⟩ := Option.ne_none_iff_exists'.mp named
      exact differs ((actor actorUserId owned).trans owned.symm)
    · rw [Option.mem_def.mp now]
      exact Option.some_ne_none _
    · rintro ⟨other, same, moment, at', late⟩
      rw [Option.mem_def] at now expires same at'
      cases now.symm.trans at'
      cases expires.symm.trans same
      omega

theorem segments_of_scoped {tenantId storagePath : String}
    (inTenant : isTenantScopedStoragePath (trim tenantId) (trim storagePath))
    (slashless : '/' ∉ (trim tenantId).toList) :
    ∃ inside : List String, split '/' (trim storagePath) = "tenant" :: trim tenantId :: inside ∧
      ∀ segment ∈ inside, segment ≠ "" ∧ segment ≠ "." ∧ segment ≠ ".." := by
  obtain ⟨-, begins, -, -, proper⟩ := inTenant
  simp only [trim_trim] at begins proper
  obtain ⟨rest, path⟩ := List.isPrefixOf_iff_prefix.mp begins
  have parts : (trim storagePath).toList.splitOn '/' =
      "tenant".toList :: (trim tenantId).toList :: rest.splitOn '/' := by
    rw [← path, String.toList_append, String.toList_append, List.append_assoc, List.append_assoc]
    change ("tenant".toList ++ '/' :: ((trim tenantId).toList ++ '/' :: rest)).splitOn '/' = _
    rw [List.splitOn_append_cons_self_of_not_mem (by decide), List.splitOn_append_cons_self_of_not_mem slashless]
  refine ⟨(rest.splitOn '/').map String.ofList, ?_, ?_⟩
  · simp [split, parts]
  · intro segment member
    obtain ⟨chars, listed, rfl⟩ := List.mem_map.mp member
    have clean := proper chars (by rw [parts]; exact .tail _ (.tail _ listed))
    simpa [← String.toList_inj] using clean

end Tokens

inductive TokenCall where
  | createSignedReadToken (input : CreateSignedReadTokenInput)
  | readWithSignedToken (presented : Presented)

section Runs

variable (runtime : TokenRuntime) (sha256 : Bytes → String)
  (objectStorage : Option (Except Exception ObjectStorageConfig)) (issued : List CreateSignedReadTokenInput)

def issue : TokenCall → List CreateSignedReadTokenInput
  | .createSignedReadToken input => if (createSignedReadToken runtime input).isOk then input :: issued else issued
  | .readWithSignedToken _ => issued

/-- A signature that is right for the secret was made by a call with that secret. -/
def Unforged : TokenCall → Prop
  | .createSignedReadToken _ => True
  | .readWithSignedToken presented =>
    let secret := JsText.trim presented.input.signingSecret
    ∀ encodedPayload,
      JsText.split '.' presented.input.token = [encodedPayload, signTokenPayload runtime encodedPayload secret] →
        ∃ created ∈ issued, JsText.trim created.signingSecret = secret ∧ created.encodedPayload = encodedPayload

/-- A read that returns presents the token of a call for its tenant, its time and its actor or for any bearer, and
returns the row of the path that was signed, with the bytes that it was saved with. -/
structure Authorised (created : CreateSignedReadTokenInput) (presented : Presented) (result : StoredFileObjectRead) : Prop
    extends Grants runtime sha256 objectStorage created presented result where
  token : (createSignedReadToken runtime created).map (·.token) = .ok presented.input.token
  bearer : readString created.actorUserId = none → created.allowTenantBearerToken = some true
  path : result.storedPath = JsText.trim created.storagePath
  prefixed : ("tenant/" ++ JsText.trim presented.input.tenantId ++ "/").toList <+: result.storedPath.toList
  inside : '/' ∉ (JsText.trim presented.input.tenantId).toList → ∃ inside : List String,
    JsText.split '/' result.storedPath = "tenant" :: JsText.trim presented.input.tenantId :: inside ∧
      ∀ segment ∈ inside, segment ≠ "" ∧ segment ≠ "." ∧ segment ≠ ".."
  saved : ∃ file ∈ presented.storage.files.rows,
    file.key = (JsText.trim presented.input.tenantId, result.storedPath) ∧
      ∀ context input retentionPolicy retentionExpiresAt stored,
        file = newFile sha256 context input retentionPolicy retentionExpiresAt stored → result.content = input.buffer

def ReadsAuthorised : TokenCall → Prop
  | .createSignedReadToken _ => True
  | .readWithSignedToken presented => ∀ result,
    readWithSignedToken runtime sha256 objectStorage presented = .ok result →
      ∃ created ∈ issued, Authorised runtime sha256 objectStorage created presented result

def AllIssued : Prop :=
  ∀ created ∈ issued, ∃ token, createSignedReadToken runtime created = .ok token

variable {runtime sha256 objectStorage}

theorem issue_allIssued {issued : List CreateSignedReadTokenInput} (call : TokenCall)
    (each : AllIssued runtime issued) : AllIssued runtime (issue runtime issued call) := by
  cases call with
  | readWithSignedToken presented => exact each
  | createSignedReadToken input =>
    rw [issue]
    split
    · next accepted =>
      intro created member
      rcases List.mem_cons.mp member with rfl | old
      · cases ran : createSignedReadToken runtime created with
        | ok token => exact ⟨token, rfl⟩
        | error error => simp [ran, Except.isOk, Except.toBool] at accepted
      · exact each created old
    · exact each

theorem content_of_newFile (injective : Function.Injective sha256) {objects : ObjectStore} {context : DbContext}
    {input : SaveInput} {retentionPolicy : String} {retentionExpiresAt : Option Int}
    {stored : Option ObjectStoragePutResult} {content : Bytes}
    (read : readFileContent sha256 objectStorage objects
      (newFile sha256 context input retentionPolicy retentionExpiresAt stored) = .ok content) :
    content = input.buffer := by
  rw [readFileContent_ok] at read
  cases stored with
  | none => exact (Option.some.inj read).symm
  | some stored => exact injective read.2.2

theorem readsAuthorised_of_unforged (injective : Function.Injective sha256) (issued : List CreateSignedReadTokenInput)
    (call : TokenCall) (each : AllIssued runtime issued) (unforged : Unforged runtime issued call) :
    ReadsAuthorised runtime sha256 objectStorage issued call := by
  cases call with
  | createSignedReadToken input => trivial
  | readWithSignedToken presented =>
    intro result read
    have verified := read
    simp only [readWithSignedToken, bind_ok, requireSigningSecret_ok] at verified
    obtain ⟨payload, ⟨_, ⟨-, rfl⟩, verified⟩, -⟩ := verified
    obtain ⟨encodedPayload, parts⟩ := signed_of_verified verified
    obtain ⟨created, member, secret, rfl⟩ := unforged encodedPayload parts
    obtain ⟨token, issuing⟩ := each created member
    have issuedToken := issued_of_ok issuing
    have text : presented.input.token = token.token := by
      rw [issuedToken.signed, secret]
      exact text_of_split parts
    have grants := (readWithSignedToken_issued issuedToken secret text).mp read
    obtain ⟨file, present, -, key, content, bytes, same⟩ := grants.file
    have path : result.storedPath = trim created.storagePath := by
      rw [same]
      exact congrArg Prod.snd key
    have inTenant := issuedToken.inTenant
    refine ⟨created, member, grants, ?_, issuedToken.bearer, path, ?_, ?_, file, present, ?_, ?_⟩
    · rw [issuing, text]
      rfl
    · rw [path, ← grants.tenant]
      have begins := List.isPrefixOf_iff_prefix.mp inTenant.2.1
      rwa [trim_trim, trim_trim] at begins
    · intro slashless
      rw [path]
      rw [← grants.tenant] at slashless ⊢
      exact segments_of_scoped inTenant slashless
    · rw [path, ← grants.tenant, key]
    · rintro context input retentionPolicy retentionExpiresAt stored rfl
      rw [same]
      exact content_of_newFile injective bytes

end Runs

def StoredFileObject.withContent (file : StoredFileObject) (content : Bytes) : StoredFileObjectRead where
  storedPath := file.storedPath
  originalFileName := file.originalFileName
  mimeType := file.mimeType
  sizeBytes := file.sizeBytes
  sha256 := file.sha256
  storageBackend := file.storageBackend
  retentionPolicy := some file.retentionPolicy
  retentionExpiresAt := some file.retentionExpiresAt
  content := content

section Saves

variable {runtime : TokenRuntime} {sha256 : Bytes → String}
  {objectStorage : Option (Except Exception ObjectStorageConfig)} {storage middle after : FileStorage}
  {context : DbContext} {objectStorageEnabled : Bool} {input : SaveInput} {outcome : PutOutcome} {insertFails : Bool}
  {stored : StoredFileObject} {put : Option ObjectStoragePutResult}

theorem writeObjectStorageIfEnabled_ok
    (wrote : (writeObjectStorageIfEnabled sha256 objectStorage objectStorageEnabled input outcome).run storage =
      (middle, .ok put)) :
    put = none ∧ middle = storage ∨
      put.isSome ∧ middle = overwritten input storage ∧ isTenantScopedStoragePath input.tenantId input.storagePath ∧
        ∃ resolved, objectStorage = some (.ok resolved) := by
  unfold writeObjectStorageIfEnabled at wrote
  cases objectStorageEnabled with
  | false =>
    obtain ⟨rfl, same⟩ := Prod.mk.inj wrote
    exact .inl ⟨(Except.ok.inj same).symm, rfl⟩
  | true =>
    rw [if_pos rfl] at wrote
    cases objectStorage with
    | none => cases congrArg Prod.snd wrote
    | some config =>
      cases admitted : putChecks config input.tenantId input.storagePath input.mimeType with
      | error error =>
        rw [run_bind, run_zoom, putObject_of_error admitted] at wrote
        cases congrArg Prod.snd wrote
      | ok resolved =>
        rw [run_bind, run_zoom, putObject_of_ok admitted] at wrote
        cases outcome with
        | answered etag =>
          simp only [run_bind, run_failIf, ne_eq, not_true_eq_false, if_false] at wrote
          obtain ⟨rfl, same⟩ := Prod.mk.inj wrote
          obtain rfl := Except.ok.inj same
          simp only [putChecks, assertTenantScopedStoragePath, bind_ok, failIf_ok, not_not] at admitted
          obtain ⟨_, inTenant, found, configured, -⟩ := admitted
          exact .inr ⟨rfl, rfl, inTenant, found, by rw [configured]⟩
        | refused => cases congrArg Prod.snd wrote
        | lost => cases congrArg Prod.snd wrote

theorem save_ok (saved : (save sha256 objectStorage context objectStorageEnabled input outcome insertFails).run storage =
    (after, .ok stored)) :
    ∃ file ∈ after.files.rows, file.key = (input.tenantId, input.storagePath) ∧ stored = mapStoredFileObjectRow file ∧
      readFileContent sha256 objectStorage after.objects file = .ok input.buffer := by
  simp only [save, run_bind_ok, run_lift_ok] at saved
  obtain ⟨⟨retentionPolicy, retentionExpiresAt⟩, _, ⟨-, rfl⟩, put, middle, wrote, file, _, inserted, rest⟩ := saved
  obtain ⟨rfl, rfl⟩ := run_pure_ok.mp rest
  rw [insertFile_run] at inserted
  split at inserted
  · cases congrArg Prod.snd inserted
  · obtain ⟨rfl, same⟩ := Prod.mk.inj inserted
    obtain rfl := Except.ok.inj same
    refine ⟨_, KeyedTable.mem_put.mpr (.inl rfl), rfl, rfl, readFileContent_ok.mpr ?_⟩
    rcases writeObjectStorageIfEnabled_ok wrote with ⟨rfl, rfl⟩ | ⟨present, rfl, inTenant, configured⟩
    · rfl
    · obtain ⟨result, rfl⟩ := Option.isSome_iff_exists.mp present
      exact ⟨⟨inTenant, configured⟩, by simp [overwritten, storeObject, newFile], rfl⟩

theorem retentionPolicy_of_read {presented : Presented} {result : StoredFileObjectRead}
    (read : readWithSignedToken runtime sha256 objectStorage presented = .ok result) : result.retentionPolicy = none := by
  simp only [readWithSignedToken, bind_ok, pure_ok] at read
  obtain ⟨_, -, _, -, _, -, _, -, _, -, _, -, file, -, content, -, rfl⟩ := read
  rfl

theorem created_of_issuable {created : CreateSignedReadTokenInput} (secret : trim created.signingSecret ≠ "")
    (inTenant : isTenantScopedStoragePath (trim created.tenantId) (trim created.storagePath))
    (expires : runtime.parseDate created.expiresAt ≠ none) (actor : readString created.actorUserId ≠ none) :
    ∃ token, createSignedReadToken runtime created = .ok token := by
  simp only [createSignedReadToken, assertTenantScopedStoragePath, bind_ok, failIf_ok, pure_ok,
    requireSigningSecret_ok]
  exact ⟨_, _, ⟨secret, rfl⟩, (), not_not.mpr inTenant, (), expires, (), fun refused => actor refused.1, rfl⟩

end Saves

open Classical in
noncomputable def parsePayload (text : String) : Option Json :=
  if known : ∃ payload : SignedFileObjectReadPayload, payload.stringified = text then some known.choose.toJson else none

theorem parsePayload_stringified (payload : SignedFileObjectReadPayload) :
    parsePayload payload.stringified = some payload.toJson := by
  have known : ∃ other : SignedFileObjectReadPayload, other.stringified = payload.stringified := ⟨payload, rfl⟩
  rw [parsePayload, dif_pos known]
  exact congrArg some (Json.render_injective (String.ofList_injective known.choose_spec))

noncomputable def sampleRuntime : TokenRuntime where
  hmacSha256 secret text := List.replicate 32 (UInt8.ofNat (secret.length + text.length))
  hmacSha256_length _ _ := List.length_replicate
  parseDate text := if JsText.trim text = "" then none else some 100
  parseDate_blank _ blank := if_pos blank
  parseJson := parsePayload
  parseJson_stringified := parsePayload_stringified
  malformedText _ := ""

def sampleSha256 (bytes : Bytes) : String := String.ofList (Base64.encode bytes)

theorem sampleSha256_injective : Function.Injective sampleSha256 := by
  intro first second same
  rw [← Base64.decode_encode first, String.ofList_injective same, Base64.decode_encode]

def sampleInput : SaveInput where
  tenantId := "lakeside"
  storagePath := "tenant/lakeside/report.txt"
  originalFileName := "report.txt"
  mimeType := "text/plain"
  sizeBytes := 1
  buffer := [0x41]
  metadata := []
  retentionPolicy := none
  retentionExpiresAt := none

def sampleContext : DbContext := ⟨"lakeside", "admin", 50⟩

def sampleFile : FileObject := newFile sampleSha256 sampleContext sampleInput "operational" none none

def sampleStorage : FileStorage := { emptyStorage with files := emptyStorage.files.put sampleFile }

theorem sample_saved : (save sampleSha256 none sampleContext false sampleInput .refused false).run emptyStorage =
    (sampleStorage, .ok (mapStoredFileObjectRow sampleFile)) := by
  rfl

def sampleCreated : CreateSignedReadTokenInput :=
  ⟨"lakeside", "tenant/lakeside/report.txt", some "teacher", none, "later", "secret"⟩

theorem sample_expires : sampleRuntime.parseDate sampleCreated.expiresAt = some 100 := by
  have written : ¬trim "later" = "" := by decide +kernel
  simp [sampleRuntime, sampleCreated, written]

theorem sample_issued : ∃ token, createSignedReadToken sampleRuntime sampleCreated = .ok token := by
  apply created_of_issuable
  · decide +kernel
  · decide +kernel
  · exact Option.ne_none_iff_exists'.mpr ⟨100, sample_expires⟩
  · decide +kernel

def samplePresented (token : SignedFileObjectReadToken) : Presented where
  context := sampleContext
  storage := sampleStorage
  input := ⟨"lakeside", some "teacher", token.token, "secret", none⟩

theorem sample_presentable (token : SignedFileObjectReadToken) :
    Presentable sampleRuntime sampleCreated (samplePresented token) where
  secret := rfl
  tenant := rfl
  actor := by
    have named : readString (some "teacher") = some "teacher" := by decide +kernel
    have trimmed : trim "teacher" = "teacher" := by decide +kernel
    simp [samplePresented, sampleCreated, named, trimmed]
  unexpired := ⟨50, rfl, 100, sample_expires, by decide⟩

/-- Where no signature is forged, every read that returns is authorised by an issued token. -/
theorem signed_reads_are_authorised (runtime : TokenRuntime) {sha256 : Bytes → String}
    (injective : Function.Injective sha256) (objectStorage : Option (Except Exception ObjectStorageConfig))
    (calls : List TokenCall) (unforged : Meets (issue runtime) (Unforged runtime) [] calls) :
    Meets (issue runtime) (ReadsAuthorised runtime sha256 objectStorage) [] calls :=
  have initial : AllIssued runtime [] := fun _ member => absurd member List.not_mem_nil
  meets_of_meets
    (fun issued call each unforged => readsAuthorised_of_unforged injective issued call each unforged)
    (fun _ call each _ => issue_allIssued call each) initial unforged

theorem teacher_reads_report : ∃ token, createSignedReadToken sampleRuntime sampleCreated = .ok token ∧
    Meets (issue sampleRuntime) (ReadsAuthorised sampleRuntime sampleSha256 none) []
      [.createSignedReadToken sampleCreated, .readWithSignedToken (samplePresented token)] := by
  obtain ⟨token, issuing⟩ := sample_issued
  refine ⟨token, issuing, ?_⟩
  apply signed_reads_are_authorised sampleRuntime sampleSha256_injective none
  refine ⟨trivial, ?_, trivial⟩
  intro encodedPayload parts
  have accepted : (createSignedReadToken sampleRuntime sampleCreated).isOk := by rw [issuing]; rfl
  have pieces := (split_issued (issued_of_ok issuing)).symm.trans parts
  exact ⟨sampleCreated, by rw [issue, if_pos accepted]; exact List.mem_singleton_self _, rfl, (List.cons.inj pieces).1⟩

/-- No read of a file that has just been saved returns what the save returned, whose retention it leaves out; where the
tenant and the path have no blanks around them, that is all that it leaves out. -/
theorem reads_leave_out_retention (runtime : TokenRuntime) (sha256 : Bytes → String)
    (objectStorage : Option (Except Exception ObjectStorageConfig)) (context : DbContext) (objectStorageEnabled : Bool)
    (input : SaveInput) (outcome : PutOutcome) (insertFails : Bool) (storage : FileStorage) (stored : StoredFileObject)
    (created : CreateSignedReadTokenInput) (token : SignedFileObjectReadToken) (presented : Presented)
    (saved : (save sha256 objectStorage context objectStorageEnabled input outcome insertFails).run storage =
      (presented.storage, .ok stored))
    (issuing : createSignedReadToken runtime created = .ok token) (tenant : created.tenantId = input.tenantId)
    (path : created.storagePath = stored.storedPath) (text : presented.input.token = token.token) :
    readWithSignedToken runtime sha256 objectStorage presented ≠ .ok (stored.withContent input.buffer) ∧
      (JsText.trim input.tenantId = input.tenantId → JsText.trim input.storagePath = input.storagePath →
        Presentable runtime created presented → presented.context.sees input.tenantId →
        readWithSignedToken runtime sha256 objectStorage presented =
          .ok { stored.withContent input.buffer with retentionPolicy := none, retentionExpiresAt := none }) := by
  constructor
  · intro read
    cases retentionPolicy_of_read read
  · intro tenantTrimmed pathTrimmed presentable seen
    obtain ⟨file, member, key, rfl, bytes⟩ := save_ok saved
    obtain ⟨owner, place⟩ := Prod.mk.inj key
    apply (readWithSignedToken_issued (issued_of_ok issuing) presentable.secret text).mpr
    refine ⟨presentable, file, member, owner ▸ seen, ?_, input.buffer, bytes, rfl⟩
    rw [key, tenant, path, tenantTrimmed]
    exact congrArg _ (pathTrimmed.symm.trans (congrArg JsText.trim place.symm))

theorem report_is_read_without_retention : ∃ token, createSignedReadToken sampleRuntime sampleCreated = .ok token ∧
    readWithSignedToken sampleRuntime sampleSha256 none (samplePresented token) =
      .ok { (mapStoredFileObjectRow sampleFile).withContent [0x41] with retentionPolicy := none, retentionExpiresAt := none } := by
  obtain ⟨token, issuing⟩ := sample_issued
  refine ⟨token, issuing, ?_⟩
  apply (reads_leave_out_retention sampleRuntime sampleSha256 none sampleContext false sampleInput .refused false
    emptyStorage (mapStoredFileObjectRow sampleFile) sampleCreated token (samplePresented token) sample_saved issuing rfl
    rfl rfl).2
  · decide +kernel
  · decide +kernel
  · exact sample_presentable token
  · exact .inl rfl

/-- The report was saved for the operational retention, which its reader is not told. -/
theorem report_loses_its_retention : ∃ token, createSignedReadToken sampleRuntime sampleCreated = .ok token ∧
    Presentable sampleRuntime sampleCreated (samplePresented token) ∧
    (save sampleSha256 none sampleContext false sampleInput .refused false).run emptyStorage =
      ((samplePresented token).storage, .ok (mapStoredFileObjectRow sampleFile)) ∧
    readWithSignedToken sampleRuntime sampleSha256 none (samplePresented token) ≠
      .ok ((mapStoredFileObjectRow sampleFile).withContent [0x41]) := by
  obtain ⟨token, issuing⟩ := sample_issued
  refine ⟨token, issuing, sample_presentable token, sample_saved, ?_⟩
  intro read
  cases retentionPolicy_of_read read

end ShuleHub.Uploads

