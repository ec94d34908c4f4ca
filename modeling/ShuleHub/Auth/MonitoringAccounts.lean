import ShuleHub.Exceptions
import ShuleHub.Lib.Effects
import ShuleHub.Lib.JsText
import ShuleHub.Lib.KeyedTable

/-! `MonitoringServiceAccountService`: the accounts that monitor a school, each with one token at a time. -/

namespace ShuleHub.Monitoring

open Transaction

def monitoringTokenPrefix : String := "shm_"

def defaultMonitoringPermissions : List String :=
  ["auth:read", "students:read", "academics:read", "exams:read", "admissions:read", "inventory:read", "billing:read",
    "reports:read", "support:view", "timetable:read", "hr:read", "library:read"]

inductive AccountStatus where
  | active
  | revoked
deriving DecidableEq, Repr

structure MonitoringServiceAccountRow where
  id : String
  tenantId : String
  name : String
  tokenHash : String
  permissions : List String
  status : AccountStatus
  expiresAt : Int
  lastUsedAt : Option Int
  createdBy : Option String
deriving DecidableEq

inductive AuditAction where
  | created
  | rotated
  | revoked
  | validationFailed
deriving DecidableEq, Repr

structure MonitoringAuditRow where
  tenantId : String
  accountId : Option String
  action : AuditAction
  actorUserId : Option String
deriving DecidableEq

structure Issue where
  account : String
  tenantId : String
  token : String
  expiresAt : Int
deriving DecidableEq

inductive MonitoringEvent where
  | issued (issue : Issue)
  | revoked (account : String)
deriving DecidableEq

def MonitoringEvent.account : MonitoringEvent → String
  | .issued issue => issue.account
  | .revoked account => account

/-- The two tables, and what was done to the accounts, the newest first, which no service reads. -/
structure MonitoringBooks where
  accounts : KeyedTable MonitoringServiceAccountRow String (·.id)
  auditLogs : List MonitoringAuditRow
  history : List MonitoringEvent

def MonitoringBooks.empty : MonitoringBooks := ⟨KeyedTable.empty, [], []⟩

abbrev MonitoringStatement := Transaction MonitoringBooks Exception

abbrev MonitoringEffect := Effect MonitoringBooks Exception

/-- The configured pepper, SHA-256, and the casts of texts to ids and to the milliseconds of an ISO timestamp. -/
structure MonitoringRuntime where
  pepper : String
  sha256 : String → String
  castUuid : String → Option String
  castTimestamp : String → Option Int
  sha256_injective : Function.Injective sha256

variable (runtime : MonitoringRuntime)

/-- The session that a call runs in: the tenant and the role that row-level security goes by, whether a request
holds a transaction that its failure rolls back, whether audit rows can be stored, and the time. -/
structure MonitoringSession where
  tenantId : String
  role : String
  inRequest : Bool
  auditAvailable : Bool
  now : Int

namespace MonitoringSession

def Manages (session : MonitoringSession) : Prop := session.role = "platform_owner" ∨ session.role = "system"
deriving Decidable

def Sees (session : MonitoringSession) (tenantId : String) : Prop := tenantId = session.tenantId ∨ session.Manages
deriving Decidable

end MonitoringSession

def generateMonitoringToken (randomPart : String) : String := monitoringTokenPrefix ++ randomPart

def isMonitoringToken (rawToken : String) : Bool := monitoringTokenPrefix.toList.isPrefixOf rawToken.toList

def hashMonitoringToken (rawToken : String) : String :=
  runtime.sha256 (runtime.pepper ++ ":" ++ rawToken)

def isWritePermission (permission : String) : Bool :=
  permission = "*:*" || [":write", ":create", ":delete", ":manage", ":*"].any (JsText.endsWith permission)

def normalizeReadOnlyPermissions (permissions : List String) : Except Exception (List String) := do
  let normalized := (permissions.map JsText.trim).filter (· ≠ "")
  failIf (normalized.any isWritePermission)
    (.unauthorized "Monitoring service accounts may only receive read-only permissions")
  return normalized.eraseDups

structure CreateMonitoringTokenInput where
  tenantId : String
  name : String
  createdBy : Option String
  expiresAt : String
  permissions : Option (List String)

structure CreatedMonitoringToken where
  id : String
  tenantId : String
  name : String
  token : String
  permissions : List String
  expiresAt : Int
deriving DecidableEq

structure MonitoringPrincipal where
  userId : String
  tenantId : String
  role : String
  audience : String
  sessionId : String
  permissions : List String
deriving DecidableEq

def checkTokenHash (books : MonitoringBooks) (account tokenHash : String) : Except Exception Unit :=
  failIf (∃ other ∈ books.accounts.rows, other.tokenHash = tokenHash ∧ other.id ≠ account)
    (.database "ux_monitoring_service_accounts_token_hash")

def insertAccount (session : MonitoringSession) (newId token : String)
    (permissions : List String) (input : CreateMonitoringTokenInput) :
    MonitoringStatement MonitoringServiceAccountRow := do
  let expiresAt ← required (runtime.castTimestamp input.expiresAt) (.database "invalid input syntax for type timestamp")
  let createdBy ← required (input.createdBy.mapM runtime.castUuid) (.database "invalid input syntax for type uuid")
  failIf (¬ session.Manages) (.database "new row violates row-level security policy")
  let row : MonitoringServiceAccountRow := {
    id := newId
    tenantId := input.tenantId
    name := input.name
    tokenHash := hashMonitoringToken runtime token
    permissions
    status := .active
    expiresAt
    lastUsedAt := none
    createdBy }
  let books ← current
  monadLift (checkTokenHash books newId row.tokenHash)
  let accounts ← required (books.accounts.tryInsert row) (.database "monitoring_service_accounts_pkey")
  write fun books => { books with
    accounts, history := .issued ⟨newId, row.tenantId, token, expiresAt⟩ :: books.history }
  return row

def updatable (session : MonitoringSession) (books : MonitoringBooks) (id : String) :
    Option MonitoringServiceAccountRow :=
  if session.Manages then books.accounts.find id else none

def findAccountId (tokenId : String) : MonitoringStatement String :=
  required (runtime.castUuid tokenId) (.database "invalid input syntax for type uuid")

def revokeAccount (session : MonitoringSession) (tokenId : String) :
    MonitoringStatement (Option MonitoringServiceAccountRow) := do
  let id ← findAccountId runtime tokenId
  let books ← current
  match updatable session books id with
  | none => return none
  | some row => do
    let revoked := { row with status := .revoked }
    write fun books => { books with
      accounts := books.accounts.put revoked, history := .revoked id :: books.history }
    return some revoked

def rotateAccount (session : MonitoringSession) (tokenId token : String) :
    MonitoringStatement (Option MonitoringServiceAccountRow) := do
  let id ← findAccountId runtime tokenId
  let books ← current
  match (updatable session books id).filter (·.status = .active) with
  | none => return none
  | some row => do
    let rotated := { row with tokenHash := hashMonitoringToken runtime token, lastUsedAt := none }
    monadLift (checkTokenHash books id rotated.tokenHash)
    write fun books => { books with
      accounts := books.accounts.put rotated
      history := .issued ⟨id, row.tenantId, token, row.expiresAt⟩ :: books.history }
    return some rotated

def markUsed (session : MonitoringSession) (id : String) : MonitoringStatement Unit := do
  let books ← current
  match updatable session books id with
  | none => return ()
  | some row =>
    write fun books => { books with accounts := books.accounts.put { row with lastUsedAt := some session.now } }

def findByTokenHash (session : MonitoringSession) (books : MonitoringBooks) (tokenHash : String) :
    Option MonitoringServiceAccountRow :=
  books.accounts.rows.find? fun row => row.tokenHash = tokenHash ∧ session.Sees row.tenantId

def recordAudit (session : MonitoringSession) (row : MonitoringAuditRow) : MonitoringEffect Unit := do
  failIf (session.auditAvailable = false) (.database "audit log is unavailable")
  failIf (¬ session.Sees row.tenantId) (.database "new row violates row-level security policy")
  Effect.write fun books => { books with auditLogs := row :: books.auditLogs }

def recordValidationFailure (session : MonitoringSession) (tenantId : String) (accountId : Option String) :
    MonitoringEffect Unit := do
  let _ ← Effect.attempt (recordAudit session ⟨tenantId, accountId, .validationFailed, none⟩)

def createdToken (row : MonitoringServiceAccountRow) (token : String) : CreatedMonitoringToken where
  id := row.id
  tenantId := row.tenantId
  name := row.name
  token := token
  permissions := row.permissions
  expiresAt := row.expiresAt

def createToken (session : MonitoringSession) (newId randomPart : String)
    (input : CreateMonitoringTokenInput) : MonitoringEffect CreatedMonitoringToken := do
  let token := generateMonitoringToken randomPart
  let permissions ← monadLift (normalizeReadOnlyPermissions (input.permissions.getD defaultMonitoringPermissions))
  let row ← Effect.transact (insertAccount runtime session newId token permissions input)
  recordAudit session ⟨row.tenantId, some row.id, .created, input.createdBy⟩
  return createdToken row token

def isAcceptable (session : MonitoringSession) (expectedTenantId : Option String)
    (row : MonitoringServiceAccountRow) : Bool :=
  row.status = .active && session.now < row.expiresAt &&
    ((expectedTenantId.filter (· ≠ "")).all (row.tenantId = ·))

def verifyToken (session : MonitoringSession) (rawToken : String)
    (expectedTenantId : Option String) : MonitoringEffect MonitoringPrincipal :=
  if isMonitoringToken rawToken = false then do
    recordValidationFailure session (expectedTenantId.getD "unknown") none
    fail (.unauthorized "Invalid monitoring token")
  else do
    let books ← Effect.current
    let found := findByTokenHash session books (hashMonitoringToken runtime rawToken)
    match found.filter (isAcceptable session expectedTenantId) with
    | none => do
      recordValidationFailure session ((expectedTenantId <|> found.map (·.tenantId)).getD "unknown") (found.map (·.id))
      fail (.unauthorized "Invalid monitoring token")
    | some row => do
      Effect.transact (markUsed session row.id)
      let permissions ← monadLift (normalizeReadOnlyPermissions row.permissions)
      return {
        userId := "monitor:" ++ row.id
        tenantId := row.tenantId
        role := "monitor"
        audience := "school"
        sessionId := "monitor:" ++ row.id
        permissions }

def revokeToken (session : MonitoringSession) (tokenId : String)
    (actorUserId : Option String) : MonitoringEffect Unit := do
  match ← Effect.transact (revokeAccount runtime session tokenId) with
  | none => return ()
  | some row => recordAudit session ⟨row.tenantId, some tokenId, .revoked, actorUserId⟩

def rotateToken (session : MonitoringSession) (randomPart tokenId : String)
    (actorUserId : Option String) : MonitoringEffect CreatedMonitoringToken := do
  let token := generateMonitoringToken randomPart
  match ← Effect.transact (rotateAccount runtime session tokenId token) with
  | none => fail (.unauthorized "Monitoring token cannot be rotated")
  | some row => do
    recordAudit session ⟨row.tenantId, some tokenId, .rotated, actorUserId⟩
    return createdToken row token

end ShuleHub.Monitoring
