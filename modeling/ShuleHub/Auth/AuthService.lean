import Mathlib.Data.List.Sort
import ShuleHub.Auth.Sessions
import ShuleHub.Lib.JsText

/-! Signing in: the users, their memberships and roles, the challenge of a login, and what a login, a refresh
and the check of an access token make of them. -/

namespace ShuleHub.Auth

open Transaction SessionStore

variable {permissions : List String} {now : Int} {role : String} {token : JwtToken}

inductive UserStatus where
  | active
  | disabled
deriving DecidableEq

inductive UserType where
  | member
  | platformOwner
deriving DecidableEq

inductive MembershipStatus where
  | active
  | invited
  | suspended
deriving DecidableEq

structure UserEntity where
  id : String
  tenantId : String
  email : String
  passwordHash : String
  displayName : String
  userType : UserType
  status : UserStatus
  emailVerifiedAt : Option Int
  mfaEnabled : Bool
deriving DecidableEq

structure TenantMembershipRow where
  id : String
  tenantId : String
  userId : String
  roleId : String
  status : MembershipStatus
  createdAt : Int
deriving DecidableEq

structure RoleEntity where
  id : String
  tenantId : String
  code : String
  name : String

structure RolePermissionRow where
  tenantId : String
  roleId : String
  resource : String
  action : String

structure TenantMembershipEntity extends TenantMembershipRow where
  roleCode : String
  roleName : String

structure MfaChallengeRow where
  id : String
  userId : String
  codeHash : String
  expiresAt : Int
  consumedAt : Option Int
deriving DecidableEq

structure TrustedDeviceRow where
  userId : String
  deviceTokenHash : String
  userAgent : Option String
  ipAddress : Option String
  expiresAt : Int
  revokedAt : Option Int
deriving DecidableEq

/-- The tables that logins read and write. A tenant has one membership for each user. -/
structure AuthDb where
  users : KeyedTable UserEntity String (·.id)
  memberships : KeyedTable TenantMembershipRow (String × String) fun row => (row.tenantId, row.userId)
  mfaChallenges : KeyedTable MfaChallengeRow String (·.id)
  trustedDevices : List TrustedDeviceRow
deriving DecidableEq

variable {after : AuthDb}

structure Authorization where
  roles : List RoleEntity
  rolePermissions : List RolePermissionRow

structure AuthConfig where
  tokens : TokenConfig
  systemOwnerEmail : Option String
  mfaService : Bool
  trustedDeviceService : Bool
  rowLevelSecurity : Bool

structure AuthRuntime where
  sha256 : String → String
  comparePassword : String → String → Bool
  lower : String → String

structure AuthService where
  config : AuthConfig
  runtime : AuthRuntime
  authorization : Authorization

variable (service : AuthService)

/-- The context of a request: who it is from, the tenant its host resolves to, its path, the clock, and the
random values it draws. -/
structure AuthCall where
  userId : String
  tenantId : Option String
  role : Option String
  path : String
  now : Int
  sessionId : String
  draw : TokenDraw
  metadata : AuthRequestMetadata

variable (call : AuthCall) (db : AuthDb) (user : UserEntity) (payload : JwtTokenPayload)

structure LoginDto where
  email : String
  password : String
  audience : Option AuthAudience
  mfaCode : Option String
  trustedDeviceToken : Option String
  trustDevice : Bool

variable (dto : LoginDto) (userId : String) (store : SessionStore)

inductive MfaStatus where
  | notRequired
  | trustedDevice
  | verified
deriving DecidableEq

variable {status : MfaStatus}

structure AuthWorld where
  db : AuthDb
  store : SessionStore

variable {world : AuthWorld}

def superadminRoleOwner : String := "platform_owner"

def authGlobalTenantId : String := "global"

def hasSensitivePermission (permissions : List String) : Bool :=
  permissions.any fun permission =>
    permission = "*:*" || JsText.endsWith permission ":write" || JsText.endsWith permission ":manage" ||
      JsText.endsWith permission ":create" || JsText.endsWith permission ":delete" ||
      JsText.endsWith permission ":*"

def highPrivilegeRoles : List String :=
  ["admin", "owner", "platform_owner", "principal", "support_lead", "superadmin"]

def requiresChallenge (role : String) (permissions : List String) : Bool :=
  role ∈ highPrivilegeRoles ||
    permissions.any fun permission =>
      permission = "*:*" || JsText.endsWith permission ":write" || JsText.endsWith permission ":manage" ||
        JsText.endsWith permission ":delete" || JsText.endsWith permission ":*"

def isEmailVerified : Bool := user.emailVerifiedAt.isSome

def resolveEmailVerificationPermissions (permissions : List String) : List String :=
  if hasSensitivePermission permissions = false ∨ isEmailVerified user = true then permissions else ["auth:read"]

def precedes (first second : RolePermissionRow) : Prop :=
  first.resource < second.resource ∨ first.resource = second.resource ∧ first.action ≤ second.action
deriving Decidable

def Authorization.getPermissionsByRoleId (authorization : Authorization) (tenantId roleId : String) : List String :=
  ((authorization.rolePermissions.filter fun row => row.tenantId = tenantId ∧ row.roleId = roleId).insertionSort
    precedes).map fun row => row.resource ++ ":" ++ row.action

/-- `users_select_policy`, as far as the calls here meet it. -/
def usersSelectPolicy : Prop :=
  user.tenantId = authGlobalTenantId ∧ user.id = call.userId ∨ some user.tenantId = call.tenantId ∨
    call.role = some superadminRoleOwner
deriving Decidable

def Visible : Prop :=
  service.config.rowLevelSecurity = true → usersSelectPolicy call user
deriving Decidable

def findById : Option UserEntity :=
  (db.users.find userId).filter fun user => Visible service call user

def findByEmail (email : String) :
    Except Exception (Option UserEntity) := do
  failIf (call.userId ≠ "anonymous") (.database "Auth user lookup is only available before authentication")
  failIf (call.path ≠ "/auth/login") (.database "Auth user lookup is only available on login routes")
  return db.users.rows.find? fun user => service.runtime.lower user.email = service.runtime.lower email

def isPlatformOwner : Prop :=
  user.tenantId = authGlobalTenantId ∧ user.userType = .platformOwner
deriving Decidable

def findPlatformOwnerByEmail (email : String) :
    Except Exception (Option UserEntity) := do
  failIf (call.userId ≠ "anonymous") (.database "Platform owner lookup is only available before authentication")
  failIf (call.path ≠ "/auth/login") (.database "Platform owner lookup is only available on login routes")
  return db.users.rows.find? fun user =>
    service.runtime.lower user.email = service.runtime.lower email ∧ isPlatformOwner user

def findPlatformOwnerById :
    Except Exception (Option UserEntity) := do
  failIf (call.path ≠ "/auth/refresh" ∧ call.path ≠ "/auth/me")
    (.database "Platform owner lookup is only available on authenticated auth routes")
  return (db.users.find userId).filter fun user => isPlatformOwner user

def Authorization.withRole (authorization : Authorization) (row : TenantMembershipRow) :
    Option TenantMembershipEntity :=
  (authorization.roles.find? fun role => role.id = row.roleId ∧ role.tenantId = row.tenantId).map fun role =>
    { row with
      roleCode := role.code
      roleName := role.name }

def findMembershipByUserAndTenant (userId tenantId : String) :
    Option TenantMembershipEntity :=
  (db.memberships.find (tenantId, userId)).bind service.authorization.withRole

def findActiveMembership (userId tenantId : String) :
    Option TenantMembershipEntity :=
  (findMembershipByUserAndTenant service db userId tenantId).filter fun membership => membership.status = .active

def findActiveMembershipsByUser :
    Except Exception (List TenantMembershipEntity) := do
  failIf (call.userId ≠ "anonymous") (.database "Membership auto-resolution is only available before authentication")
  failIf (call.path ≠ "/auth/login") (.database "Membership auto-resolution is only available on login routes")
  return (db.memberships.rows.filter fun row => row.userId = userId ∧ row.status = .active).filterMap
    service.authorization.withRole

def resolveLoginMembership :
    Except Exception TenantMembershipEntity :=
  match call.tenantId.bind (findActiveMembership service db userId) with
  | some membership => return membership
  | none => do
    match ← findActiveMembershipsByUser service call db userId with
    | [membership] => return membership
    | [] => fail (.unauthorized "User does not have access to an active school workspace")
    | _ => fail (.unauthorized
        "Multiple school workspaces are linked to this account. Choose a school after sign-in.")

def hashSecret (value : String) : String := service.runtime.sha256 (JsText.trim value)

structure EnforceMfaLoginInput where
  userId : String
  role : String
  permissions : List String
  mfaEnabled : Bool
  mfaCode : Option String
  trustedDevice : Bool

def isOpenChallenge (userId codeHash : String) (now : Int) (challenge : MfaChallengeRow) : Prop :=
  challenge.userId = userId ∧ challenge.codeHash = codeHash ∧ challenge.consumedAt = none ∧ now < challenge.expiresAt
deriving Decidable

def consumeChallenges (userId codeHash : String) (now : Int) : AuthDb :=
  { db with
    mfaChallenges := db.mfaChallenges.modify
      (fun challenge =>
        if isOpenChallenge userId codeHash now challenge then { challenge with consumedAt := some now }
        else challenge)
      fun challenge => by split <;> rfl }

def enforceLoginChallenge (now : Int) (input : EnforceMfaLoginInput) :
    Transaction AuthDb Exception MfaStatus :=
  if requiresChallenge input.role input.permissions = false then return .notRequired
  else if input.trustedDevice then return .trustedDevice
  else
    match input.mfaEnabled, input.mfaCode.filter (JsText.trim · ≠ "") with
    | true, some code => do
      let db ← current
      failIf (¬ ∃ challenge ∈ db.mfaChallenges.rows,
        isOpenChallenge input.userId (hashSecret service code) now challenge)
        (.unauthorized "MFA challenge is invalid or expired")
      write fun db => consumeChallenges db input.userId (hashSecret service code) now
      return .verified
    | _, _ => fail (.unauthorized "MFA challenge required for this role")

def isTrustedDevice (userId rawToken : String) (now : Int) : Bool :=
  db.trustedDevices.any fun device =>
    device.userId = userId ∧ device.deviceTokenHash = hashSecret service rawToken ∧ device.revokedAt = none ∧
      now < device.expiresAt

def defaultExpiry (now : Int) : Int := now + 90 * 24 * 60 * 60 * 1000

def trustDevice (userId rawToken : String) (db : AuthDb) : AuthDb :=
  let device : TrustedDeviceRow :=
    { userId
      deviceTokenHash := hashSecret service rawToken
      userAgent := call.metadata.userAgent
      ipAddress := call.metadata.ipAddress
      expiresAt := defaultExpiry call.now
      revokedAt := none }
  { db with
    trustedDevices := device :: db.trustedDevices.filter fun other =>
      ¬ (other.userId = userId ∧ other.deviceTokenHash = device.deviceTokenHash) }

def deviceToken : Option String :=
  if service.config.trustedDeviceService then dto.trustedDeviceToken.filter (· ≠ "") else none

def rememberDevice (dto : LoginDto) (status : MfaStatus) :
    Transaction AuthDb Exception Unit :=
  match status, dto.trustDevice, deviceToken service dto with
  | .verified, true, some token => write (trustDevice service call userId token)
  | _, _, _ => return ()

def enforceLoginSecurity (role : String)
    (permissions : List String) (dto : LoginDto) : Transaction AuthDb Exception (Option MfaStatus) :=
  if service.config.mfaService = false then return none
  else do
    let db ← current
    let status ← enforceLoginChallenge service call.now
      { userId := user.id
        role
        permissions
        mfaEnabled := user.mfaEnabled
        mfaCode := dto.mfaCode
        trustedDevice := (deviceToken service dto).any fun token =>
          isTrustedDevice service db user.id token call.now }
    rememberDevice service call user.id dto status
    return some status

structure SignIn where
  user : UserEntity
  tenantId : Option String
  role : String
  audience : AuthAudience
  permissions : List String

def assertPassword (user : Option UserEntity) (password : String) :
    Except Exception UserEntity :=
  match user with
  | none => fail (.unauthorized "Invalid email or password")
  | some user => do
    failIf (user.status ≠ .active) (.unauthorized "Invalid email or password")
    failIf (service.runtime.comparePassword password user.passwordHash = false)
      (.unauthorized "Invalid email or password")
    return user

def platformSignIn :
    Except Exception SignIn :=
  match service.config.systemOwnerEmail.filter (JsText.trim · ≠ "") with
  | none => fail (.unauthorized "System owner is not configured")
  | some owner => do
    failIf (service.runtime.lower (JsText.trim dto.email) ≠ service.runtime.lower (JsText.trim owner))
      (.unauthorized "Invalid email or password")
    let user ← assertPassword service (← findPlatformOwnerByEmail service call db dto.email) dto.password
    return {
      user
      tenantId := none
      role := superadminRoleOwner
      audience := .superadmin
      permissions := resolveEmailVerificationPermissions user ["*:*"] }

def tenantSignIn (audience : AuthAudience) :
    Except Exception SignIn := do
  let user ← assertPassword service (← findByEmail service call db dto.email) dto.password
  let membership ← resolveLoginMembership service call db user.id
  return {
    user
    tenantId := some membership.tenantId
    role := membership.roleCode
    audience
    permissions := resolveEmailVerificationPermissions user
      (service.authorization.getPermissionsByRoleId membership.tenantId membership.roleId) }

def signIn : Except Exception SignIn :=
  match dto.audience.getD .school with
  | .superadmin => platformSignIn service call db dto
  | audience => tenantSignIn service call db dto audience

def tokenSubject (signedIn : SignIn) (sessionId : String) : TokenSubject where
  userId := signedIn.user.id
  tenantId := signedIn.tenantId
  role := signedIn.role
  audience := signedIn.audience
  sessionId

def createdSession (signedIn : SignIn) (tokenPair : IssuedTokenPair) : AuthSessionRecord where
  userId := signedIn.user.id
  tenantId := signedIn.tenantId
  role := signedIn.role
  audience := signedIn.audience
  permissions := signedIn.permissions
  sessionId := tokenPair.sessionId
  isAuthenticated := true
  emailVerifiedAt := signedIn.user.emailVerifiedAt
  refreshTokenId := tokenPair.refreshTokenId
  createdAt := call.now
  updatedAt := call.now
  refreshExpiresAt := tokenPair.refreshExpiresAt
  ipAddress := call.metadata.ipAddress
  userAgent := call.metadata.userAgent

def buildAuthResponse (signedIn : SignIn) (tokenPair : IssuedTokenPair) : AuthResponseDto where
  tokens := tokenPair
  user :=
    { userId := signedIn.user.id
      tenantId := signedIn.tenantId
      role := signedIn.role
      audience := signedIn.audience
      email := signedIn.user.email
      displayName := signedIn.user.displayName
      emailVerified := isEmailVerified signedIn.user
      emailVerifiedAt := signedIn.user.emailVerifiedAt
      permissions := signedIn.permissions
      sessionId := tokenPair.sessionId }

def onDb {A : Type} (action : Transaction AuthDb Exception A) : Transaction AuthWorld Exception A :=
  zoom (·.db) (fun world db => { world with db }) action

def challengedLogin :
    Transaction AuthWorld Exception (Option MfaStatus × AuthResponseDto) := do
  let world ← current
  let signedIn ← signIn service call world.db dto
  let status ← onDb (enforceLoginSecurity service call signedIn.user signedIn.role signedIn.permissions dto)
  let tokenPair := issueTokenPair service.config.tokens call.draw (tokenSubject signedIn call.sessionId)
  write fun world => { world with store := world.store.persistSession (createdSession call signedIn tokenPair) }
  return (status, buildAuthResponse signedIn tokenPair)

def login :
    Transaction AuthWorld Exception AuthResponseDto := do
  let (_, response) ← challengedLogin service call dto
  return response

structure RotateInput where
  sessionId : String
  currentRefreshTokenId : String
  nextRefreshTokenId : String
  role : String
  permissions : List String
  emailVerifiedAt : Option Int
  refreshExpiresAt : Int

def rotatedSession (session : AuthSessionRecord) (input : RotateInput) (now : Int) : AuthSessionRecord :=
  { session with
    role := input.role
    permissions := input.permissions
    emailVerifiedAt := input.emailVerifiedAt
    refreshTokenId := input.nextRefreshTokenId
    refreshExpiresAt := input.refreshExpiresAt
    updatedAt := now }

def rotateRefreshToken (input : RotateInput) (now : Int) :
    SessionStore × Except Exception AuthSessionRecord :=
  match store.getSession input.sessionId with
  | none => (store, .error (.unauthorized "Session has expired"))
  | some session =>
    if session.refreshTokenId ≠ input.currentRefreshTokenId then
      (store.invalidateSession input.sessionId, .error (.unauthorized "Refresh token reuse detected"))
    else
      let next := rotatedSession session input now
      ({ store with sessions := store.sessions.put next }, .ok next)

def refreshIdentity :
    Except Exception SignIn :=
  match payload.audience with
  | .superadmin =>
    match findPlatformOwnerById call db payload.userId with
    | .error error => .error error
    | .ok user =>
      match user.filter (·.status = .active) with
      | none => fail (.unauthorized "User account is no longer active")
      | some user => return {
          user
          tenantId := none
          role := superadminRoleOwner
          audience := .superadmin
          permissions := resolveEmailVerificationPermissions user ["*:*"] }
  | audience =>
    match (findById service call db payload.userId).filter (·.status = .active) with
    | none => fail (.unauthorized "User account is no longer active")
    | some user =>
      match payload.tenantId.bind (findActiveMembership service db user.id) with
      | none => fail (.unauthorized "User no longer has access to this tenant")
      | some membership => return {
          user
          tenantId := some membership.tenantId
          role := membership.roleCode
          audience
          permissions := resolveEmailVerificationPermissions user
            (service.authorization.getPermissionsByRoleId membership.tenantId membership.roleId) }

def assertRefreshTenant : Except Exception Unit :=
  match payload.audience with
  | .superadmin => failIf (payload.tenantId ≠ none) (.unauthorized "Refresh token does not belong to a platform session")
  | _ => do
    failIf (call.tenantId.all (· = "")) (.unauthorized "Tenant context is required")
    failIf (payload.tenantId ≠ call.tenantId) (.unauthorized "Refresh token does not belong to this tenant")

def matchesRefresh (session : AuthSessionRecord) (payload : JwtTokenPayload) : Prop :=
  session.userId = payload.userId ∧ session.tenantId = payload.tenantId ∧ session.refreshTokenId = payload.tokenId ∧
    (payload.audience = .superadmin → session.audience = .superadmin)
deriving Decidable

def rotateInput (identity : SignIn) (tokenPair : IssuedTokenPair) : RotateInput where
  sessionId := payload.sessionId
  currentRefreshTokenId := payload.tokenId
  nextRefreshTokenId := tokenPair.refreshTokenId
  role := identity.role
  permissions := identity.permissions
  emailVerifiedAt := identity.user.emailVerifiedAt
  refreshExpiresAt := tokenPair.refreshExpiresAt

def refreshSession (world : AuthWorld) (payload : JwtTokenPayload) :
    SessionStore × Except Exception AuthResponseDto :=
  match world.store.getSession payload.sessionId with
  | none => (world.store, .error (.unauthorized "Session is no longer valid"))
  | some session =>
    if matchesRefresh session payload then
      match refreshIdentity service call world.db payload with
      | .error (.unauthorized message) =>
        (world.store.invalidateSession payload.sessionId, .error (.unauthorized message))
      | .error error => (world.store, .error error)
      | .ok identity =>
        let tokenPair := issueTokenPair service.config.tokens call.draw (tokenSubject identity payload.sessionId)
        match rotateRefreshToken world.store (rotateInput payload identity tokenPair) call.now with
        | (store, .error error) => (store, .error error)
        | (store, .ok _) => (store, .ok (buildAuthResponse identity tokenPair))
    else
      (world.store.invalidateSession payload.sessionId, .error (.unauthorized "Refresh token reuse detected"))

def refresh (world : AuthWorld) (token : JwtToken) :
    SessionStore × Except Exception AuthResponseDto :=
  match verifyRefreshToken token call.now with
  | .error error => (world.store, .error error)
  | .ok payload =>
    match assertRefreshTenant call payload with
    | .error error => (world.store, .error error)
    | .ok _ => refreshSession service call world payload

def inSync (session : AuthSessionRecord) (payload : JwtTokenPayload) : Prop :=
  session.userId = payload.userId ∧ session.tenantId = payload.tenantId ∧ session.role = payload.role ∧
    session.audience = payload.audience
deriving Decidable

def assertTokenScope (expectedTenantId : Option String) (expectedAudience : AuthAudience) :
    Except Exception Unit := do
  failIf (payload.audience ≠ expectedAudience) (.unauthorized "Access token does not belong to this audience")
  failIf (payload.tenantId ≠ expectedTenantId) (.unauthorized "Access token does not belong to this tenant")

def authenticateSession (payload : JwtTokenPayload) :
    SessionStore × Except Exception AuthenticatedPrincipal :=
  match store.getSession payload.sessionId with
  | none => (store, .error (.unauthorized "Session is no longer valid"))
  | some session =>
    if inSync session payload then
      -- `assertEmailVerifiedForSensitiveSession`
      if hasSensitivePermission session.permissions = true ∧ session.emailVerifiedAt = none then
        (store.invalidateSession session.sessionId,
          .error (.unauthorized "Verify your email before accessing sensitive workspace actions"))
      else (store, .ok (toPrincipal session))
    else (store, .error (.unauthorized "Access token is out of sync with the active session"))

def authenticateAccessToken (token : JwtToken) (now : Int) (expectedTenantId : Option String)
    (expectedAudience : AuthAudience) : SessionStore × Except Exception AuthenticatedPrincipal :=
  match verifyAccessToken token now with
  | .error error => (store, .error error)
  | .ok payload =>
    match assertTokenScope payload expectedTenantId expectedAudience with
    | .error error => (store, .error error)
    | .ok _ => authenticateSession store payload

variable {service call db user} {dto}

theorem resolved_sensitive
    (sensitive : hasSensitivePermission (resolveEmailVerificationPermissions user permissions) = true) :
    isEmailVerified user = true := by
  unfold resolveEmailVerificationPermissions at sensitive
  split at sensitive
  · next kept =>
    rcases kept with plain | verified
    · simp [plain] at sensitive
    · exact verified
  · have plain : hasSensitivePermission ["auth:read"] = false := by decide
    rw [plain] at sensitive
    cases sensitive

theorem enforceLoginChallenge_ok {input : EnforceMfaLoginInput}
    (succeeded : (enforceLoginChallenge service now input).run db = .ok (status, after)) :
    after.users = db.users ∧ after.memberships = db.memberships ∧
      (requiresChallenge input.role input.permissions = false ∧ status = .notRequired ∨
        requiresChallenge input.role input.permissions = true ∧ (status = .trustedDevice ∨ status = .verified)) := by
  unfold enforceLoginChallenge at succeeded
  simp only [run_ite_ok, run_pure_ok, Bool.not_eq_false] at succeeded
  rcases succeeded with ⟨free, rfl, rfl⟩ | ⟨required, ⟨_, rfl, rfl⟩ | ⟨_, challenged⟩⟩
  · exact ⟨rfl, rfl, .inl ⟨free, rfl⟩⟩
  · exact ⟨rfl, rfl, .inr ⟨required, .inl rfl⟩⟩
  · split at challenged
    · simp only [run_bind_ok, run_current_ok, run_failIf_ok, run_write_ok, run_pure_ok] at challenged
      obtain ⟨_, _, ⟨rfl, rfl⟩, _, _, ⟨_, rfl⟩, _, _, rfl, rfl, rfl⟩ := challenged
      exact ⟨rfl, rfl, .inr ⟨required, .inr rfl⟩⟩
    · simp at challenged

theorem rememberDevice_ok {userId : String} {result : Unit}
    (succeeded : (rememberDevice service call userId dto status).run db = .ok (result, after)) :
    after.users = db.users ∧ after.memberships = db.memberships := by
  unfold rememberDevice at succeeded
  split at succeeded
  · rw [run_write_ok] at succeeded
    subst succeeded
    exact ⟨rfl, rfl⟩
  · obtain ⟨_, rfl⟩ := run_pure_ok.mp succeeded
    exact ⟨rfl, rfl⟩

def Challenged (status : Option MfaStatus) : Prop := status = some .verified ∨ status = some .trustedDevice
deriving Decidable

theorem enforceLoginSecurity_ok {status : Option MfaStatus}
    (succeeded : (enforceLoginSecurity service call user role permissions dto).run db = .ok (status, after)) :
    after.users = db.users ∧ after.memberships = db.memberships ∧
      (Challenged status ↔ service.config.mfaService = true ∧ requiresChallenge role permissions = true) := by
  unfold enforceLoginSecurity at succeeded
  simp only [run_ite_ok, run_pure_ok, Bool.not_eq_false] at succeeded
  rcases succeeded with ⟨absent, rfl, rfl⟩ | ⟨present, enforced⟩
  · simp [Challenged, absent]
  · simp only [run_bind_ok, run_current_ok, run_pure_ok] at enforced
    obtain ⟨_, _, ⟨rfl, rfl⟩, found, middle, challenged, _, _, remembered, rfl, rfl⟩ := enforced
    obtain ⟨users, memberships, outcome⟩ := enforceLoginChallenge_ok challenged
    obtain ⟨usersKept, membershipsKept⟩ := rememberDevice_ok remembered
    refine ⟨usersKept.trans users, membershipsKept.trans memberships, ?_⟩
    rcases outcome with ⟨free, rfl⟩ | ⟨required, rfl | rfl⟩
    · simp [Challenged, free]
    · simp [Challenged, present, required]
    · simp [Challenged, present, required]

theorem enforceLoginSecurity_free (db : AuthDb)
    (free : ¬ (service.config.mfaService = true ∧ requiresChallenge role permissions = true)) :
    ∃ status, (enforceLoginSecurity service call user role permissions dto).run db = .ok (status, db) := by
  unfold enforceLoginSecurity
  by_cases present : service.config.mfaService = true
  · have unasked : requiresChallenge role permissions = false := by simpa [present] using free
    refine ⟨some .notRequired, ?_⟩
    rw [if_neg (by simp [present])]
    simp only [run_bind_ok, run_current_ok, run_pure_ok]
    refine ⟨db, db, ⟨rfl, rfl⟩, .notRequired, db, ?_, (), db, rfl, rfl, rfl⟩
    unfold enforceLoginChallenge
    rw [if_pos unasked]
    rfl
  · refine ⟨none, ?_⟩
    rw [if_pos (by simpa using present)]
    rfl

theorem challengedLogin_ok {after : AuthWorld}
    {status : Option MfaStatus} {response : AuthResponseDto} :
    (challengedLogin service call dto).run world = .ok ((status, response), after) ↔
      ∃ signedIn db, signIn service call world.db dto = .ok signedIn ∧
        (enforceLoginSecurity service call signedIn.user signedIn.role signedIn.permissions dto).run world.db =
          .ok (status, db) ∧
        after = ⟨db, world.store.persistSession (createdSession call signedIn
          (issueTokenPair service.config.tokens call.draw (tokenSubject signedIn call.sessionId)))⟩ ∧
        response = buildAuthResponse signedIn
          (issueTokenPair service.config.tokens call.draw (tokenSubject signedIn call.sessionId)) := by
  unfold challengedLogin onDb
  simp only [run_bind_ok, run_current_ok, run_lift_ok, run_zoom_ok, run_write_ok, run_pure_ok, Prod.mk.injEq]
  constructor
  · rintro ⟨_, _, ⟨rfl, rfl⟩, signedIn, _, ⟨signed, rfl⟩, _, _, ⟨db, enforced, rfl⟩, _, _, rfl, ⟨rfl, rfl⟩, rfl⟩
    exact ⟨signedIn, db, signed, enforced, rfl, rfl⟩
  · rintro ⟨signedIn, db, signed, enforced, rfl, rfl⟩
    exact ⟨world, world, ⟨rfl, rfl⟩, signedIn, world, ⟨signed, rfl⟩, status, { world with db },
      ⟨db, enforced, rfl⟩, (), _, rfl, ⟨rfl, rfl⟩, rfl⟩

/-- What a refresh needs, and who it is for: a valid token of the tenant, which is the latest of its session, and
a user and a membership that are active. -/
structure RefreshOf (service : AuthService) (call : AuthCall) (world : AuthWorld) (token : JwtToken)
    (session : AuthSessionRecord) (identity : SignIn) : Prop where
  verified : verifyRefreshToken token call.now = .ok token.payload
  tenant : assertRefreshTenant call token.payload = .ok ()
  stored : world.store.getSession token.payload.sessionId = some session
  matched : matchesRefresh session token.payload
  identified : refreshIdentity service call world.db token.payload = .ok identity

def refreshedSession (service : AuthService) (call : AuthCall) (token : JwtToken) (session : AuthSessionRecord)
    (identity : SignIn) : AuthSessionRecord :=
  rotatedSession session
    (rotateInput token.payload identity
      (issueTokenPair service.config.tokens call.draw (tokenSubject identity token.payload.sessionId))) call.now

theorem refresh_of
    {session : AuthSessionRecord} {identity : SignIn}
    (refreshing : RefreshOf service call world token session identity) :
    refresh service call world token =
      ({ world.store with
          sessions := world.store.sessions.put (refreshedSession service call token session identity) },
        .ok (buildAuthResponse identity
          (issueTokenPair service.config.tokens call.draw (tokenSubject identity token.payload.sessionId)))) := by
  unfold refresh refreshSession
  rw [refreshing.verified]
  simp only [refreshing.tenant, refreshing.stored, if_pos refreshing.matched, refreshing.identified]
  unfold rotateRefreshToken
  have latest : session.refreshTokenId = token.payload.tokenId := refreshing.matched.2.2.1
  simp only [rotateInput, refreshing.stored, latest, ne_eq, not_true_eq_false, if_false]
  rfl

theorem verifyRefreshToken_payload {payload : JwtTokenPayload}
    (verified : verifyRefreshToken token now = .ok payload) : payload = token.payload :=
  (verifyToken_ok.mp verified).2.2.2.symm

theorem refresh_otherwise
    (none : ¬ ∃ session identity, RefreshOf service call world token session identity) :
    (∃ error, (refresh service call world token).2 = .error error) ∧
      (refresh service call world token).1.Within world.store := by
  unfold refresh refreshSession
  split
  · exact ⟨⟨_, rfl⟩, within_refl _⟩
  · next payload verified =>
    obtain rfl := verifyRefreshToken_payload verified
    split
    · exact ⟨⟨_, rfl⟩, within_refl _⟩
    · next tenant =>
      split
      · exact ⟨⟨_, rfl⟩, within_refl _⟩
      · next session stored =>
        split
        · next matched =>
          split
          · exact ⟨⟨_, rfl⟩, within_invalidate _ _⟩
          · exact ⟨⟨_, rfl⟩, within_refl _⟩
          · next identity identified =>
            exact absurd ⟨session, identity, verified, tenant, stored, matched, identified⟩ none
        · exact ⟨⟨_, rfl⟩, within_invalidate _ _⟩

/-- An access token is accepted in a state of the sessions: it is valid, its session is there and in sync with
it, and a sensitive session has a verified email. -/
structure Accepted (token : JwtToken) (now : Int) (session : AuthSessionRecord) : Prop where
  verified : verifyAccessToken token now = .ok token.payload
  stored : store.getSession token.payload.sessionId = some session
  synced : inSync session token.payload
  emailVerified : hasSensitivePermission session.permissions = true → session.emailVerifiedAt ≠ none

theorem authenticate_ok_iff {store : SessionStore} {expectedTenantId : Option String}
    {expectedAudience : AuthAudience} {principal : AuthenticatedPrincipal} :
    (authenticateAccessToken store token now expectedTenantId expectedAudience).2 = .ok principal ↔
      token.payload.audience = expectedAudience ∧ token.payload.tenantId = expectedTenantId ∧
        ∃ session, Accepted store token now session ∧ principal = toPrincipal session := by
  have scope : assertTokenScope token.payload expectedTenantId expectedAudience = .ok () ↔
      token.payload.audience = expectedAudience ∧ token.payload.tenantId = expectedTenantId := by
    unfold assertTokenScope
    simp only [Outcome.bind_ok, Outcome.failIf_ok, not_not, exists_const]
  constructor
  · intro succeeded
    unfold authenticateAccessToken at succeeded
    split at succeeded
    · cases succeeded
    · next payload verified =>
      obtain rfl := (verifyToken_ok.mp verified).2.2.2
      split at succeeded
      · cases succeeded
      · next scoped' =>
        obtain ⟨audience, tenant⟩ := scope.mp scoped'
        unfold authenticateSession at succeeded
        split at succeeded
        · cases succeeded
        · next session stored =>
          split at succeeded
          · next synced =>
            split at succeeded
            · cases succeeded
            · next allowed =>
              cases succeeded
              exact ⟨audience, tenant, session, ⟨verified, stored, synced, fun sensitive missing =>
                allowed ⟨sensitive, missing⟩⟩, rfl⟩
          · cases succeeded
  · rintro ⟨audience, tenant, session, accepted, rfl⟩
    have allowed : ¬ (hasSensitivePermission session.permissions = true ∧ session.emailVerifiedAt = none) :=
      fun both => accepted.emailVerified both.1 both.2
    unfold authenticateAccessToken
    simp only [accepted.verified, scope.mpr ⟨audience, tenant⟩]
    unfold authenticateSession
    simp only [accepted.stored, if_pos accepted.synced, if_neg allowed]

theorem authenticate_within (store : SessionStore) (token : JwtToken) (now : Int) (expectedTenantId : Option String)
    (expectedAudience : AuthAudience) :
    (authenticateAccessToken store token now expectedTenantId expectedAudience).1.Within store := by
  unfold authenticateAccessToken authenticateSession
  split
  · exact within_refl _
  · split
    · exact within_refl _
    · split
      · exact within_refl _
      · split
        · split
          · exact within_invalidate _ _
          · exact within_refl _
        · exact within_refl _

end ShuleHub.Auth
