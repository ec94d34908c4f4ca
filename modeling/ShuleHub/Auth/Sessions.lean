import ShuleHub.Exceptions
import ShuleHub.Lib.KeyedTable
import ShuleHub.Lib.Transaction

/-! Tokens and sessions. A token carries the identity it was issued for; the session it names is a record in
Redis, and so is the set of the sessions of each user. -/

namespace ShuleHub.Auth

inductive AuthAudience where
  | superadmin
  | school
  | portal
deriving DecidableEq

inductive TokenType where
  | access
  | refresh
deriving DecidableEq

structure JwtTokenPayload where
  sub : String
  userId : String
  tenantId : Option String
  role : String
  audience : AuthAudience
  sessionId : String
  tokenId : String
  type : TokenType

/-- A signed token: nobody but the signer makes one, and verifying it gives back its payload. -/
structure JwtToken where
  payload : JwtTokenPayload
  secret : TokenType
  expiresAt : Int

variable (token : JwtToken) (now : Int)

structure IssuedTokenPair where
  accessToken : JwtToken
  refreshToken : JwtToken
  tokenType : String
  accessExpiresIn : Nat
  refreshExpiresIn : Nat
  accessExpiresAt : Int
  refreshExpiresAt : Int
  accessTokenId : String
  refreshTokenId : String
  sessionId : String

structure AuthenticatedPrincipal where
  userId : String
  tenantId : Option String
  role : String
  audience : AuthAudience
  permissions : List String
  sessionId : String
  isAuthenticated : Bool

structure AuthSessionRecord extends AuthenticatedPrincipal where
  emailVerifiedAt : Option Int
  refreshTokenId : String
  createdAt : Int
  updatedAt : Int
  refreshExpiresAt : Int
  ipAddress : Option String
  userAgent : Option String

structure AuthRequestMetadata where
  ipAddress : Option String
  userAgent : Option String

structure AuthenticatedUserDto where
  userId : String
  tenantId : Option String
  role : String
  audience : AuthAudience
  email : String
  displayName : String
  emailVerified : Bool
  emailVerifiedAt : Option Int
  permissions : List String
  sessionId : String

structure AuthResponseDto where
  tokens : IssuedTokenPair
  user : AuthenticatedUserDto

structure TokenSubject where
  userId : String
  tenantId : Option String
  role : String
  audience : AuthAudience
  sessionId : String

structure TokenConfig where
  accessTokenTtlSeconds : Nat
  refreshTokenTtlSeconds : Nat

structure TokenDraw where
  now : Int
  accessTokenId : String
  refreshTokenId : String

def asExpiryTimestamp (ttlSeconds : Nat) : Int := now + ttlSeconds * 1000

def accessPayload (subject : TokenSubject) (tokenId : String) : JwtTokenPayload where
  sub := subject.userId
  userId := subject.userId
  tenantId := subject.tenantId
  role := subject.role
  audience := subject.audience
  sessionId := subject.sessionId
  tokenId
  type := .access

def issueTokenPair (config : TokenConfig) (draw : TokenDraw) (subject : TokenSubject) : IssuedTokenPair where
  accessToken :=
    { payload := accessPayload subject draw.accessTokenId
      secret := .access
      expiresAt := asExpiryTimestamp draw.now config.accessTokenTtlSeconds }
  refreshToken :=
    { payload := { accessPayload subject draw.refreshTokenId with type := .refresh }
      secret := .refresh
      expiresAt := asExpiryTimestamp draw.now config.refreshTokenTtlSeconds }
  tokenType := "Bearer"
  accessExpiresIn := config.accessTokenTtlSeconds
  refreshExpiresIn := config.refreshTokenTtlSeconds
  accessExpiresAt := asExpiryTimestamp draw.now config.accessTokenTtlSeconds
  refreshExpiresAt := asExpiryTimestamp draw.now config.refreshTokenTtlSeconds
  accessTokenId := draw.accessTokenId
  refreshTokenId := draw.refreshTokenId
  sessionId := subject.sessionId

def verifyToken (expected : TokenType) (now : Int) : Except Exception JwtTokenPayload := do
  failIf (token.secret ≠ expected ∨ token.expiresAt ≤ now) (.unauthorized "Token validation failed")
  failIf (token.payload.type ≠ expected) (.unauthorized "Invalid token type")
  return token.payload

def verifyAccessToken : Except Exception JwtTokenPayload :=
  verifyToken token .access now

def verifyRefreshToken : Except Exception JwtTokenPayload :=
  verifyToken token .refresh now

theorem verifyToken_ok {token : JwtToken} {expected : TokenType} {now : Int} {payload : JwtTokenPayload} :
    verifyToken token expected now = .ok payload ↔
      token.secret = expected ∧ now < token.expiresAt ∧ token.payload.type = expected ∧ token.payload = payload := by
  unfold verifyToken
  simp only [Outcome.bind_ok, Outcome.failIf_ok, Outcome.pure_ok, exists_const, not_or, not_not, not_le, and_assoc]

/-- `sessions` holds the records under their ids, `userSessions` the pairs of a user and one of the ids in
the set of that user. -/
structure SessionStore where
  sessions : KeyedTable AuthSessionRecord String (·.sessionId)
  userSessions : List (String × String)

def SessionStore.empty : SessionStore := ⟨.empty, []⟩

namespace SessionStore

variable (store : SessionStore) (sessionId : String)

def getSession : Option AuthSessionRecord := store.sessions.find sessionId

def persistSession (session : AuthSessionRecord) : SessionStore where
  sessions := store.sessions.put session
  userSessions := store.userSessions.insert (session.userId, session.sessionId)

def invalidateSession : SessionStore where
  sessions := store.sessions.delete sessionId
  userSessions :=
    match store.getSession sessionId with
    | some session => store.userSessions.filter (· ≠ (session.userId, sessionId))
    | none => store.userSessions

def expire : SessionStore :=
  { store with sessions := store.sessions.delete sessionId }

theorem getSession_sessionId {store : SessionStore} {sessionId : String} {session : AuthSessionRecord}
    (found : store.getSession sessionId = some session) : session.sessionId = sessionId :=
  ((KeyedTable.find_eq_some _).mp found).2

theorem getSession_persist (store : SessionStore) (session : AuthSessionRecord) (sessionId : String) :
    (store.persistSession session).getSession sessionId =
      if sessionId = session.sessionId then some session else store.getSession sessionId :=
  store.sessions.find_put

theorem getSession_invalidate (store : SessionStore) (gone sessionId : String) :
    (store.invalidateSession gone).getSession sessionId =
      if sessionId = gone then none else store.getSession sessionId :=
  store.sessions.find_delete

theorem getSession_expire (store : SessionStore) (gone sessionId : String) :
    (store.expire gone).getSession sessionId = if sessionId = gone then none else store.getSession sessionId :=
  store.sessions.find_delete

def Within (after store : SessionStore) : Prop :=
  ∀ sessionId session, after.getSession sessionId = some session → store.getSession sessionId = some session

theorem within_refl (store : SessionStore) : store.Within store := fun _ _ found => found

theorem within_invalidate (store : SessionStore) (gone : String) : (store.invalidateSession gone).Within store := by
  intro sessionId session found
  rw [getSession_invalidate] at found
  split at found
  · cases found
  · exact found

theorem within_expire (store : SessionStore) (gone : String) : (store.expire gone).Within store := by
  intro sessionId session found
  rw [getSession_expire] at found
  split at found
  · cases found
  · exact found

end SessionStore

def toPrincipal (session : AuthSessionRecord) : AuthenticatedPrincipal := session.toAuthenticatedPrincipal

end ShuleHub.Auth
