import ShuleHub.Auth.ActionTokens
import ShuleHub.Auth.LoginChallenges

/-! What becomes of the access tokens of a user whose password is reset, whose membership is suspended or whose
role is changed. The three write the database alone, and a session in Redis outlives them. -/

namespace ShuleHub.Auth

open Transaction Runs SessionStore

/-- The state, and what there is to say about its past: the pairs of tokens that were handed out, the access
tokens that were to be revoked, and the roles that users had in a tenant and have no more. -/
structure RevocationWorld where
  tables : AuthTables
  store : SessionStore
  now : Int
  issued : List IssuedTokenPair
  revoked : List JwtToken
  formerRoles : List (String × String × String)

inductive RevocationEvent where
  | login (call : AuthCall) (dto : LoginDto)
  | refresh (call : AuthCall) (token : JwtToken)
  | authenticate (token : JwtToken) (expectedTenantId : Option String) (expectedAudience : AuthAudience)
  | resetPassword (call : AuthCall) (dto : ResetPasswordDto) (passwordHash : String)
  | updateStatus (call : AuthCall) (membershipId : String) (status : MembershipStatus)
  | updateRole (call : AuthCall) (membershipId roleCode : String)
  | expire (sessionId : String)
  | wait (milliseconds : Nat)

namespace Revocations

variable {session : AuthSessionRecord} {pair : IssuedTokenPair} {store : SessionStore} {call : AuthCall}
  {tables : AuthTables} {event : RevocationEvent}

def opened (tables : AuthTables) (now : Int) : RevocationWorld := ⟨tables, .empty, now, [], [], []⟩

def calledAt (call : AuthCall) (now : Int) : AuthCall := { call with now, draw := { call.draw with now } }

def authWorld (state : RevocationWorld) : AuthWorld := ⟨state.tables.auth, state.store⟩

def resetUserId (service : AuthService) (call : AuthCall) (tables : AuthTables) (dto : ResetPasswordDto) :
    Option String :=
  (openAction tables .passwordRecovery (hashToken service (JsText.trim dto.token)) call.now).bind (·.userId)

def committed (service : AuthService) (state : RevocationWorld) : RevocationEvent → Option AuthTables
  | .resetPassword call dto passwordHash =>
    match (resetPassword service (calledAt call state.now) dto passwordHash).run state.tables with
    | .ok (_, tables) => some tables
    | .error _ => none
  | .updateStatus call membershipId status =>
    match (updateTenantMembershipStatus service (calledAt call state.now) membershipId status).run state.tables.auth with
    | .ok (_, auth) => some { state.tables with auth }
    | .error _ => none
  | .updateRole call membershipId roleCode =>
    match (updateTenantMembershipRole service (calledAt call state.now) membershipId roleCode).run state.tables.auth with
    | .ok (_, auth) => some { state.tables with auth }
    | .error _ => none
  | _ => none

/-- Whether a call is to end the access of a user: a reset in every tenant, a suspension in its own. -/
def revokes (service : AuthService) (state : RevocationWorld) (event : RevocationEvent) (userId : String)
    (tenantId : Option String) : Bool :=
  match event with
  | .resetPassword call dto _ => resetUserId service (calledAt call state.now) state.tables dto = some userId
  | .updateStatus call membershipId .suspended =>
    memberOf service (calledAt call state.now) state.tables.auth membershipId = some (userId, tenantId)
  | _ => false

def revokedTokens (service : AuthService) (state : RevocationWorld) (event : RevocationEvent) : List JwtToken :=
  (state.issued.map (·.accessToken)).filter fun token =>
    revokes service state event token.payload.userId token.payload.tenantId

/-- The roles of the users before some tables, together with the roles they had earlier. -/
def rolesBefore (service : AuthService) (state : RevocationWorld) : List (String × String × String) :=
  (state.tables.auth.memberships.rows.filterMap fun row =>
    (currentRole service state.tables.auth row.userId row.tenantId).map fun role => (row.userId, row.tenantId, role)) ++
      state.formerRoles

def formerRoles (service : AuthService) (state : RevocationWorld) (tables : AuthTables) :
    List (String × String × String) :=
  (rolesBefore service state).filter fun role => currentRole service tables.auth role.1 role.2.1 ≠ some role.2.2

@[grind =] def step (service : AuthService) (state : RevocationWorld) : RevocationEvent → RevocationWorld
  | .login call dto =>
    match (login service (calledAt call state.now) dto).run (authWorld state) with
    | .ok (response, world) =>
      { state with
        tables := { state.tables with auth := world.db }
        store := world.store
        issued := response.tokens :: state.issued }
    | .error _ => state
  | .refresh call token =>
    match refresh service (calledAt call state.now) (authWorld state) token with
    | (store, .ok response) => { state with store, issued := response.tokens :: state.issued }
    | (store, .error _) => { state with store }
  | .authenticate token expectedTenantId expectedAudience =>
    { state with store := (authenticateAccessToken state.store token state.now expectedTenantId expectedAudience).1 }
  | .expire sessionId => { state with store := state.store.expire sessionId }
  | .wait milliseconds => { state with now := state.now + milliseconds }
  | event =>
    match committed service state event with
    | some tables =>
      { state with
        tables
        revoked := revokedTokens service state event ++ state.revoked
        formerRoles := formerRoles service state tables }
    | none => state

/-- No access token that was to be revoked is accepted, and none gives a role that its user has no more. -/
structure Rejects (service : AuthService) (state : RevocationWorld) : Prop where
  revoked : ∀ token ∈ state.revoked, ∀ expectedTenantId expectedAudience, ∃ error,
    (authenticateAccessToken state.store token state.now expectedTenantId expectedAudience).2 = .error error
  roles : ∀ pair ∈ state.issued, ∀ expectedTenantId expectedAudience principal,
    (authenticateAccessToken state.store pair.accessToken state.now expectedTenantId expectedAudience).2 =
      .ok principal → ∀ tenantId, principal.tenantId = some tenantId →
        (principal.userId, tenantId, principal.role) ∉ state.formerRoles ∧
          GrantedBy service tenantId principal.role principal.permissions

def Outdates (service : AuthService) (state : RevocationWorld) (tables : AuthTables) (session : AuthSessionRecord) :
    Prop :=
  ∃ tenantId ∈ session.tenantId,
    currentRole service state.tables.auth session.userId tenantId = some session.role ∧
      currentRole service tables.auth session.userId tenantId ≠ some session.role
deriving Decidable

/-- The condition on one call: when a reset, a suspension or a change of role commits, no session of those it is
for is left that an unexpired access token names. -/
def NoneLeft (service : AuthService) (state : RevocationWorld) (event : RevocationEvent) : Prop :=
  ∀ tables ∈ committed service state event, ∀ pair ∈ state.issued, state.now < pair.accessToken.expiresAt →
    ∀ session ∈ state.store.getSession pair.accessToken.payload.sessionId,
      revokes service state event session.userId session.tenantId = false ∧ ¬ Outdates service state tables session

/-- The random id of a new session is in no token yet, and the token of a refresh is one that was issued. -/
def Genuine (state : RevocationWorld) : RevocationEvent → Prop
  | .login call _ => ∀ pair ∈ state.issued, pair.accessToken.payload.sessionId ≠ call.sessionId
  | .refresh _ token => ∃ pair ∈ state.issued, pair.refreshToken = token
  | _ => True

structure OwnedBy (payload : JwtTokenPayload) (session : AuthSessionRecord) : Prop where
  user : session.userId = payload.userId
  tenant : session.tenantId = payload.tenantId
  audience : session.audience = payload.audience

/-- The pair whose access token a session is in sync with, and which expires last of those of the session. -/
structure Latest (issued : List IssuedTokenPair) (session : AuthSessionRecord) (pair : IssuedTokenPair) : Prop where
  member : pair ∈ issued
  names : pair.accessToken.payload.sessionId = session.sessionId
  synced : inSync session pair.accessToken.payload
  last : ∀ other ∈ issued, other.accessToken.payload.sessionId = session.sessionId →
    other.accessToken.expiresAt ≤ pair.accessToken.expiresAt

structure Sound (service : AuthService) (issued : List IssuedTokenPair) (session : AuthSessionRecord) : Prop where
  latest : ∃ pair, Latest issued session pair
  owned : ∀ pair ∈ issued, pair.accessToken.payload.sessionId = session.sessionId →
    OwnedBy pair.accessToken.payload session
  verified : hasSensitivePermission session.permissions = true → session.emailVerifiedAt ≠ none
  granted : ∀ tenantId, session.tenantId = some tenantId → GrantedBy service tenantId session.role session.permissions

structure Inv (service : AuthService) (state : RevocationWorld) : Prop where
  issued : ∀ pair ∈ state.issued, ∃ draw subject,
    pair = issueTokenPair service.config.tokens draw subject ∧ draw.now ≤ state.now
  sound : ∀ sessionId session, state.store.getSession sessionId = some session →
    Sound service state.issued session
  revokedIssued : ∀ token ∈ state.revoked, ∃ pair ∈ state.issued, pair.accessToken = token
  revokedGone : ∀ token ∈ state.revoked, state.now < token.expiresAt →
    state.store.getSession token.payload.sessionId = none
  former : ∀ userId tenantId role, (userId, tenantId, role) ∈ state.formerRoles →
    currentRole service state.tables.auth userId tenantId ≠ some role
  formerGone : ∀ pair ∈ state.issued, state.now < pair.accessToken.expiresAt →
    ∀ session, state.store.getSession pair.accessToken.payload.sessionId = some session →
      ∀ tenantId, session.tenantId = some tenantId → (session.userId, tenantId, session.role) ∉ state.formerRoles

variable {service : AuthService} {state : RevocationWorld}

theorem Sound.cons {issued : List IssuedTokenPair}
    (sound : Sound service issued session) (other : pair.accessToken.payload.sessionId ≠ session.sessionId) :
    Sound service (pair :: issued) session := by
  obtain ⟨⟨latest, found⟩, owned, verified, granted⟩ := sound
  refine ⟨⟨latest, List.mem_cons_of_mem _ found.member, found.names, found.synced, ?_⟩, ?_, verified, granted⟩
  · intro earlier member names
    rcases List.mem_cons.mp member with rfl | old
    · exact absurd names other
    · exact found.last earlier old names
  · intro earlier member names
    rcases List.mem_cons.mp member with rfl | old
    · exact absurd names other
    · exact owned earlier old names

theorem Inv.accessToken (inv : Inv service state) (member : pair ∈ state.issued)
    (unexpired : state.now < pair.accessToken.expiresAt) :
    verifyAccessToken pair.accessToken state.now = .ok pair.accessToken.payload := by
  obtain ⟨draw, subject, rfl, _⟩ := inv.issued pair member
  exact verifyToken_ok.mpr ⟨rfl, unexpired, rfl, rfl⟩

theorem Inv.accepted (inv : Inv service state)
    {sessionId : String} (stored : state.store.getSession sessionId = some session)
    (latest : Latest state.issued session pair) (unexpired : state.now < pair.accessToken.expiresAt) :
    Accepted state.store pair.accessToken state.now session where
  verified := inv.accessToken latest.member unexpired
  stored := by rw [latest.names, getSession_sessionId stored]; exact stored
  synced := latest.synced
  emailVerified := (inv.sound sessionId session stored).verified

theorem Inv.latest_accepted (inv : Inv service state) (member : pair ∈ state.issued)
    (unexpired : state.now < pair.accessToken.expiresAt)
    (stored : state.store.getSession pair.accessToken.payload.sessionId = some session) :
    ∃ latest ∈ state.issued, inSync session latest.accessToken.payload ∧
      (authenticateAccessToken state.store latest.accessToken state.now latest.accessToken.payload.tenantId
        latest.accessToken.payload.audience).2 = .ok (toPrincipal session) := by
  obtain ⟨latest, found⟩ := (inv.sound _ session stored).latest
  have later := found.last pair member (getSession_sessionId stored).symm
  have accepted := inv.accepted stored found (lt_of_lt_of_le unexpired later)
  exact ⟨latest, found.member, found.synced, authenticate_ok_iff.mpr ⟨rfl, rfl, session, accepted, rfl⟩⟩

theorem Inv.rejects (inv : Inv service state) : Rejects service state := by
  constructor
  · intro token revoked expectedTenantId expectedAudience
    cases outcome : (authenticateAccessToken state.store token state.now expectedTenantId expectedAudience).2 with
    | error error => exact ⟨error, rfl⟩
    | ok principal =>
      obtain ⟨_, _, session, accepted, _⟩ := authenticate_ok_iff.mp outcome
      have gone := inv.revokedGone token revoked (verifyToken_ok.mp accepted.verified).2.1
      rw [accepted.stored] at gone
      cases gone
  · intro pair issued expectedTenantId expectedAudience principal outcome tenantId inTenant
    obtain ⟨_, _, session, accepted, rfl⟩ := authenticate_ok_iff.mp outcome
    have unexpired := (verifyToken_ok.mp accepted.verified).2.1
    exact ⟨inv.formerGone pair issued unexpired session accepted.stored tenantId inTenant,
      (inv.sound _ session accepted.stored).granted tenantId inTenant⟩

theorem inv_opened (tables : AuthTables) (now : Int) : Inv service (opened tables now) where
  issued _ member := absurd member List.not_mem_nil
  sound _ _ stored := by cases stored
  revokedIssued _ member := absurd member List.not_mem_nil
  revokedGone _ member := absurd member List.not_mem_nil
  former _ _ _ member := absurd member List.not_mem_nil
  formerGone _ member := absurd member List.not_mem_nil

theorem inv_within (inv : Inv service state) (within : store.Within state.store) :
    Inv service { state with store } where
  issued := inv.issued
  sound sessionId session stored := inv.sound sessionId session (within sessionId session stored)
  revokedIssued := inv.revokedIssued
  revokedGone token revoked unexpired := by
    cases stored : store.getSession token.payload.sessionId with
    | none => rfl
    | some session =>
      have before := within _ session stored
      rw [inv.revokedGone token revoked unexpired] at before
      cases before
  former := inv.former
  formerGone pair issued unexpired session stored :=
    inv.formerGone pair issued unexpired session (within _ session stored)

theorem inv_wait (inv : Inv service state) (milliseconds : Nat) :
    Inv service { state with now := state.now + milliseconds } where
  issued pair member := by
    obtain ⟨draw, subject, same, earlier⟩ := inv.issued pair member
    exact ⟨draw, subject, same, by change draw.now ≤ state.now + milliseconds; omega⟩
  sound := inv.sound
  revokedIssued := inv.revokedIssued
  revokedGone token revoked unexpired :=
    inv.revokedGone token revoked (by change state.now + milliseconds < token.expiresAt at unexpired; omega)
  former := inv.former
  formerGone pair issued unexpired :=
    inv.formerGone pair issued (by change state.now + milliseconds < pair.accessToken.expiresAt at unexpired; omega)

theorem inv_issue (inv : Inv service state) {db : AuthDb} (session : AuthSessionRecord)
    {draw : TokenDraw} {subject : TokenSubject} (memberships : db.memberships = state.tables.auth.memberships)
    (latest : draw.now = state.now) (names : subject.sessionId = session.sessionId)
    (synced : inSync session (accessPayload subject draw.accessTokenId))
    (owned : ∀ pair ∈ state.issued, pair.accessToken.payload.sessionId = session.sessionId →
      OwnedBy pair.accessToken.payload session)
    (verified : hasSensitivePermission session.permissions = true → session.emailVerifiedAt ≠ none)
    (inRole : ∀ tenantId, session.tenantId = some tenantId →
      currentRole service state.tables.auth session.userId tenantId = some session.role ∧
        GrantedBy service tenantId session.role session.permissions)
    (put : ∀ sessionId, store.getSession sessionId =
      if sessionId = session.sessionId then some session else state.store.getSession sessionId)
    (gone : ∀ token ∈ state.revoked, state.now < token.expiresAt → token.payload.sessionId ≠ session.sessionId) :
    Inv service
      { state with
        tables := { state.tables with auth := db }
        store
        issued := issueTokenPair service.config.tokens draw subject :: state.issued } where
  issued pair member := by
    rcases List.mem_cons.mp member with rfl | old
    · exact ⟨draw, subject, rfl, latest.le⟩
    · exact inv.issued pair old
  sound sessionId found stored := by
    change store.getSession sessionId = some found at stored
    rw [put] at stored
    split at stored
    · obtain rfl := Option.some.inj stored
      refine ⟨⟨_, List.mem_cons_self, names, synced, ?_⟩, ?_, verified, fun tenantId inTenant =>
        (inRole tenantId inTenant).2⟩
      · intro other member _
        rcases List.mem_cons.mp member with rfl | old
        · exact le_refl _
        · -- an earlier pair was issued with the same time to live
          obtain ⟨before, _, rfl, earlier⟩ := inv.issued other old
          change asExpiryTimestamp before.now _ ≤ asExpiryTimestamp draw.now _
          unfold asExpiryTimestamp
          omega
      · intro other member same
        rcases List.mem_cons.mp member with rfl | old
        · exact ⟨synced.1, synced.2.1, synced.2.2.2⟩
        · exact owned other old same
    · next differs =>
      apply (inv.sound sessionId found stored).cons
      intro same
      exact differs ((getSession_sessionId stored).symm.trans (same.symm.trans names))
  revokedIssued token revoked := by
    obtain ⟨pair, member, own⟩ := inv.revokedIssued token revoked
    exact ⟨pair, List.mem_cons_of_mem _ member, own⟩
  revokedGone token revoked unexpired := by
    change store.getSession _ = none
    rw [put, if_neg (gone token revoked unexpired)]
    exact inv.revokedGone token revoked unexpired
  former userId tenantId role member := by
    change currentRole service db userId tenantId ≠ some role
    unfold currentRole findMembershipByUserAndTenant
    rw [memberships]
    exact inv.former userId tenantId role member
  formerGone pair member unexpired found stored tenantId inTenant := by
    change store.getSession pair.accessToken.payload.sessionId = some found at stored
    rw [put] at stored
    split at stored
    · obtain rfl := Option.some.inj stored
      intro former
      exact inv.former _ _ _ former (inRole tenantId inTenant).1
    · next differs =>
      rcases List.mem_cons.mp member with rfl | old
      · exact absurd names differs
      · exact inv.formerGone pair old unexpired found stored tenantId inTenant

theorem inv_login (inv : Inv service state) {dto : LoginDto}
    (genuine : Genuine state (.login call dto)) : Inv service (step service state (.login call dto)) := by
  simp only [step]
  split
  · next response world outcome =>
    simp only [login, run_bind_ok, run_pure_ok] at outcome
    obtain ⟨⟨status, issuing⟩, _, challenged, rfl, rfl⟩ := outcome
    obtain ⟨signedIn, db, signed, enforced, rfl, rfl⟩ := challengedLogin_ok.mp challenged
    have identified := signIn_identified signed
    refine inv_issue inv (createdSession _ signedIn _) (enforceLoginSecurity_ok enforced).2.1 rfl rfl
      ⟨rfl, rfl, rfl, rfl⟩ ?_ ?_ (signIn_inRole signed) (state.store.getSession_persist _) ?_
    · intro pair member names
      exact absurd names (genuine pair member)
    · intro sensitive
      exact Option.isSome_iff_ne_none.mp (identified.verified sensitive)
    · intro token revoked _
      obtain ⟨pair, member, rfl⟩ := inv.revokedIssued token revoked
      exact genuine pair member
  · exact inv

theorem inv_refresh (inv : Inv service state) {token : JwtToken}
    (genuine : Genuine state (.refresh call token)) : Inv service (step service state (.refresh call token)) := by
  by_cases served : ∃ session identity,
    RefreshOf service (calledAt call state.now) (authWorld state) token session identity
  · obtain ⟨session, identity, refreshing⟩ := served
    simp only [step, refresh_of refreshing]
    have own := getSession_sessionId refreshing.stored
    have before := inv.sound _ session refreshing.stored
    obtain ⟨user, tenant, audience⟩ := refresh_keeps refreshing
    have identified := refreshIdentity_identified refreshing.identified
    have inRole := refreshIdentity_inRole refreshing.identified
    obtain ⟨sameUser, sameTenant, _⟩ := refreshing.matched
    -- the token of the refresh was issued beside an access token of the same audience
    have sameAudience : session.audience = token.payload.audience := by
      obtain ⟨pair, member, rfl⟩ := genuine
      obtain ⟨_, _, rfl, _⟩ := inv.issued pair member
      exact (before.owned _ member own.symm).audience
    refine inv_issue inv (refreshedSession service (calledAt call state.now) token session identity) rfl rfl own.symm
      ?_ ?_ ?_ ?_ ?_ ?_
    · exact ⟨sameUser.trans user.symm, sameTenant.trans tenant.symm, rfl, sameAudience.trans audience.symm⟩
    · intro pair member names
      obtain ⟨ofUser, ofTenant, ofAudience⟩ := before.owned pair member names
      exact ⟨ofUser, ofTenant, ofAudience⟩
    · intro sensitive
      exact Option.isSome_iff_ne_none.mp (identified.verified sensitive)
    · intro tenantId inTenant
      change currentRole service state.tables.auth session.userId tenantId = some identity.role ∧ _
      rw [sameUser, ← user]
      exact inRole tenantId (tenant.trans (sameTenant.symm.trans inTenant))
    · intro sessionId
      exact state.store.sessions.find_put
    · intro other revoked unexpired names
      have gone := inv.revokedGone other revoked unexpired
      have stored : state.store.getSession other.payload.sessionId = some session := by
        rw [names]
        exact own ▸ refreshing.stored
      rw [stored] at gone
      cases gone
  · obtain ⟨⟨error, failed⟩, within⟩ := refresh_otherwise served
    simp only [step]
    split
    · next succeeded =>
      rw [succeeded] at failed
      cases failed
    · next outcome =>
      rw [outcome] at within
      exact inv_within inv within

theorem mem_formerRoles {userId tenantId role : String} :
    (userId, tenantId, role) ∈ formerRoles service state tables ↔
      (currentRole service state.tables.auth userId tenantId = some role ∨
        (userId, tenantId, role) ∈ state.formerRoles) ∧
        currentRole service tables.auth userId tenantId ≠ some role := by
  simp only [formerRoles, rolesBefore, List.mem_filter, List.mem_append, List.mem_filterMap, decide_eq_true_eq]
  refine and_congr_left fun _ => or_congr_left ?_
  constructor
  · rintro ⟨row, member, held⟩
    obtain ⟨_, current, same⟩ := Option.map_eq_some_iff.mp held
    cases same
    exact current
  · intro current
    obtain ⟨membership, found, _⟩ := Option.map_eq_some_iff.mp current
    obtain ⟨row, stored, _⟩ := Option.bind_eq_some_iff.mp found
    obtain ⟨member, key⟩ := (KeyedTable.find_eq_some _).mp stored
    obtain ⟨rfl, rfl⟩ := Prod.mk.inj key
    exact ⟨row, member, by rw [current]; rfl⟩

theorem inv_commit (inv : Inv service state)
    (noneLeft : NoneLeft service state event) (commits : committed service state event = some tables) :
    Inv service
      { state with
        tables
        revoked := revokedTokens service state event ++ state.revoked
        formerRoles := formerRoles service state tables } where
  issued := inv.issued
  sound := inv.sound
  revokedIssued token revoked := by
    rcases List.mem_append.mp revoked with now | earlier
    · exact List.mem_map.mp (List.mem_filter.mp now).1
    · exact inv.revokedIssued token earlier
  revokedGone token revoked unexpired := by
    rcases List.mem_append.mp revoked with now | earlier
    · obtain ⟨issued, taken⟩ := List.mem_filter.mp now
      obtain ⟨pair, member, rfl⟩ := List.mem_map.mp issued
      cases stored : state.store.getSession pair.accessToken.payload.sessionId with
      | none => rfl
      | some session =>
        have kept := (noneLeft tables commits pair member unexpired session stored).1
        obtain ⟨user, tenant, _⟩ := (inv.sound _ session stored).owned pair member
          (getSession_sessionId stored).symm
        rw [user, tenant] at kept
        simp [taken] at kept
    · exact inv.revokedGone token earlier unexpired
  former userId tenantId role member := (mem_formerRoles.mp member).2
  formerGone pair member unexpired session stored tenantId inTenant former := by
    obtain ⟨current | earlier, lost⟩ := mem_formerRoles.mp former
    · exact (noneLeft tables commits pair member unexpired session stored).2 ⟨tenantId, inTenant, current, lost⟩
    · exact inv.formerGone pair member unexpired session stored tenantId inTenant earlier

theorem step_committed
    (commits : committed service state event = some tables) :
    step service state event =
      { state with
        tables
        revoked := revokedTokens service state event ++ state.revoked
        formerRoles := formerRoles service state tables } := by
  cases event with
  | resetPassword call dto passwordHash => simp only [step, commits]
  | updateStatus call membershipId status => simp only [step, commits]
  | updateRole call membershipId roleCode => simp only [step, commits]
  | _ => cases commits

theorem inv_step (inv : Inv service state) (genuine : Genuine state event)
    (noneLeft : NoneLeft service state event) : Inv service (step service state event) := by
  cases commits : committed service state event with
  | some tables =>
    rw [step_committed commits]
    exact inv_commit inv noneLeft commits
  | none =>
    cases event with
    | login call dto => exact inv_login inv genuine
    | refresh call token => exact inv_refresh inv genuine
    | authenticate token expectedTenantId expectedAudience =>
      exact inv_within inv (authenticate_within _ _ _ _ _)
    | expire sessionId => exact inv_within inv (within_expire _ _)
    | wait milliseconds => exact inv_wait inv milliseconds
    | resetPassword call dto passwordHash =>
      simp only [step, commits]
      exact inv
    | updateStatus call membershipId status =>
      simp only [step, commits]
      exact inv
    | updateRole call membershipId roleCode =>
      simp only [step, commits]
      exact inv

theorem left_session (inv : Inv service state) (left : ¬ NoneLeft service state event) :
    ¬ Rejects service (step service state event) := by
  simp only [NoneLeft, not_forall] at left
  obtain ⟨tables, commits, pair, member, unexpired, session, stored, kept⟩ := left
  obtain ⟨latest, issued, synced, accepted⟩ := inv.latest_accepted member unexpired stored
  rw [step_committed commits]
  intro rejects
  by_cases taken : revokes service state event session.userId session.tenantId = true
  · have revoked : latest.accessToken ∈ revokedTokens service state event := by
      apply List.mem_filter.mpr
      refine ⟨List.mem_map.mpr ⟨latest, issued, rfl⟩, ?_⟩
      rw [← synced.1, ← synced.2.1]
      simpa using taken
    obtain ⟨error, rejected⟩ := rejects.revoked _ (List.mem_append_left _ revoked)
      latest.accessToken.payload.tenantId latest.accessToken.payload.audience
    rw [accepted] at rejected
    cases rejected
  · have outdated : Outdates service state tables session := by
      by_contra fine
      exact kept ⟨by simpa using taken, fine⟩
    obtain ⟨tenantId, inTenant, current, lost⟩ := outdated
    exact (rejects.roles latest issued _ _ _ accepted tenantId inTenant).1
      (mem_formerRoles.mpr ⟨.inl current, lost⟩)

end Revocations

/-- The access tokens of a user are rejected once the password is reset or the membership suspended, and none of
them gives a former role, in every state of a run, exactly when no reset, suspension or change of role of the run
finds a session of those it is for with an access token that has not expired. -/
theorem revoked_tokens_are_rejected_iff_no_session_is_left (service : AuthService) (tables : AuthTables) (now : Int)
    {events : List RevocationEvent}
    (genuine : Meets (Revocations.step service) Revocations.Genuine (Revocations.opened tables now) events) :
    Along (Revocations.step service) (Revocations.Rejects service) (Revocations.opened tables now) events ↔
      Meets (Revocations.step service) (Revocations.NoneLeft service) (Revocations.opened tables now) events := by
  have initial : Revocations.Inv service (Revocations.opened tables now) := Revocations.inv_opened tables now
  refine along_iff_meets_of_each ?_ ?_ ?_ initial genuine
  · intro state event inv own noneLeft
    exact Revocations.inv_step inv own noneLeft
  · intro state inv
    exact inv.rejects
  · intro state event inv _ left
    exact Revocations.left_session inv left

namespace Revocations

def schoolTables : AuthTables where
  auth := LoginChallenges.schoolWorld.db
  actionTokens := ⟨[⟨"action-1", some "lakeside", some "user-1", "parent@example.org", .passwordRecovery, "recovery-code",
    ⟨none, none, none⟩, 90000, none⟩], by decide⟩

def resetCall : AuthCall := { LoginChallenges.loginCall with path := "/auth/password-recovery/reset" }

def parentLogin : RevocationEvent :=
  .login LoginChallenges.loginCall (LoginChallenges.loginOf "parent@example.org" none)

def parentReset : RevocationEvent := .resetPassword resetCall ⟨"recovery-code", "a better one"⟩ "a better one"

end Revocations

open Revocations in
theorem expired_session_is_rejected_after_reset :
    Along (step LoginChallenges.schoolService) (Rejects LoginChallenges.schoolService) (opened schoolTables 1000)
      [parentLogin, .expire "session-1", parentReset] := by
  have genuine : Meets (step LoginChallenges.schoolService) Genuine (opened schoolTables 1000)
      [parentLogin, .expire "session-1", parentReset] :=
    ⟨fun _ member => absurd member List.not_mem_nil, trivial, trivial, trivial⟩
  apply (revoked_tokens_are_rejected_iff_no_session_is_left LoginChallenges.schoolService schoolTables 1000
    genuine).mpr
  refine ⟨?_, ?_, ?_, trivial⟩
  · intro tables commits
    cases commits
  · intro tables commits
    cases commits
  · intro tables _ pair issued _ session stored
    obtain ⟨_, rfl⟩ | none := List.mem_cons.mp issued
    · cases stored
    · cases none

open Revocations in
/-- A parent signs in and then resets the password: the access token from before is still accepted. -/
theorem token_is_accepted_after_reset :
    ¬ Along (step LoginChallenges.schoolService) (Rejects LoginChallenges.schoolService) (opened schoolTables 1000)
      [parentLogin, parentReset] := by
  rintro ⟨_, _, rejects⟩
  have login : NoneLeft LoginChallenges.schoolService (opened schoolTables 1000) parentLogin := by
    intro tables commits
    cases commits
  have genuine : Genuine (opened schoolTables 1000) parentLogin := fun _ member => absurd member List.not_mem_nil
  have inv := inv_step (inv_opened schoolTables 1000) genuine login
  have commits : (committed LoginChallenges.schoolService
      (step LoginChallenges.schoolService (opened schoolTables 1000) parentLogin) parentReset).isSome = true := by
    decide +kernel
  obtain ⟨tables, commits⟩ := Option.isSome_iff_exists.mp commits
  refine left_session inv ?_ rejects
  intro noneLeft
  have kept := (noneLeft tables commits _ List.mem_cons_self (by decide) _ rfl).1
  revert kept
  decide +kernel

end ShuleHub.Auth
