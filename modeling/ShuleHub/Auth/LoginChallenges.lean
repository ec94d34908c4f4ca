import ShuleHub.Auth.Identities
import ShuleHub.Auth.TenantMemberships
import ShuleHub.Lib.JsMap
import ShuleHub.Lib.Runs

/-! Which sessions hold sensitive permissions: those of verified users always, and those whose login passed a
challenge as long as the two lists of sensitive permissions agree and no refresh raises a session. -/

namespace ShuleHub.Auth

open Transaction Runs SessionStore

structure ChallengedWorld where
  world : AuthWorld
  challenges : JsMap String (Option MfaStatus)

inductive SessionEvent where
  | login (call : AuthCall) (dto : LoginDto)
  | refresh (call : AuthCall) (token : JwtToken)
  | updateRole (call : AuthCall) (membershipId roleCode : String)

namespace LoginChallenges

variable {service : AuthService} {call : AuthCall} {dto : LoginDto} {token : JwtToken} (state : ChallengedWorld)

@[grind =] def step (service : AuthService) (state : ChallengedWorld) : SessionEvent → ChallengedWorld
  | .login call dto =>
    match (challengedLogin service call dto).run state.world with
    | .ok ((status, _), world) => ⟨world, state.challenges.set call.sessionId status⟩
    | .error _ => state
  | .refresh call token =>
    { state with world := { state.world with store := (refresh service call state.world token).1 } }
  | .updateRole call membershipId roleCode =>
    let db := commit (updateTenantMembershipRole service call membershipId roleCode) state.world.db
    { state with world := { state.world with db } }

def VerifiedUser (session : AuthSessionRecord) : Prop :=
  session.emailVerifiedAt ≠ none ∧
    ∃ user, state.world.db.users.find session.userId = some user ∧ isEmailVerified user = true

def PassedChallenge (sessionId : String) : Prop :=
  ∃ status, state.challenges.get? sessionId = some status ∧ Challenged status

/-- Every session with a sensitive permission is of a verified user who passed the challenge of its login. -/
def Guarded : Prop :=
  ∀ sessionId session, state.world.store.getSession sessionId = some session →
    hasSensitivePermission session.permissions = true →
      VerifiedUser state session ∧ PassedChallenge state sessionId

/-- The condition on one call: a login that gives sensitive permissions is one that `MfaService` is there for and
asks a challenge of, and a refresh gives them to a session whose login passed one. -/
@[grind =] def Asked (service : AuthService) (state : ChallengedWorld) : SessionEvent → Prop
  | .login call dto =>
    ∀ signedIn, signIn service call state.world.db dto = .ok signedIn →
      hasSensitivePermission signedIn.permissions = true →
        service.config.mfaService = true ∧ requiresChallenge signedIn.role signedIn.permissions = true
  | .refresh call token =>
    ∀ session identity, RefreshOf service call state.world token session identity →
      hasSensitivePermission identity.permissions = true → PassedChallenge state session.sessionId
  | .updateRole _ _ _ => True

variable {state}

theorem verifiedUser_of {session : AuthSessionRecord} {identity : SignIn}
    (identified : Identified state.world.db session.userId identity)
    (email : session.emailVerifiedAt = identity.user.emailVerifiedAt)
    (sensitive : hasSensitivePermission identity.permissions = true) : VerifiedUser state session := by
  have verified := identified.verified sensitive
  refine ⟨?_, identity.user, identified.known, verified⟩
  rw [email]
  exact Option.isSome_iff_ne_none.mp verified

theorem guarded_login
    (guarded : Guarded state) (asked : Asked service state (.login call dto)) :
    Guarded (step service state (.login call dto)) := by
  simp only [step]
  split
  · next status response after outcome =>
    obtain ⟨signedIn, db, signed, enforced, rfl, rfl⟩ := challengedLogin_ok.mp outcome
    obtain ⟨users, _, challenged⟩ := enforceLoginSecurity_ok enforced
    intro sessionId session found sensitive
    rw [getSession_persist] at found
    split at found
    · next same =>
      obtain rfl : createdSession call signedIn _ = session := Option.some.inj found
      constructor
      · apply verifiedUser_of _ rfl sensitive
        change Identified db signedIn.user.id signedIn
        have known := signIn_identified signed
        exact ⟨users ▸ known.known, known.verified⟩
      · refine ⟨status, ?_, challenged.mpr (asked signedIn signed sensitive)⟩
        have own : sessionId = call.sessionId := same
        rw [own, JsMap.get?_set, if_pos rfl]
    · next differs =>
      obtain ⟨⟨email, user, known, verified⟩, status, recorded, passed⟩ := guarded sessionId session found sensitive
      have other : call.sessionId ≠ sessionId := fun same => differs same.symm
      refine ⟨⟨email, user, users ▸ known, verified⟩, status, ?_, passed⟩
      rw [JsMap.get?_set, if_neg other]
      exact recorded
  · exact guarded

theorem guarded_within {store : SessionStore} (guarded : Guarded state)
    (within : store.Within state.world.store) : Guarded { state with world := { state.world with store } } :=
  fun sessionId session found sensitive => guarded sessionId session (within sessionId session found) sensitive

theorem guarded_refresh
    (guarded : Guarded state) (asked : Asked service state (.refresh call token)) :
    Guarded (step service state (.refresh call token)) := by
  by_cases served : ∃ session identity, RefreshOf service call state.world token session identity
  · obtain ⟨session, identity, refreshing⟩ := served
    simp only [step, refresh_of refreshing]
    intro sessionId stored found sensitive
    have own := getSession_sessionId refreshing.stored
    rw [getSession, KeyedTable.find_put] at found
    split at found
    · next same =>
      obtain rfl : refreshedSession service call token session identity = stored := Option.some.inj found
      constructor
      · apply verifiedUser_of _ rfl sensitive
        have known := refreshIdentity_identified refreshing.identified
        rwa [← refreshing.matched.1] at known
      · have name : sessionId = session.sessionId := same
        exact name ▸ asked session identity refreshing sensitive
    · exact guarded sessionId stored found sensitive
  · exact guarded_within guarded (refresh_otherwise served).2

theorem guarded_updateRole
    {membershipId roleCode : String} (guarded : Guarded state) :
    Guarded (step service state (.updateRole call membershipId roleCode)) := by
  have users : (commit (updateTenantMembershipRole service call membershipId roleCode) state.world.db).users =
      state.world.db.users := by
    refine @commit_preserves _ _ _ (fun db : AuthDb => db.users = state.world.db.users) _ _ rfl ?_
    intro result after succeeded
    obtain ⟨_, _, _, _, _, _, _, _, rfl⟩ := updateTenantMembershipRole_ok succeeded
    rfl
  intro sessionId session found sensitive
  obtain ⟨⟨email, user, known, verified⟩, passed⟩ := guarded sessionId session found sensitive
  exact ⟨⟨email, user, users ▸ known, verified⟩, passed⟩

theorem guarded_step {event : SessionEvent}
    (guarded : Guarded state) (asked : Asked service state event) : Guarded (step service state event) := by
  cases event with
  | login call dto => exact guarded_login guarded asked
  | refresh call token => exact guarded_refresh guarded asked
  | updateRole call membershipId roleCode => exact guarded_updateRole guarded

theorem unasked_login
    (unasked : ¬ Asked service state (.login call dto)) : ¬ Guarded (step service state (.login call dto)) := by
  simp only [Asked, not_forall] at unasked
  obtain ⟨signedIn, signed, sensitive, free⟩ := unasked
  obtain ⟨status, enforced⟩ := enforceLoginSecurity_free state.world.db free
  have outcome := challengedLogin_ok.mpr ⟨signedIn, state.world.db, signed, enforced, rfl, rfl⟩
  have challenged := (enforceLoginSecurity_ok enforced).2.2
  simp only [step, outcome]
  intro guarded
  obtain ⟨_, found, recorded, passed⟩ := guarded call.sessionId
    (createdSession call signedIn
      (issueTokenPair service.config.tokens call.draw (tokenSubject signedIn call.sessionId)))
    (by rw [getSession_persist]; exact if_pos rfl) sensitive
  rw [JsMap.get?_set, if_pos rfl] at recorded
  obtain rfl := Option.some.inj recorded
  exact free (challenged.mp passed)

theorem unasked_refresh
    (unasked : ¬ Asked service state (.refresh call token)) : ¬ Guarded (step service state (.refresh call token)) := by
  simp only [Asked, not_forall] at unasked
  obtain ⟨session, identity, refreshing, sensitive, unpassed⟩ := unasked
  simp only [step, refresh_of refreshing]
  intro guarded
  apply unpassed
  exact (guarded session.sessionId (refreshedSession service call token session identity)
    (by rw [getSession, KeyedTable.find_put]; exact if_pos rfl) sensitive).2

def schoolService : AuthService where
  config :=
    { tokens := ⟨900, 2592000⟩
      systemOwnerEmail := none
      mfaService := true
      trustedDeviceService := false
      rowLevelSecurity := true }
  runtime := ⟨id, fun password hash => password = hash, id⟩
  authorization :=
    { roles := [⟨"role-1", "lakeside", "parent", "Parent"⟩, ⟨"role-2", "lakeside", "teacher", "Teacher"⟩]
      rolePermissions :=
        [⟨"lakeside", "role-1", "payments", "create"⟩, ⟨"lakeside", "role-2", "discipline", "write"⟩] }

def schoolUser (id email : String) : UserEntity where
  id
  tenantId := "lakeside"
  email
  passwordHash := "open sesame"
  displayName := "Amina"
  userType := .member
  status := .active
  emailVerifiedAt := some 0
  mfaEnabled := true

def schoolWorld : AuthWorld where
  db :=
    { users := ⟨[schoolUser "user-1" "parent@example.org", schoolUser "user-2" "teacher@example.org"], by decide⟩
      memberships := ⟨[⟨"membership-1", "lakeside", "user-1", "role-1", .active, 0⟩,
        ⟨"membership-2", "lakeside", "user-2", "role-2", .active, 0⟩], by decide⟩
      mfaChallenges := ⟨[⟨"mfa-1", "user-2", "246810", 5000, none⟩], by decide⟩
      trustedDevices := [] }
  store := .empty

def loginCall : AuthCall where
  userId := "anonymous"
  tenantId := some "lakeside"
  role := none
  path := "/auth/login"
  now := 1000
  sessionId := "session-1"
  draw := ⟨1000, "access-1", "refresh-1"⟩
  metadata := ⟨none, none⟩

def loginOf (email : String) (mfaCode : Option String) : LoginDto where
  email
  password := "open sesame"
  audience := some .school
  mfaCode
  trustedDeviceToken := none
  trustDevice := false

theorem guarded_without_sessions (db : AuthDb) (challenges : JsMap String (Option MfaStatus)) :
    Guarded ⟨⟨db, .empty⟩, challenges⟩ := by
  intro sessionId session found
  cases found

end LoginChallenges

/-- Every session with a sensitive permission is of a verified user who passed the challenge of the login it
comes from, in every state of a run, exactly when each login that gives such permissions is asked for a
challenge and no refresh gives them to a session that has not passed one. -/
theorem sensitive_sessions_passed_a_challenge_iff_it_was_asked (service : AuthService) {state : ChallengedWorld}
    (events : List SessionEvent) (initial : LoginChallenges.Guarded state) :
    Along (LoginChallenges.step service) LoginChallenges.Guarded state events ↔
      Meets (LoginChallenges.step service) (LoginChallenges.Asked service) state events := by
  apply along_iff_meets _ _ _ events initial
  · intro state event guarded asked
    exact LoginChallenges.guarded_step guarded asked
  · intro state guarded
    exact guarded
  · intro state event _ unasked
    cases event with
    | login call dto => exact LoginChallenges.unasked_login unasked
    | refresh call token => exact LoginChallenges.unasked_refresh unasked
    | updateRole call membershipId roleCode => exact absurd trivial unasked

open LoginChallenges in
theorem teacher_session_passed_a_challenge :
    Along (step schoolService) Guarded ⟨schoolWorld, []⟩ [.login loginCall (loginOf "teacher@example.org" (some "246810"))] := by
  apply (sensitive_sessions_passed_a_challenge_iff_it_was_asked schoolService _
    (guarded_without_sessions schoolWorld.db [])).mpr
  refine ⟨?_, trivial⟩
  intro signedIn signed _
  have found : signIn schoolService loginCall schoolWorld.db (loginOf "teacher@example.org" (some "246810")) =
      .ok ⟨schoolUser "user-2" "teacher@example.org", some "lakeside", "teacher", .school, ["discipline:write"]⟩ := rfl
  cases found.symm.trans signed
  decide

open LoginChallenges in
/-- A parent may create payments, which is a sensitive permission, and signs in without a challenge. -/
theorem parent_session_passed_no_challenge :
    ¬ Along (step schoolService) Guarded ⟨schoolWorld, []⟩ [.login loginCall (loginOf "parent@example.org" none)] := by
  intro along
  refine unasked_login ?_ along.2
  intro asked
  exact absurd (asked ⟨schoolUser "user-1" "parent@example.org", some "lakeside", "parent", .school,
    ["payments:create"]⟩ rfl (by decide)) (by decide)

end ShuleHub.Auth
