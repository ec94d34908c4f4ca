import ShuleHub.Auth.AuthService

/-! Who a session is for: the user that signed in, and the role and the permissions that the membership of the
user gave at that moment. -/

namespace ShuleHub.Auth

open Outcome

variable {service : AuthService} {user : UserEntity} {db : AuthDb} {call : AuthCall} {email userId : String}
  {dto : LoginDto} {signedIn identity : SignIn} {payload : JwtTokenPayload} {membership : TenantMembershipEntity}

theorem assertPassword_ok {found : Option UserEntity} {password : String}
    (accepted : assertPassword service found password = .ok user) : found = some user := by
  unfold assertPassword at accepted
  cases found with
  | none => simp at accepted
  | some other =>
    simp only [bind_ok, failIf_ok, pure_ok] at accepted
    obtain ⟨_, _, _, _, rfl⟩ := accepted
    rfl

/-- What every identity has in common: a user of the table, and permissions that are sensitive only if the email
of the user is verified. -/
structure Identified (db : AuthDb) (userId : String) (identity : SignIn) : Prop where
  known : db.users.find userId = some identity.user
  verified : hasSensitivePermission identity.permissions = true → isEmailVerified identity.user = true

theorem find_of_find? {matching : UserEntity → Bool}
    (found : db.users.rows.find? matching = some user) : db.users.find user.id = some user :=
  db.users.find_self (List.mem_of_find?_eq_some found)

theorem findByEmail_known (found : findByEmail service call db email = .ok (some user)) :
    db.users.find user.id = some user := by
  unfold findByEmail at found
  simp only [bind_ok, failIf_ok, pure_ok] at found
  obtain ⟨_, _, _, _, found⟩ := found
  exact find_of_find? found

theorem findPlatformOwnerByEmail_known (found : findPlatformOwnerByEmail service call db email = .ok (some user)) :
    db.users.find user.id = some user := by
  unfold findPlatformOwnerByEmail at found
  simp only [bind_ok, failIf_ok, pure_ok] at found
  obtain ⟨_, _, _, _, found⟩ := found
  exact find_of_find? found

theorem signIn_identified (signed : signIn service call db dto = .ok signedIn) :
    Identified db signedIn.user.id signedIn := by
  unfold signIn at signed
  split at signed
  · unfold platformSignIn at signed
    split at signed
    · simp at signed
    · simp only [bind_ok, failIf_ok, pure_ok] at signed
      obtain ⟨_, _, found, lookup, user, accepted, rfl⟩ := signed
      obtain rfl := assertPassword_ok accepted
      exact ⟨findPlatformOwnerByEmail_known lookup, resolved_sensitive⟩
  · unfold tenantSignIn at signed
    simp only [bind_ok, pure_ok] at signed
    obtain ⟨found, lookup, user, accepted, membership, _, rfl⟩ := signed
    obtain rfl := assertPassword_ok accepted
    exact ⟨findByEmail_known lookup, resolved_sensitive⟩

theorem refreshIdentity_identified
    (identified : refreshIdentity service call db payload = .ok identity) :
    Identified db payload.userId identity := by
  unfold refreshIdentity at identified
  split at identified
  · split at identified
    · cases identified
    · next lookup =>
      split at identified
      · simp at identified
      · next user active =>
        rw [pure_ok] at identified
        subst identified
        unfold findPlatformOwnerById at lookup
        simp only [bind_ok, failIf_ok, pure_ok] at lookup
        obtain ⟨_, _, rfl⟩ := lookup
        have seen := (Option.filter_eq_some_iff.mp active).1
        exact ⟨(Option.filter_eq_some_iff.mp seen).1, resolved_sensitive⟩
  · split at identified
    · simp at identified
    · next user active =>
      split at identified
      · simp at identified
      · rw [pure_ok] at identified
        subst identified
        have seen := (Option.filter_eq_some_iff.mp active).1
        exact ⟨(Option.filter_eq_some_iff.mp seen).1, resolved_sensitive⟩

def currentRole (service : AuthService) (db : AuthDb) (userId tenantId : String) : Option String :=
  (findMembershipByUserAndTenant service db userId tenantId).map (·.roleCode)

def GrantedBy (service : AuthService) (tenantId roleCode : String) (permissions : List String) : Prop :=
  ∃ role ∈ service.authorization.roles, role.tenantId = tenantId ∧ role.code = roleCode ∧
    (permissions = service.authorization.getPermissionsByRoleId tenantId role.id ∨ permissions = ["auth:read"])

/-- An identity in a tenant has the role that its user has there now, and the permissions of that role. -/
def InRole (service : AuthService) (db : AuthDb) (identity : SignIn) : Prop :=
  ∀ tenantId, identity.tenantId = some tenantId →
    currentRole service db identity.user.id tenantId = some identity.role ∧
      GrantedBy service tenantId identity.role identity.permissions

theorem withRole_eq_some {authorization : Authorization} {row : TenantMembershipRow} (joined : authorization.withRole row = some membership) :
    membership.toTenantMembershipRow = row ∧ ∃ role ∈ authorization.roles,
      role.id = row.roleId ∧ role.tenantId = row.tenantId ∧ membership.roleCode = role.code := by
  unfold Authorization.withRole at joined
  obtain ⟨role, found, rfl⟩ := Option.map_eq_some_iff.mp joined
  have matched := List.find?_some found
  simp only [decide_eq_true_eq] at matched
  exact ⟨rfl, role, List.mem_of_find?_eq_some found, matched.1, matched.2, rfl⟩

theorem resolved_cases (user : UserEntity) (permissions : List String) :
    resolveEmailVerificationPermissions user permissions = permissions ∨
      resolveEmailVerificationPermissions user permissions = ["auth:read"] := by
  unfold resolveEmailVerificationPermissions
  split
  · exact .inl rfl
  · exact .inr rfl

theorem inRole_of_membership {audience : AuthAudience}
    (found : findMembershipByUserAndTenant service db user.id membership.tenantId = some membership) :
    InRole service db
      ⟨user, some membership.tenantId, membership.roleCode, audience, resolveEmailVerificationPermissions user
        (service.authorization.getPermissionsByRoleId membership.tenantId membership.roleId)⟩ := by
  rintro tenantId ⟨⟩
  constructor
  · rw [currentRole, found]
    rfl
  · obtain ⟨row, _, joined⟩ := Option.bind_eq_some_iff.mp found
    obtain ⟨same, role, member, id, tenant, code⟩ := withRole_eq_some joined
    have roleId : membership.roleId = role.id := by rw [id, ← same]
    have inTenant : role.tenantId = membership.tenantId := by rw [tenant, ← same]
    refine ⟨role, member, inTenant, code.symm, ?_⟩
    rw [roleId]
    exact resolved_cases user _

theorem findActiveMembership_eq_some {tenantId : String}
    (found : findActiveMembership service db userId tenantId = some membership) :
    membership.tenantId = tenantId ∧
      findMembershipByUserAndTenant service db userId membership.tenantId = some membership := by
  have present := (Option.filter_eq_some_iff.mp found).1
  obtain ⟨row, stored, joined⟩ := Option.bind_eq_some_iff.mp present
  obtain ⟨same, _⟩ := withRole_eq_some joined
  have key := ((KeyedTable.find_eq_some _).mp stored).2
  have tenant : membership.tenantId = tenantId := by rw [same]; exact congrArg Prod.fst key
  exact ⟨tenant, tenant ▸ present⟩

theorem findActiveMembershipsByUser_mem
    {memberships : List TenantMembershipEntity}
    (found : findActiveMembershipsByUser service call db userId = .ok memberships)
    (member : membership ∈ memberships) :
    findMembershipByUserAndTenant service db userId membership.tenantId = some membership := by
  unfold findActiveMembershipsByUser at found
  simp only [bind_ok, failIf_ok, pure_ok] at found
  obtain ⟨_, _, _, _, rfl⟩ := found
  obtain ⟨row, filtered, joined⟩ := List.mem_filterMap.mp member
  obtain ⟨present, own⟩ := List.mem_filter.mp filtered
  simp only [decide_eq_true_eq] at own
  obtain ⟨same, _⟩ := withRole_eq_some joined
  have stored := db.memberships.find_self present
  rw [own.1, ← same] at stored
  rw [findMembershipByUserAndTenant, stored, Option.bind_some, same]
  exact joined

theorem resolveLoginMembership_ok
    (resolved : resolveLoginMembership service call db userId = .ok membership) :
    findMembershipByUserAndTenant service db userId membership.tenantId = some membership := by
  unfold resolveLoginMembership at resolved
  split at resolved
  · next other found =>
    rw [pure_ok] at resolved
    subst resolved
    obtain ⟨tenantId, _, active⟩ := Option.bind_eq_some_iff.mp found
    exact (findActiveMembership_eq_some active).2
  · rw [bind_ok] at resolved
    obtain ⟨memberships, found, rest⟩ := resolved
    split at rest
    · next only =>
      rw [pure_ok] at rest
      subst rest
      exact findActiveMembershipsByUser_mem found (List.mem_singleton.mpr rfl)
    · simp at rest
    · simp at rest

theorem signIn_inRole
    (signed : signIn service call db dto = .ok signedIn) : InRole service db signedIn := by
  unfold signIn at signed
  split at signed
  · unfold platformSignIn at signed
    split at signed
    · simp at signed
    · simp only [bind_ok, pure_ok] at signed
      obtain ⟨_, _, _, _, _, _, rfl⟩ := signed
      intro tenantId none
      cases none
  · unfold tenantSignIn at signed
    simp only [bind_ok, pure_ok] at signed
    obtain ⟨_, _, user, _, membership, resolved, rfl⟩ := signed
    exact inRole_of_membership (resolveLoginMembership_ok resolved)

theorem refreshIdentity_inRole (identified : refreshIdentity service call db payload = .ok identity) :
    InRole service db identity := by
  unfold refreshIdentity at identified
  split at identified
  · split at identified
    · cases identified
    · split at identified
      · simp at identified
      · rw [pure_ok] at identified
        subst identified
        intro tenantId none
        cases none
  · split at identified
    · simp at identified
    · split at identified
      · simp at identified
      · next membership found =>
        rw [pure_ok] at identified
        subst identified
        obtain ⟨tenantId, _, active⟩ := Option.bind_eq_some_iff.mp found
        exact inRole_of_membership (findActiveMembership_eq_some active).2

theorem refresh_keeps {world : AuthWorld} {token : JwtToken}
    {session : AuthSessionRecord}
    (refreshing : RefreshOf service call world token session identity) :
    identity.user.id = token.payload.userId ∧ identity.tenantId = token.payload.tenantId ∧
      identity.audience = token.payload.audience := by
  have known := (refreshIdentity_identified refreshing.identified).known
  refine ⟨((KeyedTable.find_eq_some _).mp known).2, ?_⟩
  have identified := refreshing.identified
  have ofTenant := refreshing.tenant
  unfold refreshIdentity at identified
  unfold assertRefreshTenant at ofTenant
  split at identified
  · next superadmin =>
    simp only [superadmin, failIf_ok, not_not] at ofTenant
    split at identified
    · cases identified
    · split at identified
      · simp at identified
      · rw [pure_ok] at identified
        subst identified
        exact ⟨ofTenant.symm, superadmin.symm⟩
  · split at identified
    · simp at identified
    · split at identified
      · simp at identified
      · next membership found =>
        rw [pure_ok] at identified
        subst identified
        obtain ⟨tenantId, named, active⟩ := Option.bind_eq_some_iff.mp found
        exact ⟨(findActiveMembership_eq_some active).1 ▸ named.symm, rfl⟩

end ShuleHub.Auth
