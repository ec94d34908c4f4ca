import ShuleHub.Auth.AuthService

/-! What the office of a school does to the memberships of its users. -/

namespace ShuleHub.Auth

open Transaction

variable {membershipId : String} {db after : AuthDb} (service : AuthService) (call : AuthCall)

structure TenantManagedUserDto where
  id : String
  kind : String
  displayName : String
  email : String
  roleCode : String
  roleName : String
  status : MembershipStatus
  createdAt : Int

variable {result : TenantManagedUserDto}

def tenantInvitableRoleCodes : List String :=
  ["admin", "teacher", "accountant", "staff", "parent", "student", "storekeeper", "librarian", "member"]

def normalizeRoleCode (roleCode : String) : Except Exception String := do
  let normalizedRoleCode := service.runtime.lower (JsText.trim roleCode)
  failIf (normalizedRoleCode ∉ tenantInvitableRoleCodes)
    (.badRequest ("Unsupported invitation role \"" ++ roleCode ++ "\"."))
  return normalizedRoleCode

def requireTenantId : Except Exception String :=
  match call.tenantId.filter (JsText.trim · ≠ "") with
  | some tenantId => return JsText.trim tenantId
  | none => fail (.badRequest "A school tenant context is required to send invitations.")

def Authorization.getRoleByCode (authorization : Authorization) (tenantId code : String) : Except Exception RoleEntity :=
  match authorization.roles.find? fun role => role.tenantId = tenantId ∧ role.code = code with
  | some role => return role
  | none => fail (.notFound ("Role \"" ++ code ++ "\" was not found for tenant \"" ++ tenantId ++ "\""))

def managedMembership (db : AuthDb) (membershipId tenantId : String) :
    Option (TenantMembershipRow × UserEntity) := do
  let row ← db.memberships.rows.find? fun row => row.id = membershipId ∧ row.tenantId = tenantId
  let user ← findById service call db row.userId
  return (row, user)

def managedUser (row : TenantMembershipRow) (user : UserEntity) (role : RoleEntity) :
    TenantManagedUserDto where
  id := row.id
  kind := "member"
  displayName := user.displayName
  email := service.runtime.lower user.email
  roleCode := role.code
  roleName := role.name
  status := row.status
  createdAt := row.createdAt

def putMembership (row : TenantMembershipRow) : Transaction AuthDb Exception Unit :=
  write fun db => { db with memberships := db.memberships.put row }

def updateMembership (membershipId tenantId : String)
    (change : TenantMembershipRow → TenantMembershipRow) : Transaction AuthDb Exception TenantManagedUserDto := do
  let db ← current
  match managedMembership service call db membershipId tenantId with
  | none => fail (.notFound "Tenant membership was not found.")
  | some (row, user) =>
    match service.authorization.roles.find? fun role => role.id = (change row).roleId ∧ role.tenantId = row.tenantId with
    | none => fail (.notFound "Tenant membership was not found.")
    | some role => do
      putMembership (change row)
      return managedUser service (change row) user role

def updateTenantMembershipStatus (membershipId : String)
    (status : MembershipStatus) : Transaction AuthDb Exception TenantManagedUserDto := do
  failIf (status ≠ .active ∧ status ≠ .suspended)
    (.badRequest "Tenant membership status must be active or suspended.")
  let tenantId ← requireTenantId call
  updateMembership service call membershipId tenantId fun row => { row with status }

def updateTenantMembershipRole (membershipId roleCodeInput : String) :
    Transaction AuthDb Exception TenantManagedUserDto := do
  let tenantId ← requireTenantId call
  let roleCode ← normalizeRoleCode service roleCodeInput
  let role ← service.authorization.getRoleByCode tenantId roleCode
  updateMembership service call membershipId tenantId fun row => { row with roleId := role.id }

def memberOf (db : AuthDb) (membershipId : String) :
    Option (String × Option String) :=
  match requireTenantId call with
  | .ok tenantId =>
    (managedMembership service call db membershipId tenantId).map fun found => (found.1.userId, some found.1.tenantId)
  | .error _ => none

variable {service call}

theorem updateMembership_ok {tenantId : String}
    {change : TenantMembershipRow → TenantMembershipRow}
    (succeeded : (updateMembership service call membershipId tenantId change).run db = .ok (result, after)) :
    ∃ row user role, managedMembership service call db membershipId tenantId = some (row, user) ∧
      service.authorization.roles.find? (fun role => role.id = (change row).roleId ∧ role.tenantId = row.tenantId) =
        some role ∧
      after = { db with memberships := db.memberships.put (change row) } ∧
      result = managedUser service (change row) user role := by
  unfold updateMembership at succeeded
  simp only [run_bind_ok, run_current_ok] at succeeded
  obtain ⟨_, _, ⟨rfl, rfl⟩, succeeded⟩ := succeeded
  split at succeeded
  · simp at succeeded
  · next row user found =>
    split at succeeded
    · simp at succeeded
    · next role joined =>
      simp only [putMembership, run_bind_ok, run_write_ok, run_pure_ok] at succeeded
      obtain ⟨_, _, rfl, rfl, rfl⟩ := succeeded
      exact ⟨row, user, role, found, joined, rfl, rfl⟩

theorem updateTenantMembershipRole_ok {roleCodeInput : String}
    (succeeded : (updateTenantMembershipRole service call membershipId roleCodeInput).run db = .ok (result, after)) :
    ∃ tenantId row user role, requireTenantId call = .ok tenantId ∧
      managedMembership service call db membershipId tenantId = some (row, user) ∧
      role ∈ service.authorization.roles ∧ role.tenantId = tenantId ∧
      after = { db with memberships := db.memberships.put { row with roleId := role.id } } := by
  unfold updateTenantMembershipRole at succeeded
  simp only [run_bind_ok, run_lift_ok] at succeeded
  obtain ⟨tenantId, _, ⟨own, rfl⟩, code, _, ⟨_, rfl⟩, role, _, ⟨named, rfl⟩, succeeded⟩ := succeeded
  obtain ⟨row, user, _, found, _, after, _⟩ := updateMembership_ok succeeded
  unfold Authorization.getRoleByCode at named
  split at named
  · next other present =>
    rw [Outcome.pure_ok] at named
    subst named
    have matched := List.find?_some present
    simp only [decide_eq_true_eq] at matched
    exact ⟨tenantId, row, user, other, own, found, List.mem_of_find?_eq_some present, matched.1, after⟩
  · simp at named

end ShuleHub.Auth
