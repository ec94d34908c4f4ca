import ShuleHub.Auth.ActionTokens
import ShuleHub.Auth.TenantMemberships

/-! The invitations of a school: a token is mailed, and whoever holds it becomes a member. -/

namespace ShuleHub.Auth

open Transaction KeyedTable

variable {row : AuthActionTokenRow} {tables after : AuthTables} {service : AuthService} {call : AuthCall}
  {invitationId : String}

structure CreateTenantInvitationDto where
  email : String
  displayName : String
  roleCode : String

structure TenantInvitationResponseDto where
  id : String
  tenantId : String
  email : String
  displayName : String
  roleCode : String
  invitationSent : Bool
  expiresAt : Int

structure TenantInvitationActionResponseDto where
  id : String
  invitationSent : Option Bool
  expiresAt : Option Int
  status : Option String

variable {response : TenantInvitationActionResponseDto}

/-- What the mail of an invitation brings along: whether the mailer is configured, how long a token lives, the
token and the id of the row that are drawn, and what becomes of the mail. -/
structure InvitationMail where
  configured : Bool
  ttlMs : Nat
  token : String
  id : String
  delivery : Except Exception Unit

variable {mail : InvitationMail}

structure AcceptInvitationDto where
  token : String
  password : String
  displayName : Option String

structure InvitationAcceptanceResponseDto where
  success : Bool
  message : String
  tenantId : String
  email : String
  displayName : String
  role : String

/-- The values that an acceptance draws: the salted hash of the password, and the ids of the rows it may add. -/
structure AcceptanceDraw where
  passwordHash : String
  userId : String
  membershipId : String

def tenantUserInvitation : String := "tenant_user_invitation"

def assertTransactionalEmailConfigured (mail : InvitationMail) : Except Exception Unit :=
  failIf (mail.configured = false) (.serviceUnavailable
    "User invitations are temporarily unavailable. Please configure transactional email before inviting school users.")

def nonEmpty (text : Option String) : Option String := text.filter (· ≠ "")

def isInvitationTo (service : AuthService) (tenantId email : String) (row : AuthActionTokenRow) : Prop :=
  row.tenantId = some tenantId ∧ service.runtime.lower row.email = service.runtime.lower email ∧
    row.purpose = .inviteAcceptance
deriving Decidable

def consumePending (service : AuthService) (tenantId email : String) (now : Int) (row : AuthActionTokenRow) :
    AuthActionTokenRow :=
  if isInvitationTo service tenantId email row ∧ row.consumedAt = none then { row with consumedAt := some now }
  else row

theorem consumePending_id (service : AuthService) (tenantId email : String) (now : Int) (row : AuthActionTokenRow) :
    (consumePending service tenantId email now row).id = row.id := by
  unfold consumePending
  split <;> rfl

def insertActionToken (row : AuthActionTokenRow) : Transaction AuthTables Exception Unit := do
  let tables ← current
  failIf (∃ other ∈ tables.actionTokens.rows, other.tokenHash = row.tokenHash) (.database "ux_auth_action_tokens_hash")
  match tables.actionTokens.tryInsert row with
  | none => fail (.database "auth_action_tokens_pkey")
  | some actionTokens => write fun tables => { tables with actionTokens }

def invitationRow (service : AuthService) (mail : InvitationMail) (call : AuthCall) (tenantId email roleCode : String)
    (displayName : String) : AuthActionTokenRow where
  id := mail.id
  tenantId := some tenantId
  userId := none
  email
  purpose := .inviteAcceptance
  tokenHash := hashToken service mail.token
  metadata := ⟨some tenantUserInvitation, some roleCode, some displayName⟩
  expiresAt := call.now + mail.ttlMs
  consumedAt := none

def createInvitationAction (service : AuthService) (mail : InvitationMail) (call : AuthCall) (tenantId : String)
    (row : AuthActionTokenRow) : Transaction AuthTables Exception String := do
  write fun tables =>
    { tables with
      actionTokens := tables.actionTokens.modify (consumePending service tenantId row.email call.now)
        (consumePending_id service tenantId row.email call.now) }
  insertActionToken row
  mail.delivery
  return row.id

def inviteTenantUser (service : AuthService) (mail : InvitationMail) (call : AuthCall) (dto : CreateTenantInvitationDto) :
    Transaction AuthTables Exception TenantInvitationResponseDto := do
  assertTransactionalEmailConfigured mail
  let tenantId ← requireTenantId call
  let roleCode ← normalizeRoleCode service dto.roleCode
  let email := service.runtime.lower (JsText.trim dto.email)
  let displayName := JsText.trim dto.displayName
  failIf (displayName = "") (.badRequest "Invitee display name is required.")
  let _ ← service.authorization.getRoleByCode tenantId roleCode
  let row := invitationRow service mail call tenantId email roleCode displayName
  let invitationId ← createInvitationAction service mail call tenantId row
  return {
    id := invitationId
    tenantId
    email
    displayName
    roleCode
    invitationSent := true
    expiresAt := row.expiresAt }

def isOpenInvitation (invitationId tenantId : String) (row : AuthActionTokenRow) : Prop :=
  row.id = invitationId ∧ row.tenantId = some tenantId ∧ row.purpose = .inviteAcceptance ∧ row.consumedAt = none ∧
    row.metadata.purpose = some tenantUserInvitation
deriving Decidable

def pendingInvitation (tables : AuthTables) (invitationId tenantId : String) : Option AuthActionTokenRow :=
  (tables.actionTokens.find invitationId).filter fun row => isOpenInvitation invitationId tenantId row

def loadPendingTenantInvitationForUpdate (tables : AuthTables) (invitationId tenantId : String) :
    Except Exception AuthActionTokenRow :=
  match pendingInvitation tables invitationId tenantId with
  | none => fail (.notFound "Pending invitation was not found.")
  | some row => return row

def resentInvitation (service : AuthService) (mail : InvitationMail) (call : AuthCall) (roleCode : String)
    (row : AuthActionTokenRow) : AuthActionTokenRow :=
  { row with
    tokenHash := hashToken service mail.token
    expiresAt := call.now + mail.ttlMs
    metadata := ⟨some tenantUserInvitation, some roleCode, some ((nonEmpty row.metadata.displayName).getD row.email)⟩ }

def resendTenantInvitation (service : AuthService) (mail : InvitationMail) (call : AuthCall) (invitationId : String) :
    Transaction AuthTables Exception TenantInvitationActionResponseDto := do
  assertTransactionalEmailConfigured mail
  let tenantId ← requireTenantId call
  let tables ← current
  let row ← loadPendingTenantInvitationForUpdate tables invitationId tenantId
  let roleCode ← normalizeRoleCode service ((nonEmpty row.metadata.roleCode).getD "member")
  failIf (∃ other ∈ tables.actionTokens.rows, other.id ≠ invitationId ∧ other.tokenHash = hashToken service mail.token)
    (.database "ux_auth_action_tokens_hash")
  write fun tables =>
    { tables with
      actionTokens := tables.actionTokens.update invitationId (resentInvitation service mail call roleCode)
        fun _ => rfl }
  mail.delivery
  return {
    id := invitationId
    invitationSent := some true
    expiresAt := some (call.now + mail.ttlMs)
    status := none }

def revokeTenantInvitation (call : AuthCall) (invitationId : String) :
    Transaction AuthTables Exception TenantInvitationActionResponseDto := do
  let tenantId ← requireTenantId call
  let tables ← current
  let _ ← loadPendingTenantInvitationForUpdate tables invitationId tenantId
  write fun tables =>
    { tables with
      actionTokens := tables.actionTokens.update invitationId
        (fun row => { row with consumedAt := some call.now }) fun _ => rfl }
  return {
    id := invitationId
    invitationSent := none
    expiresAt := none
    status := some "revoked" }

def localPart (email : String) : String := String.ofList (email.toList.takeWhile (· ≠ '@'))

def inviteRoleCode (row : AuthActionTokenRow) : String := (nonEmpty row.metadata.roleCode).getD "member"

def inviteDisplayName (row : AuthActionTokenRow) (displayName : Option String) : String :=
  ((nonEmpty displayName).orElse fun _ => nonEmpty row.metadata.displayName).getD (localPart row.email)

def invitedUser (service : AuthService) (db : AuthDb) (email : String) : Option UserEntity :=
  db.users.rows.find? fun user => service.runtime.lower user.email = service.runtime.lower email

def acceptedUser (service : AuthService) (call : AuthCall) (draw : AcceptanceDraw) (row : AuthActionTokenRow)
    (tenantId displayName : String) : Option UserEntity → UserEntity
  | none =>
    { id := draw.userId
      tenantId
      email := service.runtime.lower row.email
      passwordHash := draw.passwordHash
      displayName
      userType := .member
      status := .active
      emailVerifiedAt := some call.now
      mfaEnabled := false }
  | some user =>
    { user with
      passwordHash := draw.passwordHash
      displayName
      status := .active
      emailVerifiedAt := some (user.emailVerifiedAt.getD call.now) }

def assertAccount (db : AuthDb) (draw : AcceptanceDraw) : Option UserEntity → Except Exception Unit
  | none => failIf (db.users.find draw.userId ≠ none) (.database "users_pkey")
  | some user =>
    failIf (user.userType = .platformOwner ∧
      ∃ other ∈ db.users.rows, other.id ≠ user.id ∧ other.userType = .platformOwner ∧ other.status = .active)
      (.database "ux_users_single_platform_owner")

def acceptedMembership (call : AuthCall) (draw : AcceptanceDraw) (tenantId userId roleId : String) :
    Option TenantMembershipRow → TenantMembershipRow
  | none => ⟨draw.membershipId, tenantId, userId, roleId, .active, call.now⟩
  | some row => { row with roleId, status := .active }

structure InvitationAcceptanceRow where
  userId : String
  tenantId : String
  email : String
  displayName : String
  roleCode : String

def acceptedTables (service : AuthService) (call : AuthCall) (draw : AcceptanceDraw) (displayName : Option String)
    (row : AuthActionTokenRow) (tenantId : String) (role : RoleEntity) (tables : AuthTables) : AuthTables :=
  let user := acceptedUser service call draw row tenantId (inviteDisplayName row displayName)
    (invitedUser service tables.auth row.email)
  { auth :=
      { tables.auth with
        users := tables.auth.users.put user
        memberships := tables.auth.memberships.put
          (acceptedMembership call draw tenantId user.id role.id (tables.auth.memberships.find (tenantId, user.id))) }
    actionTokens := tables.actionTokens.update row.id
      (fun row =>
        { row with
          consumedAt := some call.now
          userId := some user.id }) fun _ => rfl }

def consumeInviteAcceptanceAction (service : AuthService) (call : AuthCall) (draw : AcceptanceDraw)
    (tokenHash : String) (displayName : Option String) : Transaction AuthTables Exception InvitationAcceptanceRow := do
  failIf (call.userId ≠ "anonymous") (.database "Invitation acceptance is only available before authentication")
  failIf (JsText.includes call.path "/auth/invitations/accept" = false)
    (.database "Invitation tokens are only consumed on invitation acceptance routes")
  let tables ← current
  match openAction tables .inviteAcceptance tokenHash call.now with
  | none => fail (.database "Invalid or expired invitation token")
  | some row =>
    match nonEmpty row.tenantId with
    | none => fail (.database "Invitation tenant is missing")
    | some tenantId =>
      match service.authorization.roles.find? fun role => role.tenantId = tenantId ∧ role.code = inviteRoleCode row with
      | none => fail (.database "Invitation role is not available")
      | some role => do
        let found := invitedUser service tables.auth row.email
        assertAccount tables.auth draw found
        write (acceptedTables service call draw displayName row tenantId role)
        return {
          userId := (acceptedUser service call draw row tenantId (inviteDisplayName row displayName) found).id
          tenantId
          email := service.runtime.lower row.email
          displayName := inviteDisplayName row displayName
          roleCode := inviteRoleCode row }

def acceptInvitation (service : AuthService) (call : AuthCall) (draw : AcceptanceDraw) (dto : AcceptInvitationDto) :
    Transaction AuthTables Exception InvitationAcceptanceResponseDto := do
  let accepted ← mapError
    (unauthorizedFor "Invalid or expired invitation token" "Invalid or expired invitation token")
    (consumeInviteAcceptanceAction service call draw (hashToken service (JsText.trim dto.token))
      (nonEmpty (dto.displayName.map JsText.trim)))
  return {
    success := true
    message := "Invitation accepted. You can now sign in."
    tenantId := accepted.tenantId
    email := accepted.email
    displayName := accepted.displayName
    role := accepted.roleCode }

theorem insertActionToken_ok {result : Unit}
    (inserted : (insertActionToken row).run tables = .ok (result, after)) :
    (∀ other ∈ tables.actionTokens.rows, other.tokenHash ≠ row.tokenHash) ∧
      ∃ fresh, after = { tables with actionTokens := tables.actionTokens.insert row fresh } := by
  unfold insertActionToken at inserted
  simp only [run_bind_ok, run_current_ok, run_failIf_ok] at inserted
  obtain ⟨_, _, ⟨rfl, rfl⟩, _, _, ⟨unused, rfl⟩, inserted⟩ := inserted
  split at inserted
  · simp at inserted
  · next actionTokens accepted =>
    rw [run_write_ok] at inserted
    subst inserted
    obtain ⟨fresh, rfl⟩ := (tryInsert_eq_some _).mp accepted
    exact ⟨fun other member same => unused ⟨other, member, same⟩, fresh, rfl⟩

theorem inviteTenantUser_ok
    {dto : CreateTenantInvitationDto} {response : TenantInvitationResponseDto}
    (invited : (inviteTenantUser service mail call dto).run tables = .ok (response, after)) :
    ∃ row, row.tokenHash = hashToken service mail.token ∧
      (∀ other ∈ tables.actionTokens.rows, other.tokenHash ≠ row.tokenHash) ∧
      ∃ fresh, after =
        { tables with
          actionTokens := (tables.actionTokens.modify
            (consumePending service response.tenantId response.email call.now)
            (consumePending_id service response.tenantId response.email call.now)).insert row fresh } := by
  unfold inviteTenantUser createInvitationAction at invited
  simp only [run_bind_ok, run_lift_ok, run_failIf_ok, run_write_ok, run_pure_ok] at invited
  obtain ⟨_, _, ⟨_, rfl⟩, tenantId, _, ⟨_, rfl⟩, roleCode, _, ⟨_, rfl⟩, _, _, ⟨_, rfl⟩, _, _, ⟨_, rfl⟩, _, _,
    ⟨_, _, rfl, _, _, inserted, _, _, ⟨_, rfl⟩, rfl, rfl⟩, rfl, rfl⟩ := invited
  obtain ⟨unused, fresh, rfl⟩ := insertActionToken_ok inserted
  refine ⟨_, rfl, ?_, fresh, rfl⟩
  intro other member
  have kept := unused _ (List.mem_map.mpr ⟨other, member, rfl⟩)
  unfold consumePending at kept
  split at kept
  · exact kept
  · exact kept

theorem pendingInvitation_of_ok {tenantId : String}
    (loaded : loadPendingTenantInvitationForUpdate tables invitationId tenantId = .ok row) :
    row ∈ tables.actionTokens.rows ∧ isOpenInvitation invitationId tenantId row := by
  unfold loadPendingTenantInvitationForUpdate at loaded
  split at loaded
  · simp at loaded
  · next found pending =>
    rw [Outcome.pure_ok] at loaded
    subst loaded
    obtain ⟨present, isOpen⟩ := Option.filter_eq_some_iff.mp pending
    exact ⟨((find_eq_some _).mp present).1, by simpa using isOpen⟩

theorem resendTenantInvitation_ok
    (resent : (resendTenantInvitation service mail call invitationId).run tables = .ok (response, after)) :
    ∃ row ∈ tables.actionTokens.rows, ∃ roleCode, row.id = invitationId ∧ row.consumedAt = none ∧
      (∀ other ∈ tables.actionTokens.rows, other.id ≠ invitationId → other.tokenHash ≠ hashToken service mail.token) ∧
      after =
        { tables with
          actionTokens := tables.actionTokens.update invitationId (resentInvitation service mail call roleCode)
            fun _ => rfl } := by
  unfold resendTenantInvitation at resent
  simp only [run_bind_ok, run_lift_ok, run_current_ok, run_failIf_ok, run_write_ok, run_pure_ok] at resent
  obtain ⟨_, _, ⟨_, rfl⟩, tenantId, _, ⟨_, rfl⟩, _, _, ⟨rfl, rfl⟩, row, _, ⟨loaded, rfl⟩, roleCode, _, ⟨_, rfl⟩,
    _, _, ⟨unused, rfl⟩, _, _, rfl, _, _, ⟨_, rfl⟩, rfl, rfl⟩ := resent
  obtain ⟨member, isOpen⟩ := pendingInvitation_of_ok loaded
  exact ⟨row, member, roleCode, isOpen.1, isOpen.2.2.2.1,
    fun other present differs same => unused ⟨other, present, differs, same⟩, rfl⟩

theorem revokeTenantInvitation_ok
    (revoked : (revokeTenantInvitation call invitationId).run tables = .ok (response, after)) :
    after =
      { tables with
        actionTokens := tables.actionTokens.update invitationId
          (fun row => { row with consumedAt := some call.now }) fun _ => rfl } := by
  unfold revokeTenantInvitation at revoked
  simp only [run_bind_ok, run_lift_ok, run_current_ok, run_write_ok, run_pure_ok] at revoked
  obtain ⟨_, _, ⟨_, rfl⟩, _, _, ⟨rfl, rfl⟩, _, _, ⟨_, rfl⟩, _, _, rfl, rfl, rfl⟩ := revoked
  rfl

theorem acceptInvitation_ok {draw : AcceptanceDraw}
    {dto : AcceptInvitationDto} {response : InvitationAcceptanceResponseDto}
    (accepted : (acceptInvitation service call draw dto).run tables = .ok (response, after)) :
    ∃ row tenantId role, openAction tables .inviteAcceptance (hashToken service (JsText.trim dto.token)) call.now =
        some row ∧ row.tenantId = some tenantId ∧
      assertAccount tables.auth draw (invitedUser service tables.auth row.email) = .ok () ∧
      after = acceptedTables service call draw (nonEmpty (dto.displayName.map JsText.trim)) row tenantId role tables := by
  unfold acceptInvitation consumeInviteAcceptanceAction at accepted
  simp only [run_bind_ok, run_mapError_ok, run_failIf_ok, run_current_ok, run_pure_ok] at accepted
  obtain ⟨_, _, ⟨_, _, ⟨_, rfl⟩, _, _, ⟨_, rfl⟩, _, _, ⟨rfl, rfl⟩, consumed⟩, rfl, rfl⟩ := accepted
  split at consumed
  · simp at consumed
  · next row found =>
    split at consumed
    · simp at consumed
    · next tenantId named =>
      split at consumed
      · simp at consumed
      · next role _ =>
        simp only [run_bind_ok, run_lift_ok, run_write_ok, run_pure_ok] at consumed
        obtain ⟨_, _, ⟨allowed, rfl⟩, _, _, rfl, rfl, rfl⟩ := consumed
        exact ⟨row, tenantId, role, found, (Option.filter_eq_some_iff.mp named).1, allowed, rfl⟩

theorem acceptedMembership_status (call : AuthCall) (draw : AcceptanceDraw) (tenantId userId roleId : String)
    (found : Option TenantMembershipRow) :
    (acceptedMembership call draw tenantId userId roleId found).status = .active := by
  cases found <;> rfl

theorem acceptedMembership_key (call : AuthCall) (draw : AcceptanceDraw) (db : AuthDb)
    (tenantId userId roleId : String) :
    let row := acceptedMembership call draw tenantId userId roleId (db.memberships.find (tenantId, userId))
    (row.tenantId, row.userId) = (tenantId, userId) := by
  cases found : db.memberships.find (tenantId, userId) with
  | none => rfl
  | some row => exact ((find_eq_some _).mp found).2

theorem acceptedUser_status (service : AuthService) (call : AuthCall) (draw : AcceptanceDraw)
    (row : AuthActionTokenRow) (tenantId displayName : String) (found : Option UserEntity) :
    (acceptedUser service call draw row tenantId displayName found).status = .active := by
  cases found <;> rfl

end ShuleHub.Auth
