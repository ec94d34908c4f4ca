import ShuleHub.Auth.Invitations
import ShuleHub.Lib.OpenTransactions
import ShuleHub.Lib.Uuids

/-! The mails that carry a token. A request writes the token and a row of the outbox, hands the mail to the gateway
and tells the outbox what became of it, all of it while its transaction is open. -/

namespace ShuleHub.Auth

open Transaction JsText KeyedTable Outcome OpenTransaction

inductive EmailOutboxStatus where
  | pending
  | processing
  | sent
  | failed
deriving DecidableEq

structure AuthEmailOutboxRow where
  id : String
  tenantId : Option String
  userId : Option String
  recipientEmail : String
  template : ActionPurpose
  subject : String
  status : EmailOutboxStatus
  attempts : Nat
  nextAttemptAt : Int
  sentAt : Option Int
deriving DecidableEq

structure MailTables extends AuthTables where
  outbox : KeyedTable AuthEmailOutboxRow String (·.id)
deriving DecidableEq

/-- What `fetch` comes to: a response that is `ok` or not, or none. -/
inductive GatewayResponse where
  | accepted
  | refused
  | unreachable
deriving DecidableEq

structure GatewayCall where
  recipient : String
  purpose : ActionPurpose
  token : String
  response : GatewayResponse
deriving DecidableEq

/-- Whether the mailer is configured, how long a token lives, the token and the ids that are drawn, and what the
gateway answers. -/
structure MailDraw where
  configured : Bool
  ttlMs : Nat
  token : String
  tokenId : String
  outboxId : String
  gateway : GatewayResponse

abbrev MailRequest := Effect (OpenTransaction MailTables (List GatewayCall)) Exception

namespace Mailing

variable (service : AuthService) (call : AuthCall) (auth : AuthDb)

def transactionAborted : Exception :=
  .database "current transaction is aborted, commands ignored until end of transaction block"

def query {Result : Type} (statement : Transaction MailTables Exception Result) : MailRequest Result :=
  OpenTransaction.query transactionAborted statement

def assertConfigured (draw : MailDraw) (message : String) : Except Exception Unit :=
  failIf (draw.configured = false) (.serviceUnavailable message)

def gatewayOutcome (unsent : String) : GatewayResponse → Except Exception Unit
  | .accepted => pure ()
  | .refused => fail (.serviceUnavailable unsent)
  | .unreachable => fail (.internal "fetch failed")

def sendEmail (draw : MailDraw) (purpose : ActionPurpose) (unconfigured unsent recipient : String) : MailRequest Unit := do
  assertConfigured draw unconfigured
  OpenTransaction.onOutside (· ++ [⟨recipient, purpose, draw.token, draw.gateway⟩])
  gatewayOutcome unsent draw.gateway

def sendPasswordRecoveryEmail (draw : MailDraw) (recipient : String) : MailRequest Unit :=
  sendEmail draw .passwordRecovery
    "Password recovery is temporarily unavailable. Please contact support if you need immediate access."
    "Password recovery email could not be sent right now." recipient

def sendInvitationEmail (draw : MailDraw) (recipient : String) : MailRequest Unit :=
  sendEmail draw .inviteAcceptance "School invitation email could not be sent right now."
    "School invitation email could not be sent right now." recipient

def sendEmailVerificationEmail (draw : MailDraw) (recipient : String) : MailRequest Unit :=
  sendEmail draw .emailVerification "Email verification email could not be sent right now."
    "Email verification email could not be sent right now." recipient

def outboxRow (draw : MailDraw) (call : AuthCall) (tenantId userId : Option String) (recipientEmail : String)
    (template : ActionPurpose) (subject : String) : AuthEmailOutboxRow where
  id := draw.outboxId
  tenantId
  userId
  recipientEmail
  template
  subject
  status := .pending
  attempts := 0
  nextAttemptAt := call.now
  sentAt := none

def insertOutbox (row : AuthEmailOutboxRow) : Transaction MailTables Exception Unit := do
  let tables ← current
  match tables.outbox.tryInsert row with
  | none => fail (.database "auth_email_outbox_pkey")
  | some outbox => write fun tables => { tables with outbox }

def authEmailRoutes : List String :=
  ["/auth/password-recovery/request", "/auth/email-verification/request", "/auth/invitations/accept",
    "/platform/schools"]

def markedDelivery (status : EmailOutboxStatus) (now : Int) (row : AuthEmailOutboxRow) : AuthEmailOutboxRow :=
  { row with
    status
    attempts := row.attempts + 1
    sentAt := if status = .sent then some now else row.sentAt
    nextAttemptAt := if status = .failed then now + 10 * 60 * 1000 else row.nextAttemptAt }

def MayMark (path : String) : Prop := ∃ route ∈ authEmailRoutes, JsText.includes path route = true
deriving Decidable

def markAuthEmailOutboxDelivery (outboxId : String) (status : EmailOutboxStatus) :
    Transaction MailTables Exception Unit := do
  failIf (¬ MayMark call.path)
    (.database "Email outbox delivery status can only be updated by auth email routes")
  failIf (status ≠ .sent ∧ status ≠ .failed) (.database "Unsupported email outbox status")
  write fun tables =>
    { tables with outbox := tables.outbox.update outboxId (markedDelivery status call.now) fun _ => rfl }

def markOutboxDelivery (outboxId : String) (status : EmailOutboxStatus) : MailRequest Unit :=
  query (markAuthEmailOutboxDelivery call outboxId status)

/-- The `try` around the mail: what fails in it is marked as a failed delivery and thrown again. -/
def deliver (draw : MailDraw) (send : MailRequest Unit) : MailRequest Unit :=
  Effect.onFailure
    (do
      send
      markOutboxDelivery call draw.outboxId .sent)
    (markOutboxDelivery call draw.outboxId .failed)

def invitationMail (draw : MailDraw) : InvitationMail :=
  { configured := draw.configured
    ttlMs := draw.ttlMs
    token := draw.token
    id := draw.tokenId
    delivery := gatewayOutcome "School invitation email could not be sent right now." draw.gateway }

def invitationsUnavailable : String :=
  "User invitations are temporarily unavailable. Please configure transactional email before inviting school users."

def onAuthTables {Result : Type} (statement : Transaction AuthTables Exception Result) :
    Transaction MailTables Exception Result :=
  Transaction.zoom (·.toAuthTables) (fun tables toAuthTables => { tables with toAuthTables }) statement

def invitationOutbox (draw : MailDraw) (call : AuthCall) (tenantId email : String) : AuthEmailOutboxRow :=
  outboxRow draw call (some tenantId) none email .inviteAcceptance "You have been invited to ShuleHub ERP"

def consumePendingInvitations (tenantId email : String) (now : Int) :
    Transaction AuthTables Exception Unit :=
  write fun tables =>
    { tables with
      actionTokens := tables.actionTokens.modify (consumePending service tenantId email now)
        (consumePending_id service tenantId email now) }

def createInvitationAction (draw : MailDraw) (tenantId email : String)
    (row : AuthActionTokenRow) : MailRequest String := do
  query (onAuthTables (consumePendingInvitations service tenantId email call.now))
  query (onAuthTables (insertActionToken row))
  query (insertOutbox (invitationOutbox draw call tenantId email))
  deliver call draw (sendInvitationEmail draw email)
  return row.id

def inviteTenantUser (draw : MailDraw) (dto : CreateTenantInvitationDto) :
    MailRequest TenantInvitationResponseDto := do
  assertConfigured draw invitationsUnavailable
  let tenantId ← requireTenantId call
  let roleCode ← normalizeRoleCode service dto.roleCode
  let email := service.runtime.lower (JsText.trim dto.email)
  let displayName := JsText.trim dto.displayName
  failIf (displayName = "") (.badRequest "Invitee display name is required.")
  let _ ← service.authorization.getRoleByCode tenantId roleCode
  let row := invitationRow service (invitationMail draw) call tenantId email roleCode displayName
  let invitationId ← createInvitationAction service call draw tenantId email row
  return {
    id := invitationId
    tenantId
    email
    displayName
    roleCode
    invitationSent := true
    expiresAt := row.expiresAt }

def loadPendingTenantInvitation (invitationId tenantId : String) : Transaction AuthTables Exception AuthActionTokenRow := do
  let id ← required (Uuid.cast invitationId)
    (.database ("invalid input syntax for type uuid: \"" ++ invitationId ++ "\""))
  let tables ← current
  loadPendingTenantInvitationForUpdate tables id tenantId

def updateResentInvitation (draw : MailDraw) (roleCode : String)
    (row : AuthActionTokenRow) : Transaction AuthTables Exception Unit := do
  let tables ← current
  failIf (∃ other ∈ tables.actionTokens.rows, other.id ≠ row.id ∧ other.tokenHash = hashToken service draw.token)
    (.database "ux_auth_action_tokens_hash")
  write fun tables =>
    { tables with
      actionTokens := tables.actionTokens.update row.id
        (resentInvitation service (invitationMail draw) call roleCode) fun _ => rfl }

def resendTenantInvitation (draw : MailDraw) (invitationId : String) :
    MailRequest TenantInvitationActionResponseDto := do
  assertConfigured draw invitationsUnavailable
  let tenantId ← requireTenantId call
  let row ← query (onAuthTables (loadPendingTenantInvitation invitationId tenantId))
  let roleCode ← normalizeRoleCode service ((nonEmpty row.metadata.roleCode).getD "member")
  query (onAuthTables (updateResentInvitation service call draw roleCode row))
  let email := service.runtime.lower row.email
  query (insertOutbox (invitationOutbox draw call tenantId email))
  deliver call draw (sendInvitationEmail draw email)
  return {
    id := invitationId
    invitationSent := some true
    expiresAt := some (call.now + draw.ttlMs)
    status := none }

def consumeOpen (userId : String) (purpose : ActionPurpose) (now : Int) (row : AuthActionTokenRow) :
    AuthActionTokenRow :=
  if row.userId = some userId ∧ row.purpose = purpose ∧ row.consumedAt = none then { row with consumedAt := some now }
  else row

theorem consumeOpen_id (userId : String) (purpose : ActionPurpose) (now : Int) (row : AuthActionTokenRow) :
    (consumeOpen userId purpose now row).id = row.id := by
  unfold consumeOpen
  split <;> rfl

def accountTokenRow (draw : MailDraw) (user : UserEntity)
    (purpose : ActionPurpose) (payloadPurpose : String) : AuthActionTokenRow where
  id := draw.tokenId
  tenantId := some user.tenantId
  userId := some user.id
  email := service.runtime.lower user.email
  purpose
  tokenHash := hashToken service draw.token
  metadata := ⟨some payloadPurpose, none, some user.displayName⟩
  expiresAt := call.now + draw.ttlMs
  consumedAt := none

def createAccountAction (userId : String) (row : AuthActionTokenRow) (outbox : AuthEmailOutboxRow) :
    Transaction MailTables Exception Unit := do
  onAuthTables (write fun tables =>
    { tables with
      actionTokens := tables.actionTokens.modify (consumeOpen userId row.purpose call.now)
        (consumeOpen_id userId row.purpose call.now) })
  onAuthTables (insertActionToken row)
  insertOutbox outbox

def createPasswordRecoveryAction (draw : MailDraw) (user : UserEntity) :
    Transaction MailTables Exception Unit := do
  failIf (call.userId ≠ "anonymous") (.database "Password recovery is only available before authentication")
  failIf (JsText.includes call.path "/auth/password-recovery/request" = false)
    (.database "Password recovery tokens are only issued on recovery routes")
  createAccountAction call user.id (accountTokenRow service call draw user .passwordRecovery "password_recovery")
    (outboxRow draw call (some user.tenantId) (some user.id) (service.runtime.lower user.email) .passwordRecovery
      "Reset your ShuleHub ERP password")

def createEmailVerificationAction (draw : MailDraw) (user : UserEntity) :
    Transaction MailTables Exception Unit := do
  failIf (call.userId = "anonymous" ∨ call.userId ≠ user.id)
    (.database "Email verification can only be requested by the current user")
  failIf (JsText.includes call.path "/auth/email-verification/request" = false)
    (.database "Email verification tokens are only issued on verification routes")
  createAccountAction call user.id (accountTokenRow service call draw user .emailVerification "email_verification")
    (outboxRow draw call (some user.tenantId) (some user.id) (service.runtime.lower user.email) .emailVerification
      "Verify your ShuleHub ERP email address")

structure RequestPasswordRecoveryDto where
  email : String
  audience : Option AuthAudience

def recoveryAccount (email : String) (audience : AuthAudience)
    (tenantId : Option String) (ownerEmail : String) : Option UserEntity :=
  let normalizedEmail := service.runtime.lower email
  if audience = .superadmin then
    if ownerEmail = "" ∨ normalizedEmail ≠ service.runtime.lower ownerEmail then none
    else auth.users.rows.find? fun user =>
      service.runtime.lower user.email = normalizedEmail ∧ isPlatformOwner user ∧ user.status = .active
  else
    (nonEmpty tenantId).bind fun tenantId => auth.users.rows.find? fun user =>
      service.runtime.lower user.email = normalizedEmail ∧ user.tenantId = tenantId ∧ user.status = .active

def findUserForPasswordRecovery (email : String)
    (audience : AuthAudience) (tenantId : Option String) (ownerEmail : String) : Except Exception (Option UserEntity) := do
  failIf (call.userId ≠ "anonymous") (.database "Password recovery is only available before authentication")
  failIf (JsText.includes call.path "/auth/password-recovery/request" = false)
    (.database "Password recovery lookup is only available on recovery routes")
  return recoveryAccount service auth email audience tenantId ownerEmail

def ownerEmail : String :=
  (service.config.systemOwnerEmail.map fun email => service.runtime.lower (JsText.trim email)).getD ""

def eligibleAccount (dto : RequestPasswordRecoveryDto) (auth : AuthDb) :
    Option UserEntity :=
  let audience := dto.audience.getD .school
  let tenantId := if audience = .superadmin then none else call.tenantId
  recoveryAccount service auth (service.runtime.lower (JsText.trim dto.email)) audience tenantId (ownerEmail service)

def findRecoveryUser (dto : RequestPasswordRecoveryDto) :
    Transaction MailTables Exception (Option UserEntity) := do
  let audience := dto.audience.getD .school
  let email := service.runtime.lower (JsText.trim dto.email)
  let tenantId := if audience = .superadmin then none else call.tenantId
  let tables ← current
  findUserForPasswordRecovery service call tables.auth email audience tenantId (ownerEmail service)

def genericRecoveryMessage : String :=
  "If the account is eligible, password recovery instructions have been sent."

def requestPasswordRecovery (draw : MailDraw)
    (dto : RequestPasswordRecoveryDto) : MailRequest AuthActionResponseDto := do
  assertConfigured draw
    "Password recovery is temporarily unavailable. Please contact support if you need immediate access."
  match ← query (findRecoveryUser service call dto) with
  | none => return ⟨true, genericRecoveryMessage⟩
  | some user => do
    query (createPasswordRecoveryAction service call draw user)
    deliver call draw (sendPasswordRecoveryEmail draw user.email)
    return ⟨true, genericRecoveryMessage⟩

def currentUser : Option UserEntity :=
  (findById service call auth call.userId).filter (·.status = .active)

def findCurrentUser : Transaction MailTables Exception (Option UserEntity) := do
  let tables ← current
  return currentUser service call tables.auth

def requestEmailVerification (draw : MailDraw) :
    MailRequest AuthActionResponseDto := do
  assertConfigured draw
    "Email verification is temporarily unavailable. Please contact support if you need immediate access."
  failIf (call.userId = "") (.unauthorized "Authentication is required to verify email")
  match ← query (findCurrentUser service call) with
  | none => fail (.unauthorized "Authentication is required to verify email")
  | some user =>
    if user.emailVerifiedAt.isSome then return ⟨true, "Email is already verified."⟩
    else do
      query (createEmailVerificationAction service call draw user)
      deliver call draw (sendEmailVerificationEmail draw user.email)
      return ⟨true, "Email verification instructions have been sent."⟩

/-- `plpgsql.variable_conflict` of the server: what it makes of a name in a statement that is both a column and a
variable of the function. -/
inductive VariableConflict where
  | error
  | useVariable
  | useColumn
deriving DecidableEq

def verifiedUser (tables : AuthTables) (token : AuthActionTokenRow) : Option UserEntity :=
  (token.userId.bind tables.auth.users.find).filter fun user =>
    service.runtime.lower user.email = service.runtime.lower token.email ∧ user.status = .active

/-- `app.consume_email_verification_action`. It returns a column `email`, a variable in its body that is null, and
its `UPDATE` of the users names their column `email`. -/
def consumeEmailVerificationAction (conflict : VariableConflict) (service : AuthService) (call : AuthCall)
    (tokenHash : String) : Transaction AuthTables Exception PasswordRecoveryRow := do
  failIf (call.userId ≠ "anonymous") (.database "Email verification is only available before authentication")
  failIf (JsText.includes call.path "/auth/email-verification/verify" = false)
    (.database "Email verification tokens are only consumed on verification routes")
  let tables ← current
  match openAction tables .emailVerification tokenHash call.now with
  | none => fail (.database "Invalid or expired email verification token")
  | some token =>
    match conflict with
    | .error => fail (.database "column reference \"email\" is ambiguous")
    | .useVariable => fail (.database "Invalid or expired email verification token")
    | .useColumn =>
      match verifiedUser service tables token with
      | none => fail (.database "Invalid or expired email verification token")
      | some user => do
        putUser { user with emailVerifiedAt := some (user.emailVerifiedAt.getD call.now) }
        putActionToken { token with consumedAt := some call.now }
        return ⟨token.userId, token.email, token.tenantId⟩

theorem run_onAuthTables {Result : Type} {statement : Transaction AuthTables Exception Result} {tables : MailTables}
    {result : Result} {after : AuthTables} (ran : statement.run tables.toAuthTables = .ok (result, after)) :
    (onAuthTables statement).run tables = .ok (result, { tables with toAuthTables := after }) :=
  run_zoom_ok.mpr ⟨after, ran, rfl⟩

theorem run_insertActionToken {row : AuthActionTokenRow} {tables : AuthTables}
    (hashes : ∀ other ∈ tables.actionTokens.rows, other.tokenHash ≠ row.tokenHash)
    (ids : ∀ other ∈ tables.actionTokens.rows, other.id ≠ row.id) :
    (insertActionToken row).run tables =
      .ok ((), { tables with actionTokens := tables.actionTokens.insert row ids }) := by
  have inserted : tables.actionTokens.tryInsert row = some (tables.actionTokens.insert row ids) :=
    (tryInsert_eq_some _).mpr ⟨ids, rfl⟩
  unfold insertActionToken
  rw [run_bind_ok]
  refine ⟨tables, tables, rfl, ?_⟩
  rw [run_bind_ok]
  refine ⟨(), tables, run_failIf_ok.mpr ⟨?_, rfl⟩, ?_⟩
  · rintro ⟨other, member, same⟩
    exact hashes other member same
  · rw [inserted]
    rfl

theorem run_insertOutbox {row : AuthEmailOutboxRow} {tables : MailTables}
    (ids : ∀ other ∈ tables.outbox.rows, other.id ≠ row.id) :
    (insertOutbox row).run tables = .ok ((), { tables with outbox := tables.outbox.insert row ids }) := by
  have inserted : tables.outbox.tryInsert row = some (tables.outbox.insert row ids) :=
    (tryInsert_eq_some _).mpr ⟨ids, rfl⟩
  unfold insertOutbox
  rw [run_bind_ok]
  refine ⟨tables, tables, rfl, ?_⟩
  rw [inserted]
  rfl

section Deliver

variable {call : AuthCall} {draw : MailDraw} {purpose : ActionPurpose} {unconfigured unsent recipient : String}
  {state : OpenTransaction MailTables (List GatewayCall)}
  {outboxId : String} {status : EmailOutboxStatus} {tables : MailTables}

def gatewayCall (draw : MailDraw) (purpose : ActionPurpose) (recipient : String) : GatewayCall :=
  ⟨recipient, purpose, draw.token, draw.gateway⟩

theorem run_sendEmail (configured : draw.configured = true) :
    (sendEmail draw purpose unconfigured unsent recipient).run state =
      ({ state with outside := state.outside ++ [gatewayCall draw purpose recipient] },
        gatewayOutcome unsent draw.gateway) := by
  have ready : assertConfigured draw unconfigured = .ok () := by simp [assertConfigured, failIf, configured, pure, Except.pure]
  unfold sendEmail
  rw [ready]
  rfl

theorem run_mark_of_route
    (marks : MayMark call.path) (known : status = .sent ∨ status = .failed) :
    (markAuthEmailOutboxDelivery call outboxId status).run tables =
      .ok ((), { tables with
        outbox := tables.outbox.update outboxId (markedDelivery status call.now) fun _ => rfl }) := by
  unfold markAuthEmailOutboxDelivery
  rw [run_bind_ok]
  refine ⟨(), tables, run_failIf_ok.mpr ⟨not_not.mpr marks, rfl⟩, ?_⟩
  rw [run_bind_ok]
  refine ⟨(), tables, run_failIf_ok.mpr ⟨?_, rfl⟩, rfl⟩
  rcases known with rfl | rfl
  · exact fun differs => differs.1 rfl
  · exact fun differs => differs.2 rfl

theorem run_mark_of_other
    (other : ¬ MayMark call.path) :
    (markAuthEmailOutboxDelivery call outboxId status).run tables =
      .error (.database "Email outbox delivery status can only be updated by auth email routes") := by
  unfold markAuthEmailOutboxDelivery
  rw [run_bind, run_failIf, if_pos other]

theorem run_deliver_of_accepted (configured : draw.configured = true) (accepted : draw.gateway = .accepted)
    (marks : MayMark call.path) (sound : state.aborted = false) :
    (deliver call draw (sendEmail draw purpose unconfigured unsent recipient)).run state =
      ({ db :=
          { state.db with
            outbox := state.db.outbox.update draw.outboxId (markedDelivery .sent call.now) fun _ => rfl }
         aborted := state.aborted
         outside := state.outside ++ [gatewayCall draw purpose recipient] }, .ok ()) := by
  apply Effect.run_onFailure_of_ok
  have sent : (sendEmail draw purpose unconfigured unsent recipient).run state =
      ({ state with outside := state.outside ++ [gatewayCall draw purpose recipient] },
        gatewayOutcome unsent draw.gateway) := run_sendEmail configured
  rw [accepted] at sent
  rw [Effect.run_bind_of_ok sent]
  exact run_query_of_ok sound (run_mark_of_route marks (.inl rfl))

theorem run_deliver_of_failed (configured : draw.configured = true)
    (failed : ¬ (draw.gateway = .accepted ∧ MayMark call.path)) (sound : state.aborted = false) :
    ∃ after error, (deliver call draw (sendEmail draw purpose unconfigured unsent recipient)).run state =
        (after, .error error) ∧ after.outside = state.outside ++ [gatewayCall draw purpose recipient] := by
  have sent : (sendEmail draw purpose unconfigured unsent recipient).run state =
      ({ state with outside := state.outside ++ [gatewayCall draw purpose recipient] },
        gatewayOutcome unsent draw.gateway) := run_sendEmail configured
  have noted : ∀ middle : OpenTransaction MailTables (List GatewayCall),
      middle.outside = state.outside ++ [gatewayCall draw purpose recipient] →
        ((markOutboxDelivery call draw.outboxId .failed).run middle).1.outside =
          state.outside ++ [gatewayCall draw purpose recipient] :=
    fun middle same => (keeps_query _ _ middle).trans same
  have throws : ∃ middle error, (sendEmail draw purpose unconfigured unsent recipient >>= fun _ =>
      markOutboxDelivery call draw.outboxId .sent).run state = (middle, .error error) ∧
        middle.outside = state.outside ++ [gatewayCall draw purpose recipient] := by
    cases response : draw.gateway with
    | accepted =>
      have other : ¬ MayMark call.path := fun marks => failed ⟨response, marks⟩
      rw [response] at sent
      rw [Effect.run_bind_of_ok sent]
      refine ⟨_, _, run_query_of_error sound (run_mark_of_other other), rfl⟩
    | refused =>
      rw [response] at sent
      exact ⟨_, _, Effect.run_bind_of_error sent, rfl⟩
    | unreachable =>
      rw [response] at sent
      exact ⟨_, _, Effect.run_bind_of_error sent, rfl⟩
  obtain ⟨middle, error, threw, same⟩ := throws
  obtain ⟨last, ran⟩ : ∃ last, (deliver call draw (sendEmail draw purpose unconfigured unsent recipient)).run state =
      (((markOutboxDelivery call draw.outboxId .failed).run middle).1, .error last) :=
    Effect.run_onFailure_of_error threw
  exact ⟨_, last, ran, noted middle same⟩

end Deliver

theorem assertConfigured_ok {draw : MailDraw} {message : String} (configured : draw.configured = true) :
    assertConfigured draw message = .ok () := by
  unfold assertConfigured
  rw [failIf_ok, configured]
  simp

section Writing

variable {service : AuthService} {call : AuthCall} {draw : MailDraw} {tables : MailTables} {row : AuthActionTokenRow}
  {tenantId email : String} {after : MailTables} {auth : AuthDb} {user : UserEntity}
  {dto : RequestPasswordRecoveryDto} {result : Unit}

theorem consumePending_tokenHash (tenantId email : String) (now : Int) (row : AuthActionTokenRow) :
    (consumePending service tenantId email now row).tokenHash = row.tokenHash := by
  unfold consumePending
  split <;> rfl

theorem consumeOpen_tokenHash (userId : String) (purpose : ActionPurpose) (now : Int) (row : AuthActionTokenRow) :
    (consumeOpen userId purpose now row).tokenHash = row.tokenHash := by
  unfold consumeOpen
  split <;> rfl

theorem new_of_modify {tokens : ActionTokenTable} {change : AuthActionTokenRow → AuthActionTokenRow}
    (kept : ∀ row, (change row).id = row.id) (hashKept : ∀ row, (change row).tokenHash = row.tokenHash)
    (hashes : ∀ other ∈ tokens.rows, other.tokenHash ≠ row.tokenHash) (ids : ∀ other ∈ tokens.rows, other.id ≠ row.id) :
    (∀ other ∈ (tokens.modify change kept).rows, other.tokenHash ≠ row.tokenHash) ∧
      ∀ other ∈ (tokens.modify change kept).rows, other.id ≠ row.id := by
  constructor
  · intro other member
    rw [mem_modify] at member
    obtain ⟨before, stored, rfl⟩ := member
    rw [hashKept]
    exact hashes before stored
  · intro other member
    rw [mem_modify] at member
    obtain ⟨before, stored, rfl⟩ := member
    rw [kept]
    exact ids before stored

theorem run_createInvitationAction
    (hashes : ∀ other ∈ tables.actionTokens.rows, other.tokenHash ≠ row.tokenHash)
    (ids : ∀ other ∈ tables.actionTokens.rows, other.id ≠ row.id)
    (outboxIds : ∀ other ∈ tables.outbox.rows, other.id ≠ draw.outboxId) :
    ∃ db, (createInvitationAction service call draw tenantId email row).run (opened tables []) =
      (deliver call draw (sendInvitationEmail draw email) >>= fun _ => pure row.id).run (opened db []) := by
  let consumed : AuthTables :=
    { tables.toAuthTables with
      actionTokens := tables.actionTokens.modify (consumePending service tenantId email call.now)
        (consumePending_id service tenantId email call.now) }
  obtain ⟨hashesLeft, idsLeft⟩ : (∀ other ∈ consumed.actionTokens.rows, other.tokenHash ≠ row.tokenHash) ∧
      ∀ other ∈ consumed.actionTokens.rows, other.id ≠ row.id :=
    new_of_modify (consumePending_id service tenantId email call.now)
      (consumePending_tokenHash tenantId email call.now) hashes ids
  have used : (onAuthTables (consumePendingInvitations service tenantId email call.now)).run tables =
      .ok ((), { tables with toAuthTables := consumed }) := run_onAuthTables (run_write _ _)
  let added : AuthTables := { consumed with actionTokens := consumed.actionTokens.insert row idsLeft }
  have inserted : (onAuthTables (insertActionToken row)).run { tables with toAuthTables := consumed } =
      .ok ((), { tables with toAuthTables := added }) := run_onAuthTables (run_insertActionToken hashesLeft idsLeft)
  obtain ⟨db, queued⟩ : ∃ db, (insertOutbox (invitationOutbox draw call tenantId email)).run
      { tables with toAuthTables := added } = .ok ((), db) := ⟨_, run_insertOutbox outboxIds⟩
  refine ⟨db, ?_⟩
  unfold createInvitationAction query
  rw [run_bind_query used, run_bind_query inserted,
    run_bind_query queued]

theorem run_loadPendingTenantInvitation {invitationId : String} {tables after : AuthTables} :
    (loadPendingTenantInvitation invitationId tenantId).run tables = .ok (row, after) ↔
      ∃ id, Uuid.cast invitationId = some id ∧ pendingInvitation tables id tenantId = some row ∧ tables = after := by
  unfold loadPendingTenantInvitation loadPendingTenantInvitationForUpdate
  simp only [run_bind_ok, run_required_ok, run_current_ok, run_lift_ok]
  constructor
  · rintro ⟨id, _, ⟨casts, rfl⟩, _, _, ⟨rfl, rfl⟩, loaded, same⟩
    split at loaded
    · cases loaded
    · next found pending =>
      cases loaded
      exact ⟨id, casts, pending, same⟩
  · rintro ⟨id, casts, pending, same⟩
    refine ⟨id, tables, ⟨casts, rfl⟩, tables, tables, ⟨rfl, rfl⟩, ?_, same⟩
    rw [pending]
    rfl

theorem run_updateResentInvitation {roleCode : String} {tables : AuthTables}
    (hashes : ∀ other ∈ tables.actionTokens.rows, other.tokenHash ≠ hashToken service draw.token) :
    ∃ after, (updateResentInvitation service call draw roleCode row).run tables = .ok ((), after) := by
  unfold updateResentInvitation
  refine ⟨_, run_bind_ok.mpr ⟨tables, tables, rfl, run_bind_ok.mpr ⟨(), tables, ?_, rfl⟩⟩⟩
  apply run_failIf_ok.mpr
  refine ⟨?_, rfl⟩
  rintro ⟨other, member, -, same⟩
  exact hashes other member same

structure Carries (db : AuthTables) (auth : AuthDb) (row : AuthActionTokenRow) : Prop where
  auth : db.auth = auth
  member : row ∈ db.actionTokens.rows
  only : ∀ other ∈ db.actionTokens.rows, other.tokenHash = row.tokenHash → other = row

theorem run_createAccountAction {userId : String} {outbox : AuthEmailOutboxRow}
    (hashes : ∀ other ∈ tables.actionTokens.rows, other.tokenHash ≠ row.tokenHash)
    (ids : ∀ other ∈ tables.actionTokens.rows, other.id ≠ row.id)
    (outboxIds : ∀ other ∈ tables.outbox.rows, other.id ≠ outbox.id) :
    ∃ db, (createAccountAction call userId row outbox).run tables = .ok ((), db) ∧
      Carries db.toAuthTables tables.auth row := by
  let consumed : AuthTables :=
    { tables.toAuthTables with
      actionTokens := tables.actionTokens.modify (consumeOpen userId row.purpose call.now)
        (consumeOpen_id userId row.purpose call.now) }
  obtain ⟨hashesLeft, idsLeft⟩ : (∀ other ∈ consumed.actionTokens.rows, other.tokenHash ≠ row.tokenHash) ∧
      ∀ other ∈ consumed.actionTokens.rows, other.id ≠ row.id :=
    new_of_modify (consumeOpen_id userId row.purpose call.now) (consumeOpen_tokenHash userId row.purpose call.now)
      hashes ids
  let added : AuthTables := { consumed with actionTokens := consumed.actionTokens.insert row idsLeft }
  have inserted : (onAuthTables (insertActionToken row)).run { tables with toAuthTables := consumed } =
      .ok ((), { tables with toAuthTables := added }) := run_onAuthTables (run_insertActionToken hashesLeft idsLeft)
  let queued : MailTables := ⟨added, tables.outbox.insert outbox outboxIds⟩
  have wrote : (insertOutbox outbox).run { tables with toAuthTables := added } = .ok ((), queued) :=
    @run_insertOutbox outbox { tables with toAuthTables := added } outboxIds
  refine ⟨queued, run_bind_ok.mpr ⟨(), { tables with toAuthTables := consumed }, run_onAuthTables (run_write _ _),
    run_bind_ok.mpr ⟨(), _, inserted, wrote⟩⟩, rfl, ?_, ?_⟩
  · change row ∈ (consumed.actionTokens.insert row idsLeft).rows
    exact mem_insert.mpr (.inr rfl)
  · intro other member same
    change other ∈ (consumed.actionTokens.insert row idsLeft).rows at member
    rcases mem_insert.mp member with earlier | rfl
    · exact absurd same (hashesLeft other earlier)
    · rfl

theorem recoveryAccount_eq_some {ownerEmail : String} {audience : AuthAudience}
    {tenantId : Option String}
    (found : recoveryAccount service auth email audience tenantId ownerEmail = some user) :
    user ∈ auth.users.rows ∧ user.status = .active := by
  unfold recoveryAccount at found
  simp only [] at found
  split at found
  · split at found
    · cases found
    · have holds := List.find?_some found
      rw [decide_eq_true_eq] at holds
      exact ⟨List.mem_of_find?_eq_some found, holds.2.2⟩
  · obtain ⟨tenant, -, found⟩ := Option.bind_eq_some_iff.mp found
    have holds := List.find?_some found
    rw [decide_eq_true_eq] at holds
    exact ⟨List.mem_of_find?_eq_some found, holds.2.2⟩

theorem currentUser_eq_some (found : currentUser service call auth = some user) :
    user ∈ auth.users.rows ∧ user.status = .active ∧ user.id = call.userId := by
  obtain ⟨visible, active⟩ := Option.filter_eq_some_iff.mp found
  obtain ⟨member, key⟩ := (find_eq_some _).mp (Option.filter_eq_some_iff.mp visible).1
  exact ⟨member, of_decide_eq_true active, key⟩

theorem run_findRecoveryUser {found : Option UserEntity} :
    (findRecoveryUser service call dto).run tables = .ok (found, after) ↔ call.userId = "anonymous" ∧
      includes call.path "/auth/password-recovery/request" = true ∧
        eligibleAccount service call dto tables.auth = found ∧ tables = after := by
  unfold findRecoveryUser findUserForPasswordRecovery eligibleAccount
  simp only [run_bind_ok, run_current_ok, run_lift_ok, bind_ok, failIf_ok, pure_ok, not_not,
    Bool.not_eq_false]
  constructor
  · rintro ⟨_, _, ⟨rfl, rfl⟩, ⟨_, anonymous, _, route, found⟩, same⟩
    exact ⟨anonymous, route, found, same⟩
  · rintro ⟨anonymous, route, found, same⟩
    exact ⟨tables, tables, ⟨rfl, rfl⟩, ⟨(), anonymous, (), route, found⟩, same⟩

theorem run_createPasswordRecoveryAction
    (anonymous : call.userId = "anonymous")
    (route : includes call.path "/auth/password-recovery/request" = true) :
    (createPasswordRecoveryAction service call draw user).run tables = .ok (result, after) ↔
      (createAccountAction call user.id (accountTokenRow service call draw user .passwordRecovery "password_recovery")
        (outboxRow draw call (some user.tenantId) (some user.id) (service.runtime.lower user.email) .passwordRecovery
          "Reset your ShuleHub ERP password")).run tables = .ok (result, after) := by
  unfold createPasswordRecoveryAction
  simp [run_bind_ok, run_failIf_ok, anonymous, route]

theorem run_createEmailVerificationAction
    (known : call.userId ≠ "anonymous") (own : call.userId = user.id)
    (route : includes call.path "/auth/email-verification/request" = true) :
    (createEmailVerificationAction service call draw user).run tables = .ok (result, after) ↔
      (createAccountAction call user.id (accountTokenRow service call draw user .emailVerification "email_verification")
        (outboxRow draw call (some user.tenantId) (some user.id) (service.runtime.lower user.email) .emailVerification
          "Verify your ShuleHub ERP email address")).run tables = .ok (result, after) := by
  have other : ¬ (call.userId = "anonymous" ∨ call.userId ≠ user.id) := by
    rw [not_or, not_not]
    exact ⟨known, own⟩
  unfold createEmailVerificationAction
  simp [run_bind_ok, run_failIf_ok, other, route]

structure Drawn (service : AuthService) (draw : MailDraw) (tables : MailTables) : Prop where
  tokenId : ∀ row ∈ tables.actionTokens.rows, row.id ≠ draw.tokenId
  tokenHash : ∀ row ∈ tables.actionTokens.rows, row.tokenHash ≠ hashToken service draw.token
  outboxId : ∀ row ∈ tables.outbox.rows, row.id ≠ draw.outboxId

theorem run_requestPasswordRecovery_of_eligible
    (drawn : Drawn service draw tables) (configured : draw.configured = true) (anonymous : call.userId = "anonymous")
    (route : includes call.path "/auth/password-recovery/request" = true)
    (eligible : eligibleAccount service call dto tables.auth = some user) :
    ∃ db, (requestPasswordRecovery service call draw dto).run (opened tables []) =
        (deliver call draw (sendPasswordRecoveryEmail draw user.email) >>= fun _ =>
          pure (⟨true, genericRecoveryMessage⟩ : AuthActionResponseDto)).run (opened db []) ∧
      Carries db.toAuthTables tables.auth
        (accountTokenRow service call draw user .passwordRecovery "password_recovery") := by
  let row := accountTokenRow service call draw user .passwordRecovery "password_recovery"
  let outbox := outboxRow draw call (some user.tenantId) (some user.id) (service.runtime.lower user.email)
    .passwordRecovery "Reset your ShuleHub ERP password"
  have found : (findRecoveryUser service call dto).run tables = .ok (some user, tables) :=
    run_findRecoveryUser.mpr ⟨anonymous, route, eligible, rfl⟩
  obtain ⟨db, wrote, carries⟩ : ∃ db, (createAccountAction call user.id row outbox).run tables = .ok ((), db) ∧
      Carries db.toAuthTables tables.auth row :=
    run_createAccountAction drawn.tokenHash drawn.tokenId drawn.outboxId
  have created := (run_createPasswordRecoveryAction anonymous route).mpr wrote
  refine ⟨db, ?_, carries⟩
  unfold requestPasswordRecovery query
  rw [assertConfigured_ok configured, Effect.run_bind_lift_ok, run_bind_query found]
  exact run_bind_query created

end Writing

end Mailing

end ShuleHub.Auth
