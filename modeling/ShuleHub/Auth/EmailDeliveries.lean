import ShuleHub.Auth.EmailOutbox
import ShuleHub.Database.RequestTransactions
import ShuleHub.Lib.JsSplit

/-! What is left of a mail once the request that sent it has finished: the token in it, or the note that it could not
be sent. The request ends its transaction by the status of its response, and the mail does not come back. -/

namespace ShuleHub.Auth

open Transaction Mailing JsText

inductive EmailEndpoint where
  | inviteTenantUser (dto : CreateTenantInvitationDto)
  | resendTenantInvitation (invitationId : String)
  | requestPasswordRecovery (dto : RequestPasswordRecoveryDto)
  | requestEmailVerification

def EmailEndpoint.route : EmailEndpoint → String
  | .inviteTenantUser _ => "/auth/invitations"
  | .resendTenantInvitation invitationId => "/auth/invitations/" ++ invitationId ++ "/resend"
  | .requestPasswordRecovery _ => "/auth/password-recovery/request"
  | .requestEmailVerification => "/auth/email-verification/request"

/-- A request to one of the endpoints. Its path is the route and the query of the URL, in which a slash is
escaped; `closed` says that the client goes away before the response is finished. -/
structure EmailRequest where
  endpoint : EmailEndpoint
  call : AuthCall
  draw : MailDraw
  closed : Bool
  query : String
  escaped : '/' ∉ query.toList
  routed : call.path = endpoint.route ++ query

namespace EmailDeliveries

variable (service : AuthService) (request : EmailRequest) (conflict : VariableConflict) (tables : MailTables)

def handle : MailRequest Unit :=
  match request.endpoint with
  | .inviteTenantUser dto => do
    let _ ← Mailing.inviteTenantUser service request.call request.draw dto
    return ()
  | .resendTenantInvitation invitationId => do
    let _ ← Mailing.resendTenantInvitation service request.call request.draw invitationId
    return ()
  | .requestPasswordRecovery dto => do
    let _ ← requestPasswordRecovery service request.call request.draw dto
    return ()
  | .requestEmailVerification => do
    let _ ← requestEmailVerification service request.call request.draw
    return ()

def responseStatus (outcome : Except Exception Unit) : Option Nat :=
  if request.closed then none
  else
    match outcome with
    | .ok _ => some 201
    | .error error => some error.statusCode

def serve : MailTables × List GatewayCall :=
  let (after, outcome) := (handle service request).run (OpenTransaction.opened tables [])
  (after.settle (Database.rollsBack (responseStatus request outcome)) tables, after.outside)

/-- A caller for whom the function that uses a token up was written: nobody, on its route. -/
def PresentsOn (route : String) (call : AuthCall) : Prop :=
  call.userId = "anonymous" ∧ JsText.includes call.path route = true

def Consumes (tables : AuthTables) (tokenHash : String)
    (now : Int) : ActionPurpose → Prop
  | .passwordRecovery => ∀ call passwordHash, PresentsOn "/auth/password-recovery/reset" call → call.now = now →
      ∃ row after, (consumePasswordRecoveryAction call tokenHash passwordHash).run tables = .ok (row, after)
  | .emailVerification => ∀ call, PresentsOn "/auth/email-verification/verify" call → call.now = now →
      ∃ row after, (consumeEmailVerificationAction conflict service call tokenHash).run tables = .ok (row, after)
  | .inviteAcceptance => ∀ call draw displayName, PresentsOn "/auth/invitations/accept" call → call.now = now →
      ∃ row after, (consumeInviteAcceptanceAction service call draw tokenHash displayName).run tables =
        .ok (row, after)
  | _ => False

/-- The token of a mail is stored, not used up, and taken by its function for as long as it has not expired. -/
def TokenStands (mail : GatewayCall) :
    Prop :=
  ∃ row ∈ tables.actionTokens.rows, row.tokenHash = hashToken service mail.token ∧ row.purpose = mail.purpose ∧
    row.consumedAt = none ∧
      ∀ now < row.expiresAt, Consumes service conflict tables.toAuthTables row.tokenHash now mail.purpose

/-- The outbox has the row of the request, as a failed delivery to try again at `nextAttemptAt`. -/
def FailureNoted : Prop :=
  ∃ row ∈ tables.outbox.rows, row.id = request.draw.outboxId ∧ row.status = .failed

def Kept (request : EmailRequest) (tables : MailTables) : Prop :=
  ∀ mail ∈ (serve service request tables).2,
    if mail.response = .accepted then TokenStands service conflict (serve service request tables).1 mail
    else FailureNoted request (serve service request tables).1

def Mails : Prop :=
  request.draw.configured = true ∧
    match request.endpoint with
    | .inviteTenantUser dto => ∃ tenantId roleCode role, requireTenantId request.call = .ok tenantId ∧
        normalizeRoleCode service dto.roleCode = .ok roleCode ∧ JsText.trim dto.displayName ≠ "" ∧
        service.authorization.getRoleByCode tenantId roleCode = .ok role
    | .resendTenantInvitation invitationId => ∃ tenantId id row roleCode, requireTenantId request.call = .ok tenantId ∧
        Uuid.cast invitationId = some id ∧ pendingInvitation tables.toAuthTables id tenantId = some row ∧
        normalizeRoleCode service ((nonEmpty row.metadata.roleCode).getD "member") = .ok roleCode
    | .requestPasswordRecovery dto => request.call.userId = "anonymous" ∧
        ∃ user, eligibleAccount service request.call dto tables.auth = some user
    | .requestEmailVerification => request.call.userId ≠ "anonymous" ∧ request.call.userId ≠ "" ∧
        ∃ user, currentUser service request.call tables.auth = some user ∧ user.emailVerifiedAt = none

/-- The mail is accepted and its token is stored in the end: the endpoint is one of those whose route may mark a
delivery, the response is finished, and the function that uses the token up works on this server. -/
def Delivers (request : EmailRequest) : Prop :=
  request.draw.gateway = .accepted ∧ request.closed = false ∧
    match request.endpoint with
    | .inviteTenantUser _ => False
    | .resendTenantInvitation _ => False
    | .requestPasswordRecovery _ => True
    | .requestEmailVerification => conflict = .useColumn

section Preparing

variable {service : AuthService} {request : EmailRequest} {tables : MailTables}
  {dto : CreateTenantInvitationDto} {invitationId : String} {draw : MailDraw} {call : AuthCall}

/-- The request comes to its mail with `db` in its open transaction, and ends as the delivery does. -/
def Hands (service : AuthService) (request : EmailRequest) (tables db : MailTables) (purpose : ActionPurpose) : Prop :=
  ∃ unconfigured unsent recipient, (handle service request).run (OpenTransaction.opened tables []) =
    (deliver request.call request.draw (sendEmail request.draw purpose unconfigured unsent recipient)).run
      (OpenTransaction.opened db [])

theorem hands_of_run {Answer : Type} {action : MailRequest Answer} {db : MailTables} {purpose : ActionPurpose}
    {unconfigured unsent recipient : String} {answer : Answer}
    (handled : handle service request = action >>= fun _ => pure ())
    (ran : action.run (OpenTransaction.opened tables []) =
      (deliver request.call request.draw (sendEmail request.draw purpose unconfigured unsent recipient) >>=
        fun _ => pure answer).run (OpenTransaction.opened db [])) :
    Hands service request tables db purpose := by
  refine ⟨unconfigured, unsent, recipient, ?_⟩
  rw [handled, Effect.run_bind_congr ran, Effect.run_bind_pure_bind, Effect.run_bind_unit]

theorem hands_invite (drawn : Drawn service request.draw tables)
    (endpoint : request.endpoint = .inviteTenantUser dto) (mails : Mails service request tables) :
    ∃ db, Hands service request tables db .inviteAcceptance := by
  unfold Mails at mails
  rw [endpoint] at mails
  obtain ⟨configured, tenantId, roleCode, role, tenant, invitable, named, known⟩ := mails
  let email := service.runtime.lower (trim dto.email)
  let row := invitationRow service (invitationMail request.draw) request.call tenantId email roleCode
    (trim dto.displayName)
  obtain ⟨db, created⟩ : ∃ db, (Mailing.createInvitationAction service request.call request.draw tenantId email row).run
      (OpenTransaction.opened tables []) =
        (deliver request.call request.draw (sendInvitationEmail request.draw email) >>= fun _ => pure row.id).run
          (OpenTransaction.opened db []) :=
    run_createInvitationAction drawn.tokenHash drawn.tokenId drawn.outboxId
  have ran : (Mailing.inviteTenantUser service request.call request.draw dto).run (OpenTransaction.opened tables []) =
      (deliver request.call request.draw (sendInvitationEmail request.draw email) >>= fun _ =>
        pure (⟨row.id, tenantId, email, trim dto.displayName, roleCode, true, row.expiresAt⟩ :
          TenantInvitationResponseDto)).run (OpenTransaction.opened db []) := by
    unfold Mailing.inviteTenantUser
    rw [assertConfigured_ok configured, Effect.run_bind_lift_ok, tenant, Effect.run_bind_lift_ok, invitable,
      Effect.run_bind_lift_ok, Effect.run_bind_failIf_of_not named, known, Effect.run_bind_lift_ok,
      Effect.run_bind_congr created, Effect.run_bind_pure_bind]
  refine ⟨db, hands_of_run ?_ ran⟩
  unfold handle
  rw [endpoint]

theorem hands_resend (drawn : Drawn service request.draw tables)
    (endpoint : request.endpoint = .resendTenantInvitation invitationId) (mails : Mails service request tables) :
    ∃ db, Hands service request tables db .inviteAcceptance := by
  unfold Mails at mails
  rw [endpoint] at mails
  obtain ⟨configured, tenantId, id, row, roleCode, tenant, casts, pending, invitable⟩ := mails
  let email := service.runtime.lower row.email
  have loaded : (onAuthTables (loadPendingTenantInvitation invitationId tenantId)).run tables = .ok (row, tables) :=
    run_onAuthTables (run_loadPendingTenantInvitation.mpr ⟨id, casts, pending, rfl⟩)
  obtain ⟨rehashed, updated⟩ : ∃ after, (updateResentInvitation service request.call request.draw roleCode row).run
      tables.toAuthTables = .ok ((), after) := run_updateResentInvitation drawn.tokenHash
  obtain ⟨db, queued⟩ : ∃ db, (insertOutbox (invitationOutbox request.draw request.call tenantId email)).run
      { tables with toAuthTables := rehashed } = .ok ((), db) :=
    ⟨_, @run_insertOutbox (invitationOutbox request.draw request.call tenantId email)
      { tables with toAuthTables := rehashed } drawn.outboxId⟩
  have ran : (Mailing.resendTenantInvitation service request.call request.draw invitationId).run
      (OpenTransaction.opened tables []) =
        (deliver request.call request.draw (sendInvitationEmail request.draw email) >>= fun _ =>
          pure (⟨invitationId, some true, some (request.call.now + request.draw.ttlMs), none⟩ :
            TenantInvitationActionResponseDto)).run (OpenTransaction.opened db []) := by
    unfold Mailing.resendTenantInvitation query
    rw [assertConfigured_ok configured, Effect.run_bind_lift_ok, tenant, Effect.run_bind_lift_ok,
      OpenTransaction.run_bind_query loaded, invitable, Effect.run_bind_lift_ok,
      OpenTransaction.run_bind_query (run_onAuthTables updated), OpenTransaction.run_bind_query queued]
  refine ⟨db, hands_of_run ?_ ran⟩
  unfold handle
  rw [endpoint]

structure Writes (service : AuthService) (request : EmailRequest) (tables db : MailTables) (user : UserEntity)
    (row : AuthActionTokenRow) : Prop where
  hands : Hands service request tables db row.purpose
  carries : Carries db.toAuthTables tables.auth row
  stored : user ∈ tables.auth.users.rows ∧ user.status = .active
  names : row.userId = some user.id ∧ row.email = service.runtime.lower user.email
  tokenHash : row.tokenHash = hashToken service request.draw.token
  consumedAt : row.consumedAt = none

theorem includes_route (request : EmailRequest) : includes request.call.path request.endpoint.route = true := by
  rw [includes_iff, request.routed, String.toList_append]
  exact (List.prefix_append _ _).isInfix

theorem writes_recovery (drawn : Drawn service request.draw tables) {dto : RequestPasswordRecoveryDto}
    (endpoint : request.endpoint = .requestPasswordRecovery dto) (mails : Mails service request tables) :
    ∃ db user row, Writes service request tables db user row ∧ row.purpose = .passwordRecovery := by
  unfold Mails at mails
  rw [endpoint] at mails
  obtain ⟨configured, anonymous, user, eligible⟩ := mails
  have route : includes request.call.path "/auth/password-recovery/request" = true := by
    have included := includes_route request
    rw [endpoint] at included
    exact included
  obtain ⟨db, ran, carries⟩ := run_requestPasswordRecovery_of_eligible drawn configured anonymous route eligible
  refine ⟨db, user, _, ⟨hands_of_run ?_ ran, carries, recoveryAccount_eq_some eligible, ⟨rfl, rfl⟩, rfl, rfl⟩, rfl⟩
  unfold handle
  rw [endpoint]

theorem writes_verification (drawn : Drawn service request.draw tables)
    (endpoint : request.endpoint = .requestEmailVerification) (mails : Mails service request tables) :
    ∃ db user row, Writes service request tables db user row ∧ row.purpose = .emailVerification := by
  unfold Mails at mails
  rw [endpoint] at mails
  obtain ⟨configured, known, named, user, eligible, unverified⟩ := mails
  obtain ⟨member, active, own⟩ := currentUser_eq_some eligible
  have route : includes request.call.path "/auth/email-verification/request" = true := by
    have included := includes_route request
    rw [endpoint] at included
    exact included
  have found : (findCurrentUser service request.call).run tables = .ok (some user, tables) := by
    unfold findCurrentUser
    rw [run_bind_ok]
    exact ⟨tables, tables, rfl, by rw [eligible]; rfl⟩
  let row := accountTokenRow service request.call request.draw user .emailVerification "email_verification"
  let outbox := outboxRow request.draw request.call (some user.tenantId) (some user.id)
    (service.runtime.lower user.email) .emailVerification "Verify your ShuleHub ERP email address"
  obtain ⟨db, wrote, carries⟩ : ∃ db, (createAccountAction request.call user.id row outbox).run tables = .ok ((), db) ∧
      Carries db.toAuthTables tables.auth row :=
    run_createAccountAction drawn.tokenHash drawn.tokenId drawn.outboxId
  have created := (run_createEmailVerificationAction known own.symm route).mpr wrote
  have ran : (requestEmailVerification service request.call request.draw).run (OpenTransaction.opened tables []) =
      (deliver request.call request.draw (sendEmailVerificationEmail request.draw user.email) >>= fun _ =>
        pure (⟨true, "Email verification instructions have been sent."⟩ : AuthActionResponseDto)).run
          (OpenTransaction.opened db []) := by
    unfold requestEmailVerification query
    rw [assertConfigured_ok configured, Effect.run_bind_lift_ok, Effect.run_bind_failIf_of_not named,
      OpenTransaction.run_bind_query found]
    simp only [unverified, Option.isSome_none, Bool.false_eq_true, if_false]
    exact OpenTransaction.run_bind_query created
  refine ⟨db, user, _, ⟨hands_of_run ?_ ran, carries, ⟨member, active⟩, ⟨rfl, rfl⟩, rfl, rfl⟩, rfl⟩
  unfold handle
  rw [endpoint]

theorem assertConfigured_of_ok {message : String} {result : Unit}
    (checked : assertConfigured draw message = .ok result) : draw.configured = true := by
  unfold assertConfigured at checked
  rwa [Outcome.failIf_ok, Bool.not_eq_false] at checked

theorem called_invite
    (called : ((Mailing.inviteTenantUser service call draw dto).run (OpenTransaction.opened tables [])).1.outside ≠ []) :
    draw.configured = true ∧ ∃ tenantId roleCode role, requireTenantId call = .ok tenantId ∧
      normalizeRoleCode service dto.roleCode = .ok roleCode ∧ trim dto.displayName ≠ "" ∧
      service.authorization.getRoleByCode tenantId roleCode = .ok role := by
  obtain ⟨_, configured, called⟩ := OpenTransaction.changed_bind_lift called
  obtain ⟨tenantId, tenant, called⟩ := OpenTransaction.changed_bind_lift called
  obtain ⟨roleCode, invitable, called⟩ := OpenTransaction.changed_bind_lift called
  obtain ⟨named, called⟩ := OpenTransaction.changed_bind_failIf called
  obtain ⟨role, known, called⟩ := OpenTransaction.changed_bind_lift called
  exact ⟨assertConfigured_of_ok configured, tenantId, roleCode, role, tenant, invitable, named, known⟩

theorem called_resend
    (called : ((Mailing.resendTenantInvitation service call draw invitationId).run
      (OpenTransaction.opened tables [])).1.outside ≠ []) :
    draw.configured = true ∧ ∃ tenantId id row roleCode, requireTenantId call = .ok tenantId ∧
      Uuid.cast invitationId = some id ∧ pendingInvitation tables.toAuthTables id tenantId = some row ∧
      normalizeRoleCode service ((nonEmpty row.metadata.roleCode).getD "member") = .ok roleCode := by
  obtain ⟨_, configured, called⟩ := OpenTransaction.changed_bind_lift called
  obtain ⟨tenantId, tenant, called⟩ := OpenTransaction.changed_bind_lift called
  obtain ⟨row, db, loaded, called⟩ := OpenTransaction.changed_bind_query called
  obtain ⟨roleCode, invitable, called⟩ := OpenTransaction.changed_bind_lift called
  obtain ⟨after, loaded, -⟩ := run_zoom_ok.mp loaded
  obtain ⟨id, casts, pending, -⟩ := run_loadPendingTenantInvitation.mp loaded
  exact ⟨assertConfigured_of_ok configured, tenantId, id, row, roleCode, tenant, casts, pending, invitable⟩

theorem called_recovery {dto : RequestPasswordRecoveryDto}
    (called : ((requestPasswordRecovery service call draw dto).run (OpenTransaction.opened tables [])).1.outside ≠ []) :
    draw.configured = true ∧ call.userId = "anonymous" ∧ ∃ user, eligibleAccount service call dto tables.auth = some user := by
  obtain ⟨_, configured, called⟩ := OpenTransaction.changed_bind_lift called
  obtain ⟨found, db, lookedUp, called⟩ := OpenTransaction.changed_bind_query called
  obtain ⟨anonymous, -, eligible, -⟩ := run_findRecoveryUser.mp lookedUp
  cases found with
  | none => exact absurd rfl called
  | some user => exact ⟨assertConfigured_of_ok configured, anonymous, user, eligible⟩

theorem called_verification
    (called : ((requestEmailVerification service call draw).run (OpenTransaction.opened tables [])).1.outside ≠ []) :
    draw.configured = true ∧ call.userId ≠ "anonymous" ∧ call.userId ≠ "" ∧
      ∃ user, currentUser service call tables.auth = some user ∧ user.emailVerifiedAt = none := by
  obtain ⟨_, configured, called⟩ := OpenTransaction.changed_bind_lift called
  obtain ⟨named, called⟩ := OpenTransaction.changed_bind_failIf called
  obtain ⟨found, db, lookedUp, called⟩ := OpenTransaction.changed_bind_query called
  unfold findCurrentUser at lookedUp
  simp only [run_bind_ok, run_current_ok, run_pure_ok] at lookedUp
  obtain ⟨_, _, ⟨rfl, rfl⟩, rfl, rfl⟩ := lookedUp
  cases eligible : currentUser service call tables.auth with
  | none =>
    rw [eligible] at called
    exact absurd rfl called
  | some user =>
    rw [eligible] at called
    simp only [] at called
    cases verified : user.emailVerifiedAt with
    | some time =>
      rw [verified] at called
      exact absurd rfl called
    | none =>
      rw [verified] at called
      simp only [Option.isSome_none, Bool.false_eq_true, if_false] at called
      obtain ⟨_, _, created, -⟩ := OpenTransaction.changed_bind_query called
      unfold createEmailVerificationAction at created
      rw [run_bind_ok] at created
      obtain ⟨_, _, checked, -⟩ := created
      have known := (run_failIf_ok.mp checked).1
      rw [not_or] at known
      exact ⟨assertConfigured_of_ok configured, known.1, named, user, rfl, verified⟩

theorem mails_of_called (called : (serve service request tables).2 ≠ []) : Mails service request tables := by
  change ((handle service request).run (OpenTransaction.opened tables [])).1.outside ≠ [] at called
  unfold handle at called
  unfold Mails
  cases endpoint : request.endpoint with
  | inviteTenantUser dto =>
    simp only [endpoint, Effect.state_bind_pure] at called
    exact called_invite called
  | resendTenantInvitation invitationId =>
    simp only [endpoint, Effect.state_bind_pure] at called
    exact called_resend called
  | requestPasswordRecovery dto =>
    simp only [endpoint, Effect.state_bind_pure] at called
    exact called_recovery called
  | requestEmailVerification =>
    simp only [endpoint, Effect.state_bind_pure] at called
    exact called_verification called

end Preparing

section Routes

variable {request : EmailRequest}

theorem mayMark_iff (path : String) : MayMark path ↔
    ∃ route ∈ authEmailRoutes, ∃ rest ∈ afterSlash path.toList, route.toList.tail <+: rest := by
  unfold MayMark
  apply exists_congr
  intro route
  apply and_congr_right
  intro known
  have slash : route.toList = '/' :: route.toList.tail := by
    unfold authEmailRoutes at known
    simp only [List.mem_cons, List.not_mem_nil, or_false] at known
    rcases known with rfl | rfl | rfl | rfl <;> rfl
  rw [includes_iff, slash, infix_slash_iff]
  rfl

theorem mayMark_recovery {dto : RequestPasswordRecoveryDto} (endpoint : request.endpoint = .requestPasswordRecovery dto) :
    MayMark request.call.path := by
  refine ⟨"/auth/password-recovery/request", by decide, ?_⟩
  have included := includes_route request
  rw [endpoint] at included
  exact included

theorem mayMark_verification (endpoint : request.endpoint = .requestEmailVerification) : MayMark request.call.path := by
  refine ⟨"/auth/email-verification/request", by decide, ?_⟩
  have included := includes_route request
  rw [endpoint] at included
  exact included

theorem not_mayMark_invite {dto : CreateTenantInvitationDto} (endpoint : request.endpoint = .inviteTenantUser dto) :
    ¬ MayMark request.call.path := by
  have escaped := request.escaped
  have places : afterSlash (EmailEndpoint.inviteTenantUser dto).route.toList =
      ["auth/invitations".toList, "invitations".toList] := by
    change afterSlash "/auth/invitations".toList = _
    decide
  rw [mayMark_iff, request.routed, endpoint, String.toList_append, afterSlash_append,
    afterSlash_of_not_mem escaped, places]
  simp [authEmailRoutes]
  exact fun found => escaped (found.subset List.mem_cons_self)

theorem not_isLetter_route : ¬ Uuid.IsLetter 'u' ∧ ¬ Uuid.IsLetter 'p' := by
  unfold Uuid.IsLetter
  decide

theorem not_mayMark_resend {invitationId id : String} (endpoint : request.endpoint = .resendTenantInvitation invitationId)
    (casts : Uuid.cast invitationId = some id) : ¬ MayMark request.call.path := by
  have letters : ∀ c ∈ invitationId.toList, Uuid.IsLetter c := Uuid.isLetter_of_cast casts
  have unslashed : '/' ∉ invitationId.toList := fun member => Uuid.not_isLetter_slash (letters _ member)
  have places : afterSlash (EmailEndpoint.resendTenantInvitation invitationId).route.toList =
      ["auth/invitations/".toList ++ invitationId.toList ++ "/resend".toList,
        "invitations/".toList ++ invitationId.toList ++ "/resend".toList,
        invitationId.toList ++ "/resend".toList, "resend".toList] := by
    have head : afterSlash "/auth/invitations/".toList =
        ["auth/invitations/".toList, "invitations/".toList, []] := by decide
    have last : afterSlash "/resend".toList = ["resend".toList] := by decide
    unfold EmailEndpoint.route
    rw [String.toList_append, String.toList_append, afterSlash_append, afterSlash_append,
      afterSlash_of_not_mem unslashed, head, last]
    simp
  rw [mayMark_iff, request.routed, endpoint, String.toList_append, afterSlash_append,
    afterSlash_of_not_mem request.escaped, places]
  simp [authEmailRoutes]
  -- each route has a letter at the place of the id that no `uuid` is written with
  obtain ⟨u, p⟩ := not_isLetter_route
  refine ⟨fun found => u ?_, fun found => u ?_, ⟨fun found => p ?_, fun found => u ?_⟩, fun found => p ?_⟩
  · exact @letter_of_word Uuid.IsLetter ['a'] _ _ _ _ letters found (by decide)
  · exact @letter_of_word Uuid.IsLetter ['a'] _ _ _ _ letters found (by decide)
  · exact @letter_of_word Uuid.IsLetter ['a', 'c', 'c', 'e'] _ _ _ _ letters found (by decide)
  · exact @letter_of_word Uuid.IsLetter ['a'] _ _ _ _ letters found (by decide)
  · exact @letter_of_word Uuid.IsLetter [] _ _ _ _ letters found (by decide)

end Routes

section Serving

variable {service : AuthService} {conflict : VariableConflict} {request : EmailRequest} {tables db : MailTables}
  {purpose : ActionPurpose}
  {auth : AuthTables} {row : AuthActionTokenRow} {now : Int} {user : UserEntity} {after : MailTables}

theorem rollsBack_of_error (request : EmailRequest) (error : Exception) :
    Database.rollsBack (responseStatus request (.error error)) = true := by
  unfold responseStatus
  split
  · rfl
  · cases error <;> rfl

theorem rollsBack_of_closed (closed : request.closed = true) (outcome : Except Exception Unit) :
    Database.rollsBack (responseStatus request outcome) = true := by
  unfold responseStatus
  rw [if_pos closed]
  rfl

/-- A mail that is not accepted, that no note may be made of or whose response is not finished leaves nothing. -/
theorem serve_of_failed (hands : Hands service request tables db purpose) (configured : request.draw.configured = true)
    (failed : ¬ (request.draw.gateway = .accepted ∧ request.closed = false ∧ MayMark request.call.path)) :
    ∃ recipient, serve service request tables = (tables, [gatewayCall request.draw purpose recipient]) := by
  obtain ⟨unconfigured, unsent, recipient, handed⟩ := hands
  refine ⟨recipient, ?_⟩
  unfold serve
  rw [handed]
  by_cases good : request.draw.gateway = .accepted ∧ MayMark request.call.path
  · have closed : request.closed = true := by
      by_contra finished
      exact failed ⟨good.1, Bool.not_eq_true _ ▸ finished, good.2⟩
    rw [run_deliver_of_accepted configured good.1 good.2 rfl]
    simp only [rollsBack_of_closed closed, OpenTransaction.settle_rollback]
    rfl
  · obtain ⟨after, error, ran, called⟩ : ∃ after error, (deliver request.call request.draw
        (sendEmail request.draw purpose unconfigured unsent recipient)).run (OpenTransaction.opened db []) =
          (after, .error error) ∧ after.outside = [] ++ [gatewayCall request.draw purpose recipient] :=
      run_deliver_of_failed configured good rfl
    rw [ran]
    simp only [rollsBack_of_error, OpenTransaction.settle_rollback, called]
    rfl

theorem serve_of_delivered (hands : Hands service request tables db purpose)
    (configured : request.draw.configured = true) (accepted : request.draw.gateway = .accepted)
    (finished : request.closed = false) (marks : MayMark request.call.path) :
    ∃ recipient after, serve service request tables = (after, [gatewayCall request.draw purpose recipient]) ∧
      after.toAuthTables = db.toAuthTables := by
  obtain ⟨unconfigured, unsent, recipient, handed⟩ := hands
  have commits : Database.rollsBack (responseStatus request (.ok ())) = false := by
    unfold responseStatus
    rw [finished]
    rfl
  let marked : MailTables :=
    { db with
      outbox := db.outbox.update request.draw.outboxId (markedDelivery .sent request.call.now) fun _ => rfl }
  refine ⟨recipient, marked, ?_, rfl⟩
  unfold serve
  rw [handed, run_deliver_of_accepted configured accepted marks rfl]
  simp only [commits]
  rfl

theorem not_tokenStands (drawn : Drawn service request.draw tables) (recipient : String) :
    ¬ TokenStands service conflict tables (gatewayCall request.draw purpose recipient) := by
  rintro ⟨row, member, same, -⟩
  exact drawn.tokenHash row member same

theorem not_failureNoted (drawn : Drawn service request.draw tables) : ¬ FailureNoted request tables := by
  rintro ⟨row, member, same, -⟩
  exact drawn.outboxId row member same

theorem openAction_of_carries {users : AuthDb}
    (carries : Carries auth users row) (unconsumed : row.consumedAt = none) (early : now < row.expiresAt) :
    openAction auth row.purpose row.tokenHash now = some row := by
  have isOpen : isOpenAction row.purpose row.tokenHash now row := ⟨rfl, rfl, unconsumed, early⟩
  cases found : openAction auth row.purpose row.tokenHash now with
  | none =>
    have closed := List.find?_eq_none.mp found row carries.member
    exact absurd (decide_eq_true isOpen) closed
  | some other =>
    obtain ⟨member, opened⟩ := openAction_eq_some found
    rw [carries.only other member opened.1]

theorem consumes_recovery
    (found : openAction auth .passwordRecovery row.tokenHash now = some row)
    (recovered : recoveredUser auth row = some user) :
    Consumes service conflict auth row.tokenHash now .passwordRecovery := by
  rintro call passwordHash ⟨anonymous, route⟩ rfl
  unfold consumePasswordRecoveryAction
  simp only [run_bind, run_failIf, anonymous, route, ne_eq, not_true_eq_false, if_false, Bool.true_eq_false, run_current,
    found, recovered, putUser, putActionToken, run_write, run_pure]
  exact ⟨_, _, rfl⟩

theorem consumes_verification
    (found : openAction auth .emailVerification row.tokenHash now = some row)
    (verified : verifiedUser service auth row = some user) :
    Consumes service .useColumn auth row.tokenHash now .emailVerification := by
  rintro call ⟨anonymous, route⟩ rfl
  unfold consumeEmailVerificationAction
  simp only [run_bind, run_failIf, anonymous, route, ne_eq, not_true_eq_false, if_false, Bool.true_eq_false, run_current,
    found, verified, putUser, putActionToken, run_write, run_pure]
  exact ⟨_, _, rfl⟩

theorem not_consumes_verification (other : conflict ≠ .useColumn) (call : AuthCall) (auth : AuthTables)
    (tokenHash : String) (now : Int) : ¬ Consumes service conflict auth tokenHash now .emailVerification := by
  intro consumes
  let verifying : AuthCall :=
    { call with
      userId := "anonymous"
      path := "/auth/email-verification/verify"
      now }
  have route : includes "/auth/email-verification/verify" "/auth/email-verification/verify" = true := by decide
  obtain ⟨row, after, consumed⟩ := consumes verifying ⟨rfl, route⟩ rfl
  unfold consumeEmailVerificationAction at consumed
  simp only [run_bind_ok, run_failIf_ok, run_current_ok] at consumed
  obtain ⟨_, _, -, _, _, -, tables, _, -, consumed⟩ := consumed
  split at consumed
  · exact run_fail_ok consumed
  · cases conflict with
    | error => exact run_fail_ok consumed
    | useVariable => exact run_fail_ok consumed
    | useColumn => exact other rfl

theorem tokenStands_of_writes {recipient : String}
    (writes : Writes service request tables db user row) (same : after.toAuthTables = db.toAuthTables)
    (consumes : ∀ now, openAction db.toAuthTables row.purpose row.tokenHash now = some row →
      Consumes service conflict db.toAuthTables row.tokenHash now row.purpose) :
    TokenStands service conflict after (gatewayCall request.draw row.purpose recipient) := by
  unfold TokenStands
  rw [same]
  refine ⟨row, writes.carries.member, writes.tokenHash, rfl, writes.consumedAt, ?_⟩
  intro now early
  exact consumes now (openAction_of_carries writes.carries writes.consumedAt early)

theorem Writes.find (writes : Writes service request tables db user row) :
    row.userId.bind db.auth.users.find = some user := by
  rw [writes.names.1, Option.bind_some, writes.carries.auth]
  exact KeyedTable.find_self _ writes.stored.1

theorem Mails.configured (mails : Mails service request tables) : request.draw.configured = true := mails.1

theorem not_kept_of_failed (drawn : Drawn service request.draw tables) (hands : Hands service request tables db purpose)
    (mails : Mails service request tables)
    (failed : ¬ (request.draw.gateway = .accepted ∧ request.closed = false ∧ MayMark request.call.path)) :
    ¬ Kept service conflict request tables := by
  obtain ⟨recipient, served⟩ := serve_of_failed hands mails.configured failed
  intro kept
  unfold Kept at kept
  rw [served] at kept
  have asked := kept _ List.mem_cons_self
  split at asked
  · exact not_tokenStands drawn recipient asked
  · exact not_failureNoted drawn asked

theorem kept_of_uncalled (uncalled : (serve service request tables).2 = []) :
    Kept service conflict request tables := by
  intro mail member
  rw [uncalled] at member
  exact absurd member List.not_mem_nil

theorem kept_of_delivered {mail : GatewayCall} (served : serve service request tables = (after, [mail]))
    (accepted : mail.response = .accepted) :
    Kept service conflict request tables ↔ TokenStands service conflict after mail := by
  unfold Kept
  rw [served]
  simp only [List.mem_singleton, forall_eq, accepted, if_true]

end Serving

end EmailDeliveries

open EmailDeliveries in
/-- Once a request has finished, the token of a mail that the gateway accepted stands until it expires and a mail
that it did not accept is in the outbox as failed, exactly when a request that comes to its mail delivers it. -/
theorem mails_are_accounted_for_iff_delivered (service : AuthService) (conflict : VariableConflict)
    (request : EmailRequest) (tables : MailTables) (drawn : Drawn service request.draw tables)
    (lowered : ∀ text, service.runtime.lower (service.runtime.lower text) = service.runtime.lower text) :
    Kept service conflict request tables ↔ (Mails service request tables → Delivers conflict request) := by
  constructor
  · intro kept mails
    by_contra undelivered
    unfold Delivers at undelivered
    cases endpoint : request.endpoint with
    | inviteTenantUser dto =>
      obtain ⟨db, hands⟩ := hands_invite drawn endpoint mails
      exact not_kept_of_failed drawn hands mails (fun good => not_mayMark_invite endpoint good.2.2) kept
    | resendTenantInvitation invitationId =>
      obtain ⟨db, hands⟩ := hands_resend drawn endpoint mails
      have casts : ∃ id, Uuid.cast invitationId = some id := by
        have reached := mails.2
        rw [endpoint] at reached
        obtain ⟨_, id, _, _, _, casts, -⟩ := reached
        exact ⟨id, casts⟩
      obtain ⟨id, casts⟩ := casts
      exact not_kept_of_failed drawn hands mails (fun good => not_mayMark_resend endpoint casts good.2.2) kept
    | requestPasswordRecovery dto =>
      rw [endpoint] at undelivered
      obtain ⟨db, user, row, writes, -⟩ := writes_recovery drawn endpoint mails
      exact not_kept_of_failed drawn writes.hands mails (fun good => undelivered ⟨good.1, good.2.1, trivial⟩) kept
    | requestEmailVerification =>
      rw [endpoint] at undelivered
      obtain ⟨db, user, row, writes, purpose⟩ := writes_verification drawn endpoint mails
      by_cases good : request.draw.gateway = .accepted ∧ request.closed = false
      · have other : conflict ≠ .useColumn := fun same => undelivered ⟨good.1, good.2, same⟩
        obtain ⟨recipient, after, served, -⟩ := serve_of_delivered writes.hands mails.configured good.1 good.2
          (mayMark_verification endpoint)
        obtain ⟨stored, -, -, -, -, consumes⟩ := (kept_of_delivered served good.1).mp kept
        have taken := consumes (stored.expiresAt - 1) (Int.sub_lt_self _ Int.one_pos)
        simp only [gatewayCall, purpose] at taken
        exact not_consumes_verification other request.call _ _ _ taken
      · exact not_kept_of_failed drawn writes.hands mails (fun all => good ⟨all.1, all.2.1⟩) kept
  · intro delivered
    by_cases called : (serve service request tables).2 = []
    · exact kept_of_uncalled called
    have mails := mails_of_called called
    obtain ⟨accepted, finished, works⟩ := delivered mails
    cases endpoint : request.endpoint with
    | inviteTenantUser dto =>
      rw [endpoint] at works
      exact works.elim
    | resendTenantInvitation invitationId =>
      rw [endpoint] at works
      exact works.elim
    | requestPasswordRecovery dto =>
      obtain ⟨db, user, row, writes, purpose⟩ := writes_recovery drawn endpoint mails
      obtain ⟨recipient, after, served, same⟩ := serve_of_delivered writes.hands mails.configured accepted finished
        (mayMark_recovery endpoint)
      apply (kept_of_delivered served accepted).mpr
      apply tokenStands_of_writes writes same
      intro now found
      rw [purpose] at found ⊢
      apply consumes_recovery found
      unfold recoveredUser
      rw [writes.find, Option.filter_some, if_pos (decide_eq_true writes.stored.2)]
    | requestEmailVerification =>
      rw [endpoint] at works
      obtain ⟨db, user, row, writes, purpose⟩ := writes_verification drawn endpoint mails
      obtain ⟨recipient, after, served, same⟩ := serve_of_delivered writes.hands mails.configured accepted finished
        (mayMark_verification endpoint)
      apply (kept_of_delivered served accepted).mpr
      apply tokenStands_of_writes writes same
      intro now found
      rw [purpose] at found ⊢
      rw [works]
      apply consumes_verification found
      have sameEmail : service.runtime.lower user.email = service.runtime.lower row.email := by
        rw [writes.names.2, lowered]
      unfold verifiedUser
      rw [writes.find, Option.filter_some, if_pos (decide_eq_true ⟨sameEmail, writes.stored.2⟩)]

namespace EmailDeliveries

def mailService : AuthService where
  config :=
    { tokens := ⟨900, 2592000⟩
      systemOwnerEmail := none
      mfaService := true
      trustedDeviceService := false
      rowLevelSecurity := true }
  runtime := ⟨id, fun password hash => password = hash, id⟩
  authorization := ⟨[⟨"role-2", "lakeside", "teacher", "Teacher"⟩], []⟩

def callOf (userId path : String) : AuthCall where
  userId
  tenantId := some "lakeside"
  role := none
  path
  now := 1000
  sessionId := "session-9"
  draw := ⟨1000, "access-9", "refresh-9"⟩
  metadata := ⟨none, none⟩

def acceptedDraw : MailDraw := ⟨true, 600000, "mailed-token", "token-1", "outbox-1", .accepted⟩

def invitation : EmailRequest where
  endpoint := .inviteTenantUser ⟨"teacher@example.org", "Amina", "teacher"⟩
  call := callOf "user-9" "/auth/invitations"
  draw := acceptedDraw
  closed := false
  query := ""
  escaped := by decide
  routed := by decide

def recovery : EmailRequest where
  endpoint := .requestPasswordRecovery ⟨"teacher@example.org", none⟩
  call := callOf "anonymous" "/auth/password-recovery/request"
  draw := acceptedDraw
  closed := false
  query := ""
  escaped := by decide
  routed := by decide

def teacherAccount : UserEntity where
  id := "user-2"
  tenantId := "lakeside"
  email := "teacher@example.org"
  passwordHash := "open sesame"
  displayName := "Amina"
  userType := .member
  status := .active
  emailVerifiedAt := some 0
  mfaEnabled := false

def lakesideTables : MailTables where
  auth := ⟨⟨[teacherAccount], by simp⟩, .empty, .empty, []⟩
  actionTokens := .empty
  outbox := .empty

end EmailDeliveries

open EmailDeliveries in
theorem recovery_mail_is_accounted_for : Kept mailService .error recovery lakesideTables := by
  have drawn : Drawn mailService recovery.draw lakesideTables :=
    ⟨fun _ member => absurd member List.not_mem_nil, fun _ member => absurd member List.not_mem_nil,
      fun _ member => absurd member List.not_mem_nil⟩
  apply (mails_are_accounted_for_iff_delivered mailService .error recovery lakesideTables drawn fun _ => rfl).mpr
  intro _
  exact ⟨rfl, rfl, trivial⟩

open EmailDeliveries in
/-- The gateway has accepted the mail of an invitation, and no table knows its token. -/
theorem invitation_mail_leaves_no_token : ¬ Kept mailService .useColumn invitation lakesideTables := by
  have served : serve mailService invitation lakesideTables =
      (lakesideTables, [⟨"teacher@example.org", .inviteAcceptance, "mailed-token", .accepted⟩]) := by
    decide +kernel
  intro kept
  unfold Kept at kept
  rw [served] at kept
  have stands := kept _ List.mem_cons_self
  rw [if_pos rfl] at stands
  obtain ⟨row, member, -⟩ := stands
  exact absurd member List.not_mem_nil

end ShuleHub.Auth
