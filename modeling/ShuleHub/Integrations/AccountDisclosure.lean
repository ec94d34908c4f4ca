import ShuleHub.Auth.EmailOutbox
import ShuleHub.Integrations.ParentOtp

/-! What an answer says about an account. Two services answer anybody who names an identifier: one sends a parent a
code, the other sends a user a link to choose a new password. -/

namespace ShuleHub.Integrations

open Auth Database Transaction Auth.Mailing JsText OpenTransaction

structure UserPhone where
  userId : String
  phoneNumberHash : Option String
  phoneNumberLast4 : Option String

structure PortalDb extends MailTables where
  phones : KeyedTable UserPhone String (·.userId)
  challenges : KeyedTable ParentOtpChallengeRecord String (·.id)

inductive OtpDeliveryChannel where
  | sms
  | email
  | unknown
deriving DecidableEq

structure RequestOtpResponse where
  sent : Bool
  challengeId : Option String
  deliveryChannel : OtpDeliveryChannel
  message : String

structure RequestOtpCall where
  userId : String
  path : String
  now : Int
  otpCode : String
  challengeId : String

abbrev PortalRequest (Outside : Type) := Effect (OpenTransaction PortalDb Outside) Exception

structure ParentPortalAuthService (Outside : Type) where
  auth : AuthService
  runtime : OtpRuntime
  sendSms : Option (String → String → PortalRequest Outside Unit)

namespace ParentPortal

variable {Outside : Type} {hash : Option String} {error : Exception} (value : String)

def digits : String := String.ofList (value.toList.filter Char.isDigit)

def isProbablyPhone : Bool :=
  decide (7 ≤ (digits value).length) && !JsText.includes value "@"

def hashPhone (runtime : OtpRuntime) (value : String) : Except Exception String := ParentOtp.hashOtp runtime (digits value)

def last4 : Option String :=
  if digits value = "" then none
  else some (String.ofList ((digits value).toList.drop ((digits value).length - 4)))

def phoneHash (runtime : OtpRuntime) (identifier : String) : Except Exception (Option String) :=
  if isProbablyPhone identifier then (hashPhone runtime identifier).map some else pure none

def parentOf (service : AuthService) (db : PortalDb) (identifier : String) (phoneHash : Option String)
    (membership : TenantMembershipRow) : Option ParentAuthSubject := do
  let user ← db.auth.users.find membership.userId
  let role ← service.authorization.roles.find? fun role =>
    role.tenantId = membership.tenantId ∧ role.id = membership.roleId ∧ role.code = "parent"
  let phone := db.phones.find user.id
  let phoneNumberHash := phone.bind (·.phoneNumberHash)
  if membership.status = .active ∧ user.status = .active ∧
      (service.runtime.lower user.email = service.runtime.lower identifier ∨
        phoneHash ≠ none ∧ phoneNumberHash = phoneHash) then
    some {
      userId := user.id
      tenantId := membership.tenantId
      roleId := membership.roleId
      roleCode := role.code
      email := user.email
      displayName := user.displayName
      phoneNumberHash
      phoneNumberLast4 := phone.bind (·.phoneNumberLast4) }
  else none

def parentSubject (service : AuthService) (db : PortalDb) (identifier : String) (phoneHash : Option String) :
    Option ParentAuthSubject :=
  ((db.auth.memberships.rows.insertionSort fun first second => second.createdAt ≤ first.createdAt).filterMap
    (parentOf service db identifier phoneHash)).head?

def otpRoutes : List String := ["/auth/parent/otp/request", "/auth/parent/otp/verify"]

def findParentAuthSubject (service : AuthService) (call : RequestOtpCall) (identifier : String)
    (phoneHash : Option String) : Transaction PortalDb Exception (Option ParentAuthSubject) := do
  failIf (call.userId ≠ "anonymous") (.database "Parent OTP lookup is only available before authentication")
  failIf (call.path ∉ otpRoutes) (.database "Parent OTP lookup is only available on parent OTP routes")
  let db ← current
  return parentSubject service db identifier phoneHash

def otpChallenge (call : RequestOtpCall) (subject : ParentAuthSubject) (identifier : String) (phoneHash : Option String)
    (otpHash : String) : ParentOtpChallengeRecord where
  id := call.challengeId
  tenantId := subject.tenantId
  userId := some subject.userId
  email := some subject.email
  phoneHash := subject.phoneNumberHash.orElse fun _ => phoneHash
  phoneLast4 := subject.phoneNumberLast4.orElse fun _ => last4 identifier
  otpHash
  expiresAt := call.now + 10 * 60 * 1000
  consumedAt := none
  attempts := 0

def createOtpChallenge (challenge : ParentOtpChallengeRecord) : Transaction PortalDb Exception String := do
  let db ← current
  match db.challenges.tryInsert challenge with
  | none => fail (.database "parent_otp_challenges_pkey")
  | some challenges => do
    write fun db => { db with challenges }
    return challenge.id

/-- The message goes to a parent with a phone number who was named by one; whether it arrives is nobody's concern
here. -/
def sendOtpBestEffort (service : ParentPortalAuthService Outside) (call : RequestOtpCall) (subject : ParentAuthSubject)
    (identifier : String) : PortalRequest Outside Unit :=
  match service.sendSms with
  | none => pure ()
  | some sendSms =>
    if isProbablyPhone identifier = true ∧ (nonEmpty subject.phoneNumberHash).isSome then do
      let _ ← Effect.attempt (sendSms identifier
        ("Your ShuleHub parent portal code is " ++ call.otpCode ++ ". It expires in 10 minutes."))
      return ()
    else pure ()

def genericOtpMessage : String := "If a parent account exists, a verification code has been sent."

def requestOtp (service : ParentPortalAuthService Outside) (call : RequestOtpCall) (named : String) :
    PortalRequest Outside RequestOtpResponse := do
  let identifier := JsText.trim named
  let phoneHash ← phoneHash service.runtime identifier
  match ← OpenTransaction.query transactionAborted (findParentAuthSubject service.auth call identifier phoneHash) with
  | none =>
    return {
      sent := true
      challengeId := none
      deliveryChannel := .unknown
      message := genericOtpMessage }
  | some subject => do
    let otpHash ← ParentOtp.hashOtp service.runtime call.otpCode
    let challengeId ← OpenTransaction.query transactionAborted
      (createOtpChallenge (otpChallenge call subject identifier phoneHash otpHash))
    sendOtpBestEffort service call subject identifier
    return {
      sent := true
      challengeId := some challengeId
      deliveryChannel := if (nonEmpty subject.phoneNumberHash).isSome then .sms else .email
      message := genericOtpMessage }

variable {service : ParentPortalAuthService Outside} {call : RequestOtpCall} {named : String} {db : PortalDb}
  {outside : Outside}

theorem run_findParentAuthSubject {identifier : String} {phoneHash : Option String}
    (anonymous : call.userId = "anonymous") (route : call.path ∈ otpRoutes) :
    (findParentAuthSubject service.auth call identifier phoneHash).run db =
      .ok (parentSubject service.auth db identifier phoneHash, db) := by
  unfold findParentAuthSubject
  simp only [run_bind, run_failIf, anonymous, route, ne_eq, not_true_eq_false, if_false, run_current, run_pure]

theorem refused_findParentAuthSubject (refused : ¬ (call.userId = "anonymous" ∧ call.path ∈ otpRoutes)) :
    ∃ error, ∀ (identifier : String) (phoneHash : Option String) (db : PortalDb),
      (findParentAuthSubject service.auth call identifier phoneHash).run db = .error error := by
  by_cases anonymous : call.userId = "anonymous"
  · have other : call.path ∉ otpRoutes := fun route => refused ⟨anonymous, route⟩
    refine ⟨.database "Parent OTP lookup is only available on parent OTP routes", fun identifier phoneHash db => ?_⟩
    unfold findParentAuthSubject
    simp only [run_bind, run_failIf, anonymous, other, ne_eq, not_true_eq_false, not_false_eq_true, if_false, if_true]
  · refine ⟨.database "Parent OTP lookup is only available before authentication", fun identifier phoneHash db => ?_⟩
    unfold findParentAuthSubject
    simp only [run_bind, run_failIf, anonymous, ne_eq, not_false_eq_true, if_true]

theorem requestOtp_of_absent (hashed : phoneHash service.runtime (trim named) = .ok hash)
    (anonymous : call.userId = "anonymous") (route : call.path ∈ otpRoutes)
    (absent : parentSubject service.auth db (trim named) hash = none) :
    ((requestOtp service call named).run (opened db outside)).2 =
      .ok ⟨true, none, .unknown, genericOtpMessage⟩ := by
  have lookedUp : (findParentAuthSubject service.auth call (trim named) hash).run db = .ok (none, db) := by
    rw [run_findParentAuthSubject anonymous route, absent]
  unfold requestOtp
  simp only []
  rw [hashed, Effect.run_bind_lift_ok, run_bind_query lookedUp]
  rfl

theorem requestOtp_of_present {subject : ParentAuthSubject} {response : RequestOtpResponse}
    (hashed : phoneHash service.runtime (trim named) = .ok hash)
    (anonymous : call.userId = "anonymous") (route : call.path ∈ otpRoutes)
    (present : parentSubject service.auth db (trim named) hash = some subject)
    (answered : ((requestOtp service call named).run (opened db outside)).2 = .ok response) :
    response.challengeId.isSome = true := by
  have lookedUp : (findParentAuthSubject service.auth call (trim named) hash).run db = .ok (some subject, db) := by
    rw [run_findParentAuthSubject anonymous route, present]
  unfold requestOtp at answered
  simp only [] at answered
  rw [hashed, Effect.run_bind_lift_ok, run_bind_query lookedUp] at answered
  simp only [] at answered
  generalize ran : Effect.run _ _ = outcome at answered
  obtain ⟨after, result⟩ := outcome
  subst answered
  simp only [Effect.run_bind_ok] at ran
  obtain ⟨_, _, -, _, _, -, _, _, -, last⟩ := ran
  obtain ⟨rfl, -⟩ := Effect.run_pure_ok.mp last
  rfl

theorem requestOtp_of_unhashed (failed : phoneHash service.runtime (trim named) = .error error) :
    ((requestOtp service call named).run (opened db outside)).2 = .error error := by
  unfold requestOtp
  simp only []
  rw [failed]
  rfl

theorem requestOtp_of_refused
    (hashed : phoneHash service.runtime (trim named) = .ok hash)
    (refused : (findParentAuthSubject service.auth call (trim named) hash).run db = .error error) :
    ((requestOtp service call named).run (opened db outside)).2 = .error error := by
  have failed : (query transactionAborted
      (findParentAuthSubject service.auth call (trim named) hash)).run (opened db outside) =
        ({ opened db outside with aborted := true }, .error error) :=
    run_query_of_error rfl refused
  unfold requestOtp
  simp only []
  rw [hashed, Effect.run_bind_lift_ok, Effect.run_bind_of_error failed]

end ParentPortal

inductive AccountRequest (Outside : Type) where
  | requestOtp (service : ParentPortalAuthService Outside) (call : RequestOtpCall) (named : String) (outside : Outside)
  | requestPasswordRecovery (service : AuthService) (call : AuthCall) (draw : MailDraw)
      (dto : RequestPasswordRecoveryDto)

inductive AccountAnswer where
  | otp (response : RequestOtpResponse)
  | recovery (response : AuthActionResponseDto)

namespace AccountRequest

variable {Outside : Type} (db : PortalDb)

def answer : AccountRequest Outside → Except Exception AccountAnswer
  | .requestOtp service call named outside =>
    ((ParentPortal.requestOtp service call named).run (OpenTransaction.opened db outside)).2.map .otp
  | .requestPasswordRecovery service call draw dto =>
    ((Mailing.requestPasswordRecovery service call draw dto).run (OpenTransaction.opened db.toMailTables [])).2.map
      .recovery

/-- An active account with the identifier of the request exists: a parent, or a user of the tenant or the owner. -/
def HasAccount : AccountRequest Outside → Prop
  | .requestOtp service _ named _ =>
    (ParentPortal.parentSubject service.auth db (JsText.trim named)
      (ParentPortal.phoneHash service.runtime (JsText.trim named)).toOption.join).isSome = true
  | .requestPasswordRecovery service call _ dto => (eligibleAccount service call dto db.auth).isSome = true

/-- The states are the same but for the accounts, of which one has the one that is asked for. -/
structure DifferInAccount (request : AccountRequest Outside) (present absent : PortalDb) : Prop where
  actionTokens : present.actionTokens = absent.actionTokens
  outbox : present.outbox = absent.outbox
  challenges : present.challenges = absent.challenges
  present : request.HasAccount present
  absent : ¬ request.HasAccount absent

/-- The gateway accepts the mail of a recovery, whose token and ids are drawn at random. -/
def Accepted : AccountRequest Outside → Prop
  | .requestOtp _ _ _ _ => True
  | .requestPasswordRecovery service _ draw _ => draw.gateway = .accepted ∧ Drawn service draw db.toMailTables

def AskedInVain : AccountRequest Outside → Prop
  | .requestOtp service call named _ => ¬ (call.userId = "anonymous" ∧ call.path ∈ ParentPortal.otpRoutes) ∨
      ParentPortal.isProbablyPhone (JsText.trim named) = true ∧ service.runtime.piiEncryptionKey = ""
  | .requestPasswordRecovery _ _ _ _ => True

section Answers

variable {db present absent : PortalDb}
  {service : AuthService} {call : AuthCall} {draw : MailDraw} {dto : RequestPasswordRecoveryDto}
  {named : String} {outside : Outside}

theorem phoneHash_error_iff {runtime : OtpRuntime} {identifier : String} :
    (∃ error, ParentPortal.phoneHash runtime identifier = .error error) ↔
      ParentPortal.isProbablyPhone identifier = true ∧ runtime.piiEncryptionKey = "" := by
  unfold ParentPortal.phoneHash ParentPortal.hashPhone ParentOtp.hashOtp failIf
  by_cases phone : ParentPortal.isProbablyPhone identifier = true
  · by_cases keyless : runtime.piiEncryptionKey = ""
    · simp [phone, keyless, bind, Except.bind, fail, Except.map]
    · simp [phone, keyless, bind, Except.bind, pure, Except.pure, Except.map]
  · simp [phone, pure, Except.pure]

theorem findUser_refused
    (refused : ¬ (call.userId = "anonymous" ∧ includes call.path "/auth/password-recovery/request" = true)) :
    ∃ error, ∀ (auth : AuthDb) (email : String) (audience : AuthAudience) (tenantId : Option String)
      (ownerEmail : String), findUserForPasswordRecovery service call auth email audience tenantId ownerEmail =
        .error error := by
  unfold findUserForPasswordRecovery failIf
  by_cases anonymous : call.userId = "anonymous"
  · have other : includes call.path "/auth/password-recovery/request" = false :=
      Bool.not_eq_true _ ▸ fun route => refused ⟨anonymous, route⟩
    refine ⟨.database "Password recovery lookup is only available on recovery routes", fun _ _ _ _ _ => ?_⟩
    rw [if_neg (not_not.mpr anonymous), if_pos other]
    rfl
  · refine ⟨.database "Password recovery is only available before authentication", fun _ _ _ _ _ => ?_⟩
    rw [if_pos anonymous]
    rfl

theorem recovery_refused
    (refused : ¬ (draw.configured = true ∧ call.userId = "anonymous" ∧
      includes call.path "/auth/password-recovery/request" = true)) :
    ∃ error, ∀ tables, ((Mailing.requestPasswordRecovery service call draw dto).run
      (opened tables [])).2 = .error error := by
  by_cases configured : draw.configured = true
  · obtain ⟨error, unanswered⟩ := @findUser_refused service call fun asked => refused ⟨configured, asked⟩
    have failed : ∀ tables, (findRecoveryUser service call dto).run tables = .error error := by
      intro tables
      unfold findRecoveryUser
      rw [run_bind, run_current]
      simp only [unanswered]
      rfl
    refine ⟨error, fun tables => ?_⟩
    have threw : (Mailing.query (findRecoveryUser service call dto)).run (opened tables []) =
        ({ opened tables [] with aborted := true }, .error error) :=
      run_query_of_error rfl (failed tables)
    unfold Mailing.requestPasswordRecovery
    rw [assertConfigured_ok configured, Effect.run_bind_lift_ok, Effect.run_bind_of_error threw]
  · refine ⟨.serviceUnavailable
      "Password recovery is temporarily unavailable. Please contact support if you need immediate access.",
      fun tables => ?_⟩
    unfold Mailing.requestPasswordRecovery assertConfigured failIf
    rw [if_pos (Bool.not_eq_true _ ▸ configured)]
    rfl

theorem recovery_generic
    {tables : MailTables} (configured : draw.configured = true) (anonymous : call.userId = "anonymous")
    (route : includes call.path "/auth/password-recovery/request" = true) (accepted : draw.gateway = .accepted)
    (drawn : Drawn service draw tables) :
    ((Mailing.requestPasswordRecovery service call draw dto).run (opened tables [])).2 =
      .ok ⟨true, genericRecoveryMessage⟩ := by
  cases eligible : eligibleAccount service call dto tables.auth with
  | none =>
    have found : (findRecoveryUser service call dto).run tables = .ok (none, tables) :=
      run_findRecoveryUser.mpr ⟨anonymous, route, eligible, rfl⟩
    unfold Mailing.requestPasswordRecovery Mailing.query
    rw [assertConfigured_ok configured, Effect.run_bind_lift_ok, run_bind_query found]
    rfl
  | some user =>
    obtain ⟨db, ran, -⟩ := run_requestPasswordRecovery_of_eligible drawn configured anonymous route eligible
    have marks : MayMark call.path := ⟨"/auth/password-recovery/request", by decide, route⟩
    have delivered := @run_deliver_of_accepted call draw .passwordRecovery
      "Password recovery is temporarily unavailable. Please contact support if you need immediate access."
      "Password recovery email could not be sent right now." user.email (opened db []) configured accepted
      marks rfl
    rw [ran]
    exact congrArg Prod.snd (Effect.run_bind_of_ok delivered)

theorem otp_answers_differ {service : ParentPortalAuthService Outside} {call : RequestOtpCall} {hash : Option String}
    (hashed : ParentPortal.phoneHash service.runtime (trim named) = .ok hash)
    (anonymous : call.userId = "anonymous") (route : call.path ∈ ParentPortal.otpRoutes)
    (known : (ParentPortal.parentSubject service.auth present (trim named) hash).isSome = true)
    (unknown : ¬ (ParentPortal.parentSubject service.auth absent (trim named) hash).isSome = true) :
    (requestOtp service call named outside).answer present ≠ (requestOtp service call named outside).answer absent := by
  obtain ⟨subject, found⟩ := Option.isSome_iff_exists.mp known
  have missing := Option.not_isSome_iff_eq_none.mp unknown
  intro same
  simp only [answer] at same
  rw [ParentPortal.requestOtp_of_absent hashed anonymous route missing] at same
  cases outcome : ((ParentPortal.requestOtp service call named).run (opened present outside)).2 with
  | error error =>
    rw [outcome] at same
    cases same
  | ok response =>
    have challenged := ParentPortal.requestOtp_of_present hashed anonymous route found outcome
    rw [outcome] at same
    cases same
    cases challenged

theorem otp_answers_agree_iff {service : ParentPortalAuthService Outside} {call : RequestOtpCall} (differ : DifferInAccount (requestOtp service call named outside) present absent) :
    (requestOtp service call named outside).answer present = (requestOtp service call named outside).answer absent ↔
      (requestOtp service call named outside).AskedInVain := by
  cases hashed : ParentPortal.phoneHash service.runtime (trim named) with
  | error error =>
    have keyless := phoneHash_error_iff.mp ⟨error, hashed⟩
    simp only [answer, AskedInVain]
    rw [ParentPortal.requestOtp_of_unhashed hashed, ParentPortal.requestOtp_of_unhashed hashed]
    exact ⟨fun _ => .inr keyless, fun _ => rfl⟩
  | ok hash =>
    have keyed : ¬ (ParentPortal.isProbablyPhone (trim named) = true ∧ service.runtime.piiEncryptionKey = "") := by
      intro keyless
      obtain ⟨error, failed⟩ := phoneHash_error_iff.mpr keyless
      rw [hashed] at failed
      cases failed
    have known := differ.present
    have unknown := differ.absent
    simp only [HasAccount, hashed] at known unknown
    constructor
    · intro same
      left
      rintro ⟨anonymous, route⟩
      exact otp_answers_differ hashed anonymous route known unknown same
    · rintro (unasked | keyless)
      · obtain ⟨error, refused⟩ := @ParentPortal.refused_findParentAuthSubject _ service call unasked
        simp only [answer]
        rw [ParentPortal.requestOtp_of_refused hashed (refused _ _ _),
          ParentPortal.requestOtp_of_refused hashed (refused _ _ _)]
      · exact absurd keyless keyed

theorem recovery_answers_agree (accepts : draw.gateway = .accepted)
    (drawnPresent : Drawn service draw present.toMailTables) (drawnAbsent : Drawn service draw absent.toMailTables) :
    (requestPasswordRecovery service call draw dto : AccountRequest Outside).answer present =
      (requestPasswordRecovery service call draw dto : AccountRequest Outside).answer absent := by
  simp only [answer]
  by_cases asked : draw.configured = true ∧ call.userId = "anonymous" ∧
      includes call.path "/auth/password-recovery/request" = true
  · obtain ⟨configured, anonymous, route⟩ := asked
    rw [recovery_generic configured anonymous route accepts drawnPresent,
      recovery_generic configured anonymous route accepts drawnAbsent]
  · obtain ⟨error, refused⟩ := @recovery_refused service call draw dto asked
    rw [refused, refused]

end Answers

end AccountRequest

open AccountRequest in
/-- Two states that differ in whether the account of a request exists are answered alike exactly when the request is
a recovery or is answered before an account is looked for: the answer to a request for a code has the id of a
challenge only where there is a parent. -/
theorem answers_agree_iff_asked_in_vain {Outside : Type} (request : AccountRequest Outside) (present absent : PortalDb)
    (differ : DifferInAccount request present absent) (accepted : request.Accepted present) :
    request.answer present = request.answer absent ↔ request.AskedInVain := by
  cases request with
  | requestOtp service call named outside => exact otp_answers_agree_iff differ
  | requestPasswordRecovery service call draw dto =>
    obtain ⟨accepts, drawn⟩ := accepted
    have drawnAbsent : Drawn service draw absent.toMailTables :=
      ⟨differ.actionTokens ▸ drawn.tokenId, differ.actionTokens ▸ drawn.tokenHash, differ.outbox ▸ drawn.outboxId⟩
    exact ⟨fun _ => trivial, fun _ => recovery_answers_agree accepts drawn drawnAbsent⟩

namespace AccountRequest

def portalAuth : AuthService where
  config :=
    { tokens := ⟨900, 2592000⟩
      systemOwnerEmail := none
      mfaService := true
      trustedDeviceService := false
      rowLevelSecurity := true }
  runtime := ⟨id, fun password hash => password = hash, id⟩
  authorization := ⟨[⟨"role-1", "lakeside", "parent", "Parent"⟩], []⟩

def parentAccount (status : UserStatus) : UserEntity where
  id := "user-5"
  tenantId := "lakeside"
  email := "parent@example.org"
  passwordHash := "open sesame"
  displayName := "Wanjiku"
  userType := .member
  status
  emailVerifiedAt := some 0
  mfaEnabled := false

def lakeside (status : UserStatus) : PortalDb where
  auth := ⟨⟨[parentAccount status], by simp⟩,
    ⟨[⟨"membership-5", "lakeside", "user-5", "role-1", .active, 100⟩], by simp⟩, .empty, []⟩
  actionTokens := .empty
  outbox := .empty
  phones := .empty
  challenges := .empty

def codeRequest : AccountRequest Unit :=
  .requestOtp ⟨portalAuth, ⟨id, "pepper"⟩, none⟩
    ⟨"anonymous", "/auth/parent/otp/request", 1000, "123456", "challenge-1"⟩ "parent@example.org" ()

def linkRequest : AccountRequest Unit :=
  .requestPasswordRecovery portalAuth
    ⟨"anonymous", some "lakeside", none, "/auth/password-recovery/request", 1000, "session-9",
      ⟨1000, "access-9", "refresh-9"⟩, ⟨none, none⟩⟩
    ⟨true, 600000, "mailed-token", "token-1", "outbox-1", .accepted⟩ ⟨"parent@example.org", some .portal⟩

theorem differ_lakeside {request : AccountRequest Unit} (known : request.HasAccount (lakeside .active))
    (unknown : ¬ request.HasAccount (lakeside .disabled)) :
    DifferInAccount request (lakeside .active) (lakeside .disabled) :=
  ⟨rfl, rfl, rfl, known, unknown⟩

end AccountRequest

open AccountRequest in
theorem recovery_hides_parent : linkRequest.answer (lakeside .active) = linkRequest.answer (lakeside .disabled) := by
  have known : linkRequest.HasAccount (lakeside .active) := by
    simp only [linkRequest, HasAccount]
    decide
  have unknown : ¬ linkRequest.HasAccount (lakeside .disabled) := by
    simp only [linkRequest, HasAccount]
    decide
  have accepted : linkRequest.Accepted (lakeside .active) :=
    ⟨rfl, fun _ member => absurd member List.not_mem_nil, fun _ member => absurd member List.not_mem_nil,
      fun _ member => absurd member List.not_mem_nil⟩
  exact (answers_agree_iff_asked_in_vain linkRequest (lakeside .active) (lakeside .disabled)
    (differ_lakeside known unknown) accepted).mpr trivial

open AccountRequest in
/-- The parent is answered with a challenge, and the disabled parent without one. -/
theorem code_request_tells_parent_apart :
    DifferInAccount codeRequest (lakeside .active) (lakeside .disabled) ∧
      codeRequest.answer (lakeside .active) =
        .ok (.otp ⟨true, some "challenge-1", .email, ParentPortal.genericOtpMessage⟩) ∧
      codeRequest.answer (lakeside .disabled) = .ok (.otp ⟨true, none, .unknown, ParentPortal.genericOtpMessage⟩) := by
  refine ⟨differ_lakeside ?_ ?_, ?_, ?_⟩
  · simp only [codeRequest, HasAccount]
    decide +kernel
  · simp only [codeRequest, HasAccount]
    decide +kernel
  · rfl
  · rfl

end ShuleHub.Integrations
