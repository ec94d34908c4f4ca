import ShuleHub.Auth.AuthService

/-! The tokens that are mailed to users, of which the database keeps the hashes, and the reset of a password by
one of them. -/

namespace ShuleHub.Auth

open Transaction

inductive ActionPurpose where
  | inviteAcceptance
  | passwordRecovery
  | emailVerification
  | magicLogin
  | mfaVerification
  | deviceVerification
  | accountActivation
deriving DecidableEq

structure ActionTokenMetadata where
  purpose : Option String
  roleCode : Option String
  displayName : Option String
deriving DecidableEq

structure AuthActionTokenRow where
  id : String
  tenantId : Option String
  userId : Option String
  email : String
  purpose : ActionPurpose
  tokenHash : String
  metadata : ActionTokenMetadata
  expiresAt : Int
  consumedAt : Option Int
deriving DecidableEq

abbrev ActionTokenTable := KeyedTable AuthActionTokenRow String (·.id)

structure AuthTables where
  auth : AuthDb
  actionTokens : ActionTokenTable
deriving DecidableEq

def hashToken (service : AuthService) (token : String) : String := service.runtime.sha256 token

def isOpenAction (purpose : ActionPurpose) (tokenHash : String) (now : Int) (token : AuthActionTokenRow) : Prop :=
  token.tokenHash = tokenHash ∧ token.purpose = purpose ∧ token.consumedAt = none ∧ now < token.expiresAt
deriving Decidable

def openAction (tables : AuthTables) (purpose : ActionPurpose) (tokenHash : String) (now : Int) :
    Option AuthActionTokenRow :=
  tables.actionTokens.rows.find? fun token => isOpenAction purpose tokenHash now token

def putUser (user : UserEntity) : Transaction AuthTables Exception Unit :=
  write fun tables => { tables with auth := { tables.auth with users := tables.auth.users.put user } }

def putActionToken (token : AuthActionTokenRow) : Transaction AuthTables Exception Unit :=
  write fun tables => { tables with actionTokens := tables.actionTokens.put token }

def unauthorizedFor (found message : String) : Exception → Exception
  | .database error => if JsText.includes error found then .unauthorized message else .database error
  | error => error

structure ResetPasswordDto where
  token : String
  password : String

structure AuthActionResponseDto where
  success : Bool
  message : String

structure PasswordRecoveryRow where
  userId : Option String
  email : String
  tenantId : Option String

def recoveredUser (tables : AuthTables) (token : AuthActionTokenRow) : Option UserEntity :=
  (token.userId.bind tables.auth.users.find).filter (·.status = .active)

def consumePasswordRecoveryAction (call : AuthCall) (tokenHash passwordHash : String) :
    Transaction AuthTables Exception PasswordRecoveryRow := do
  failIf (call.userId ≠ "anonymous") (.database "Password reset is only available before authentication")
  failIf (JsText.includes call.path "/auth/password-recovery/reset" = false)
    (.database "Password reset tokens are only consumed on reset routes")
  let tables ← current
  match openAction tables .passwordRecovery tokenHash call.now with
  | none => fail (.database "Invalid or expired recovery token")
  | some token =>
    match recoveredUser tables token with
    | none => fail (.database "Invalid or expired recovery token")
    | some user => do
      putUser { user with passwordHash }
      putActionToken { token with consumedAt := some call.now }
      return ⟨token.userId, token.email, token.tenantId⟩

def resetPassword (service : AuthService) (call : AuthCall) (dto : ResetPasswordDto) (passwordHash : String) :
    Transaction AuthTables Exception AuthActionResponseDto := do
  let _ ← mapError (unauthorizedFor "Invalid or expired recovery token" "Invalid or expired recovery token")
    (consumePasswordRecoveryAction call (hashToken service (JsText.trim dto.token)) passwordHash)
  return ⟨true, "Password updated successfully."⟩

theorem openAction_eq_some {tables : AuthTables} {purpose : ActionPurpose} {tokenHash : String} {now : Int}
    {token : AuthActionTokenRow} (found : openAction tables purpose tokenHash now = some token) :
    token ∈ tables.actionTokens.rows ∧ isOpenAction purpose tokenHash now token :=
  ⟨List.mem_of_find?_eq_some found, by simpa using List.find?_some found⟩

end ShuleHub.Auth
