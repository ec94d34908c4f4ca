import ShuleHub.Lib.KeyedTable
import ShuleHub.Lib.Runs
import ShuleHub.Lib.Transaction
import ShuleHub.Security.PiiEncryption

/-! `PlatformSmsService`: the providers that the platform sends messages through, whose secrets are stored encrypted. -/

namespace ShuleHub.Integrations

open Transaction Security

inductive SmsProviderCode where
  | textsmsKenya
  | africasTalking
  | twilio
deriving DecidableEq

def SmsProviderCode.text : SmsProviderCode → String
  | .textsmsKenya => "textsms_kenya"
  | .africasTalking => "africas_talking"
  | .twilio => "twilio"

structure PlatformSmsProvider where
  id : String
  providerName : String
  providerCode : SmsProviderCode
  apiKeyCiphertext : String
  usernameCiphertext : Option String
  senderId : String
  baseUrl : Option String
  isActive : Bool
  isDefault : Bool
  lastTestStatus : Option String
deriving DecidableEq

structure PlatformSmsDb where
  providers : KeyedTable PlatformSmsProvider String (·.id)

abbrev PlatformSmsTransaction := Transaction PlatformSmsDb Exception

structure PlatformSmsRuntime where
  encryption : PiiEncryptionService
  castUuid : String → Option String

variable (runtime : PlatformSmsRuntime) (providerId : String)

structure SecretDraws where
  apiKeyIv : Iv
  usernameIv : Iv

structure CreatePlatformSmsProviderDto where
  providerName : String
  providerCode : SmsProviderCode
  apiKey : String
  username : Option String
  senderId : String
  baseUrl : Option String
  isActive : Option Bool
  isDefault : Option Bool

structure UpdatePlatformSmsProviderDto where
  providerName : Option String
  apiKey : Option String
  username : Option String
  senderId : Option String
  baseUrl : Option String
  isActive : Option Bool

def trimmed (value : Option String) : Option String := (value.map JsText.trim).filter (· ≠ "")

def apiKeyAad (provider : String) : String := "platform-sms:" ++ provider ++ ":api-key"

def usernameAad (provider : String) : String := "platform-sms:" ++ provider ++ ":username"

def checkProvider (row : PlatformSmsProvider) (db : PlatformSmsDb) : Except Exception Unit := do
  failIf (∃ other ∈ db.providers.rows, other.id = row.id ∧ other.providerCode ≠ row.providerCode)
    (.database "platform_sms_providers_pkey")
  failIf (row.senderId = "") (.database "ck_platform_sms_sender_not_blank")
  failIf (row.isDefault ∧ ∃ other ∈ db.providers.rows, other.isDefault ∧ other.id ≠ row.id)
    (.database "ux_platform_sms_default_provider")

def storeProvider (row : PlatformSmsProvider) : PlatformSmsTransaction PlatformSmsProvider := do
  let db ← current
  monadLift (checkProvider row db)
  write fun db => { db with providers := db.providers.put row }
  return row

def clearDefaultProvider : PlatformSmsTransaction Unit :=
  write fun db => { db with providers := db.providers.modify (fun row => { row with isDefault := false }) fun _ => rfl }

def findProvider : PlatformSmsTransaction PlatformSmsProvider := do
  let id ← required (runtime.castUuid providerId) (.database "invalid input syntax for type uuid")
  let db ← current
  required (db.providers.find id) (.internal "Cannot read properties of undefined (reading 'created_at')")

def findDefaultProvider (db : PlatformSmsDb) : Option PlatformSmsProvider :=
  db.providers.rows.find? fun row => row.isDefault && row.isActive

def createProvider (newId : String) (draws : SecretDraws)
    (dto : CreatePlatformSmsProviderDto) : PlatformSmsTransaction PlatformSmsProvider := do
  (if dto.isDefault.getD false then clearDefaultProvider else pure ())
  let db ← current
  let existing := db.providers.rows.find? fun row => row.providerCode = dto.providerCode
  storeProvider {
    id := (existing.map (·.id)).getD newId
    providerName := JsText.trim dto.providerName
    providerCode := dto.providerCode
    apiKeyCiphertext := runtime.encryption.encrypt (JsText.trim dto.apiKey)
      (some (apiKeyAad dto.providerCode.text)) draws.apiKeyIv
    usernameCiphertext := runtime.encryption.encryptNullable (trimmed dto.username)
      (some (usernameAad dto.providerCode.text)) draws.usernameIv
    senderId := JsText.trim dto.senderId
    baseUrl := trimmed dto.baseUrl
    isActive := dto.isActive.getD true
    isDefault := dto.isDefault.getD false
    lastTestStatus := existing.bind (·.lastTestStatus) }

def updateProvider (draws : SecretDraws) (providerId : String)
    (dto : UpdatePlatformSmsProviderDto) : PlatformSmsTransaction PlatformSmsProvider := do
  let provider ← findProvider runtime providerId
  storeProvider { provider with
    providerName := (dto.providerName.map JsText.trim).getD provider.providerName
    apiKeyCiphertext := (runtime.encryption.encryptNullable (trimmed dto.apiKey)
      (some (apiKeyAad providerId)) draws.apiKeyIv).getD provider.apiKeyCiphertext
    usernameCiphertext := match dto.username with
      | none => provider.usernameCiphertext
      | some username => runtime.encryption.encryptNullable (trimmed (some username))
          (some (usernameAad providerId)) draws.usernameIv
    senderId := (dto.senderId.map JsText.trim).getD provider.senderId
    baseUrl := match dto.baseUrl with
      | none => provider.baseUrl
      | some baseUrl => trimmed (some baseUrl)
    isActive := dto.isActive.getD provider.isActive }

def setDefaultProvider :
    PlatformSmsTransaction PlatformSmsProvider := do
  clearDefaultProvider
  let provider ← findProvider runtime providerId
  storeProvider { provider with isDefault := true, isActive := true }

def decryptApiKey (provider : PlatformSmsProvider) : Except Exception String :=
  runtime.encryption.decrypt provider.apiKeyCiphertext (some (apiKeyAad provider.providerCode.text))

def decryptUsername (provider : PlatformSmsProvider) :
    Except Exception (Option String) :=
  runtime.encryption.decryptNullable (provider.usernameCiphertext.filter (· ≠ ""))
    (some (usernameAad provider.providerCode.text))

/-- The mark of a failed test goes with the transaction of the request that the exception rolls back. -/
def testProvider :
    PlatformSmsTransaction PlatformSmsProvider := do
  let db ← current
  let provider ← required (db.providers.find providerId) (.badRequest "SMS provider was not found")
  let apiKey ← monadLift (decryptApiKey runtime provider)
  failIf (JsText.trim apiKey = "" ∨ JsText.trim provider.senderId = "")
    (.badRequest "SMS provider credentials are incomplete")
  storeProvider { provider with lastTestStatus := some "ok" }

structure DispatchProvider where
  provider : PlatformSmsProvider
  apiKey : String
  username : Option String
deriving DecidableEq

def getDefaultProviderForDispatch (db : PlatformSmsDb) :
    Except Exception (Option DispatchProvider) := do
  match findDefaultProvider db with
  | none => return none
  | some provider =>
    let apiKey ← decryptApiKey runtime provider
    let username ← decryptUsername runtime provider
    return some { provider, apiKey, username }

end ShuleHub.Integrations
