import ShuleHub.Runtime
import ShuleHub.Lib.KeyedTable
import ShuleHub.Lib.Snapshots

/-! The M-PESA configurations of all schools: how a school stores its own, and which one a shortcode resolves to. -/

namespace ShuleHub.TenantFinance

open Transaction Snapshots

variable (number : String)

inductive TenantFinanceStatus where
  | draft
  | active
  | inactive
  | revoked
deriving DecidableEq

inductive MpesaEnvironment where
  | sandbox
  | production
deriving DecidableEq

/-- A row of `tenant_mpesa_configs`, with its secrets as they are before encryption. -/
structure TenantMpesaConfig where
  id : String
  tenantId : String
  shortcode : String
  paybillNumber : Option String
  tillNumber : Option String
  consumerKey : String
  consumerSecret : String
  passkey : String
  initiatorName : Option String
  environment : MpesaEnvironment
  callbackUrl : String
  status : TenantFinanceStatus
  createdAt : Int
  updatedAt : Int
deriving DecidableEq

structure TenantFinancialAccounts where
  tenantId : String
  mpesaClearingAccountCode : String
  feeControlAccountCode : String
  currencyCode : String

inductive MpesaChannelType where
  | mpesaPaybill
  | mpesaTill
deriving DecidableEq

inductive PaymentChannelStatus where
  | active
  | inactive
  | testing
deriving DecidableEq

structure TenantPaymentChannel where
  id : String
  tenantId : String
  channelType : MpesaChannelType
  name : String
  mpesaConfigId : String
  status : PaymentChannelStatus
  updatedAt : Int

structure TenantFinanceDb where
  mpesaConfigs : KeyedTable TenantMpesaConfig (String × String) fun config => (config.tenantId, config.shortcode)
  financialAccounts : KeyedTable TenantFinancialAccounts String (·.tenantId)
  paymentChannels : List TenantPaymentChannel

/-- The values of `configService`; `none` is one that is not set. -/
structure MpesaSettings where
  ledgerDebitAccountCode : Option String
  ledgerCreditAccountCode : Option String
  productionBaseUrl : Option String
  sandboxBaseUrl : Option String
  baseUrl : Option String

structure ResolvedTenantMpesaConfig where
  tenantId : String
  mpesaConfigId : String
  paymentChannelId : Option String
  shortcode : String
  paybillNumber : Option String
  tillNumber : Option String
  consumerKey : String
  consumerSecret : String
  passkey : String
  initiatorName : Option String
  environment : MpesaEnvironment
  baseUrl : String
  callbackUrl : String
  transactionType : String
  ledgerDebitAccountCode : String
  ledgerCreditAccountCode : String

def contains (config : TenantMpesaConfig) : Prop :=
  config.shortcode = number ∨ config.paybillNumber = some number ∨ config.tillNumber = some number
deriving Decidable

def isActiveFor (config : TenantMpesaConfig) : Prop :=
  config.status = .active ∧ contains number config
deriving Decidable

def isNewer (first second : TenantMpesaConfig) : Prop := second.updatedAt ≤ first.updatedAt
deriving Decidable

def findActiveMpesaConfigByShortcode (db : TenantFinanceDb) : Option TenantMpesaConfig :=
  ((db.mpesaConfigs.rows.filter fun config => isActiveFor number config).insertionSort isNewer).head?

def findMpesaConfigForTenantByShortcode (tenantId number : String) (db : TenantFinanceDb) : Option TenantMpesaConfig :=
  ((db.mpesaConfigs.rows.filter fun config => config.tenantId = tenantId ∧ isActiveFor number config).insertionSort
    isNewer).head?

def findFinancialAccountsForTenant (tenantId : String) (db : TenantFinanceDb) : Option TenantFinancialAccounts :=
  db.financialAccounts.find tenantId

def isActiveChannelOf (tenantId mpesaConfigId : String) (channel : TenantPaymentChannel) : Prop :=
  channel.tenantId = tenantId ∧ channel.mpesaConfigId = mpesaConfigId ∧ channel.status = .active
deriving Decidable

def findActivePaymentChannelForMpesaConfig (tenantId mpesaConfigId : String) (db : TenantFinanceDb) :
    Option TenantPaymentChannel :=
  ((db.paymentChannels.filter fun channel => isActiveChannelOf tenantId mpesaConfigId channel).insertionSort
    fun first second => second.updatedAt ≤ first.updatedAt).head?

def resolveBaseUrl (settings : MpesaSettings) : MpesaEnvironment → String
  | .production => settings.productionBaseUrl.getD "https://api.safaricom.co.ke"
  | .sandbox => (settings.sandboxBaseUrl <|> settings.baseUrl).getD "https://sandbox.safaricom.co.ke"

def defaultAccounts (settings : MpesaSettings) (tenantId : String) : TenantFinancialAccounts where
  tenantId
  mpesaClearingAccountCode := settings.ledgerDebitAccountCode.getD "1110-MPESA-CLEARING"
  feeControlAccountCode := settings.ledgerCreditAccountCode.getD "1100-AR-FEES"
  currencyCode := "KES"

def TenantMpesaConfig.isTillChannel (config : TenantMpesaConfig) : Prop :=
  ∃ till ∈ config.tillNumber, till ≠ ""
deriving Decidable

def resolved (settings : MpesaSettings) (mpesaConfig : TenantMpesaConfig) (db : TenantFinanceDb) :
    ResolvedTenantMpesaConfig :=
  let tenantId := mpesaConfig.tenantId
  let financialAccounts := (findFinancialAccountsForTenant tenantId db).getD (defaultAccounts settings tenantId)
  { tenantId
    mpesaConfigId := mpesaConfig.id
    paymentChannelId := (findActivePaymentChannelForMpesaConfig tenantId mpesaConfig.id db).map (·.id)
    shortcode := mpesaConfig.shortcode
    paybillNumber := mpesaConfig.paybillNumber
    tillNumber := mpesaConfig.tillNumber
    consumerKey := mpesaConfig.consumerKey
    consumerSecret := mpesaConfig.consumerSecret
    passkey := mpesaConfig.passkey
    initiatorName := mpesaConfig.initiatorName
    environment := mpesaConfig.environment
    baseUrl := resolveBaseUrl settings mpesaConfig.environment
    callbackUrl := mpesaConfig.callbackUrl
    transactionType := if mpesaConfig.isTillChannel then "CustomerBuyGoodsOnline" else "CustomerPayBillOnline"
    ledgerDebitAccountCode := financialAccounts.mpesaClearingAccountCode
    ledgerCreditAccountCode := financialAccounts.feeControlAccountCode }

def findActiveMpesaConfigForTenant (tenantId : String) (db : TenantFinanceDb) : Option TenantMpesaConfig :=
  ((db.mpesaConfigs.rows.filter fun config => config.tenantId = tenantId ∧ config.status = .active).insertionSort
    isNewer).head?

def resolveMpesaConfigForTenant (settings : MpesaSettings) (tenantId : String) (db : TenantFinanceDb) :
    Except Exception ResolvedTenantMpesaConfig :=
  match findActiveMpesaConfigForTenant tenantId db with
  | none => fail (.notFound s!"Tenant \"{tenantId}\" does not have an active school-owned MPESA configuration")
  | some mpesaConfig => return resolved settings mpesaConfig db

def resolveMpesaConfigByShortcode (settings : MpesaSettings) (shortcode : String) (db : TenantFinanceDb) :
    Except Exception ResolvedTenantMpesaConfig := do
  let normalizedShortcode := JsText.trim shortcode
  failIf (normalizedShortcode = "") (.badRequest "MPESA shortcode is required")
  match findActiveMpesaConfigByShortcode normalizedShortcode db with
  | none =>
    fail (.notFound
      s!"No active school-owned MPESA configuration was found for shortcode \"{normalizedShortcode}\"")
  | some mpesaConfig => return resolved settings mpesaConfig db

structure UpsertTenantMpesaConfigDto where
  shortcode : String
  paybillNumber : Option String
  tillNumber : Option String
  consumerKey : String
  consumerSecret : String
  passkey : String
  initiatorName : Option String
  environment : MpesaEnvironment
  callbackUrl : String
  status : Option TenantFinanceStatus
  mpesaClearingAccountCode : Option String
  feeControlAccountCode : Option String

/-- A call of a tenant, with `NOW()` and the ids that its rows get if they are new. -/
structure MpesaConfigCall where
  tenantId : String
  now : Int
  newConfigId : String
  newChannelId : String
  dto : UpsertTenantMpesaConfigDto

def MpesaConfigCall.row (call : MpesaConfigCall) (db : TenantFinanceDb) : TenantMpesaConfig :=
  let existing := db.mpesaConfigs.find (call.tenantId, call.dto.shortcode)
  { id := (existing.map (·.id)).getD call.newConfigId
    tenantId := call.tenantId
    shortcode := call.dto.shortcode
    paybillNumber := call.dto.paybillNumber
    tillNumber := call.dto.tillNumber
    consumerKey := call.dto.consumerKey
    consumerSecret := call.dto.consumerSecret
    passkey := call.dto.passkey
    initiatorName := call.dto.initiatorName
    environment := call.dto.environment
    callbackUrl := call.dto.callbackUrl
    status := call.dto.status.getD .active
    createdAt := (existing.map (·.createdAt)).getD call.now
    updatedAt := call.now }

def checkMpesaConfig (row : TenantMpesaConfig) (db : TenantFinanceDb) : Except Exception Unit := do
  failIf (isBlank row.shortcode) (.database "ck_tenant_mpesa_configs_shortcode_not_blank")
  failIf (row.paybillNumber = none ∧ row.tillNumber = none)
    (.database "ck_tenant_mpesa_configs_receiving_channel")
  failIf (¬ "https://".toList <+: row.callbackUrl.toList) (.database "ck_tenant_mpesa_configs_callback_url")
  failIf (∃ other ∈ db.mpesaConfigs.rows,
      other.id = row.id ∧ (other.tenantId, other.shortcode) ≠ (row.tenantId, row.shortcode))
    (.database "tenant_mpesa_configs_pkey")
  failIf (row.status = .active ∧ ∃ other ∈ db.mpesaConfigs.rows,
      other.status = .active ∧ other.shortcode = row.shortcode ∧ other.tenantId ≠ row.tenantId)
    (.database "ux_tenant_mpesa_configs_active_shortcode")

abbrev TenantFinanceTransaction := Transaction TenantFinanceDb Exception

def storeMpesaConfig (call : MpesaConfigCall) : TenantFinanceTransaction TenantMpesaConfig := do
  let db ← current
  monadLift (checkMpesaConfig (call.row db) db)
  write fun db => { db with mpesaConfigs := db.mpesaConfigs.put (call.row db) }
  return call.row db

def UpsertTenantMpesaConfigDto.namesAccounts (dto : UpsertTenantMpesaConfigDto) : Prop :=
  (∃ code ∈ dto.mpesaClearingAccountCode, code ≠ "") ∨ ∃ code ∈ dto.feeControlAccountCode, code ≠ ""
deriving Decidable

def MpesaConfigCall.accounts (call : MpesaConfigCall) : TenantFinancialAccounts where
  tenantId := call.tenantId
  mpesaClearingAccountCode := call.dto.mpesaClearingAccountCode.getD "1110-MPESA-CLEARING"
  feeControlAccountCode := call.dto.feeControlAccountCode.getD "1100-AR-FEES"
  currencyCode := "KES"

def upsertFinancialAccounts (call : MpesaConfigCall) : TenantFinanceTransaction Unit :=
  write fun db => { db with financialAccounts := db.financialAccounts.put call.accounts }

def mpesaChannel (call : MpesaConfigCall) (mpesaConfig : TenantMpesaConfig) : TenantPaymentChannel where
  id := call.newChannelId
  tenantId := call.tenantId
  channelType := if mpesaConfig.isTillChannel then .mpesaTill else .mpesaPaybill
  name :=
    if mpesaConfig.isTillChannel then "M-PESA Till " ++ mpesaConfig.tillNumber.getD ""
    else "M-PESA Paybill " ++ mpesaConfig.paybillNumber.getD mpesaConfig.shortcode
  mpesaConfigId := mpesaConfig.id
  status := if call.dto.status.getD .active = .active then .active else .inactive
  updatedAt := call.now

def conflictsWith (channel other : TenantPaymentChannel) : Prop :=
  channel.status = .active ∧ isActiveChannelOf channel.tenantId channel.mpesaConfigId other
deriving Decidable

def ensuredChannels (channel : TenantPaymentChannel) (channels : List TenantPaymentChannel) :
    List TenantPaymentChannel :=
  if ∃ other ∈ channels, conflictsWith channel other then
    channels.map fun other => if conflictsWith channel other then { channel with id := other.id } else other
  else channels ++ [channel]

def ensureMpesaPaymentChannel (channel : TenantPaymentChannel) : TenantFinanceTransaction Unit :=
  write fun db => { db with paymentChannels := ensuredChannels channel db.paymentChannels }

def upsertMpesaConfig (call : MpesaConfigCall) : TenantFinanceTransaction TenantMpesaConfig := do
  let mpesaConfig ← storeMpesaConfig call
  (if call.dto.namesAccounts then upsertFinancialAccounts call else pure ())
  ensureMpesaPaymentChannel (mpesaChannel call mpesaConfig)
  return mpesaConfig

/-- An upsert whose row the constraints admit writes that row and ensures its channel; any other one fails. -/
theorem upsertMpesaConfig_run (call : MpesaConfigCall) (db : TenantFinanceDb) :
    match checkMpesaConfig (call.row db) db with
    | .ok () => ∃ after, (upsertMpesaConfig call).run db = .ok (call.row db, after) ∧
        after.mpesaConfigs = db.mpesaConfigs.put (call.row db) ∧
        after.paymentChannels = ensuredChannels (mpesaChannel call (call.row db)) db.paymentChannels
    | .error error => (upsertMpesaConfig call).run db = .error error := by
  cases checked : checkMpesaConfig (call.row db) db with
  | error error => simp [upsertMpesaConfig, storeMpesaConfig, run_bind, run_current, run_lift, checked, Except.map]
  | ok _ =>
    by_cases named : call.dto.namesAccounts
    · simp [upsertMpesaConfig, storeMpesaConfig, upsertFinancialAccounts, ensureMpesaPaymentChannel, named, run_bind,
        run_current, run_lift, run_write, run_pure, checked, Except.map]
    · simp [upsertMpesaConfig, storeMpesaConfig, ensureMpesaPaymentChannel, named, run_bind, run_current, run_lift,
        run_write, run_pure, checked, Except.map]

end ShuleHub.TenantFinance
