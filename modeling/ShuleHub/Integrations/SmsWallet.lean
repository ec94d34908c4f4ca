import ShuleHub.Exceptions
import ShuleHub.Lib.KeyedTable
import ShuleHub.Lib.Transaction

/-! The SMS credits of the schools: a wallet for each tenant, a log of the messages, and a journal of the
credits that were added, used and given back. -/

namespace ShuleHub.Integrations

open Transaction

structure SmsWalletRecord where
  tenantId : String
  smsBalance : Int
  monthlyUsed : Int
  monthlyLimit : Option Int
  smsPlan : String
  lowBalanceThreshold : Int
  allowNegativeBalance : Bool
  billingStatus : String
  monthlyUsedNonNegative : 0 ≤ monthlyUsed
  balancePolicy : allowNegativeBalance = true ∨ 0 ≤ smsBalance

inductive SmsLogStatus where
  | queued
  | sent
  | delivered
  | failed
  | rejected
deriving DecidableEq

structure SmsLog where
  id : String
  tenantId : String
  recipientCiphertext : String
  recipientLast4 : Option String
  recipientHash : String
  messageCiphertext : Option String
  messagePreview : Option String
  messageType : Option String
  status : SmsLogStatus
  creditCost : Int
  failureReason : Option String
  sentByUserId : Option String

inductive SmsTransactionType where
  | purchase
  | adjustment
  | deduction
  | refund
deriving DecidableEq

structure SmsWalletTransaction where
  tenantId : String
  transactionType : SmsTransactionType
  quantity : Int
  balanceAfter : Int
  reference : Option String
  reason : Option String
  createdByUserId : Option String

structure SmsDb where
  wallets : KeyedTable SmsWalletRecord String (·.tenantId)
  logs : KeyedTable SmsLog String (·.id)
  transactions : List SmsWalletTransaction

def SmsDb.empty : SmsDb := ⟨.empty, .empty, []⟩

/-- Which write of one row the database lets through when two parts of a statement write it: none of them,
as PostgreSQL refuses an `ON CONFLICT DO UPDATE` of a row a second time, or one of the two. -/
inductive SecondWrite where
  | refused
  | insertWins
  | updateWins
deriving DecidableEq

structure AdjustWalletInput where
  tenantId : String
  quantity : Int
  reason : String
  reference : Option String
  actorUserId : Option String

structure ReserveSmsCreditsInput where
  tenantId : String
  recipientCiphertext : String
  recipientLast4 : Option String
  recipientHash : String
  messageCiphertext : Option String
  messagePreview : Option String
  messageType : Option String
  creditCost : Nat
  sentByUserId : Option String

structure RefundSmsCreditsInput where
  tenantId : String
  logId : String
  creditCost : Nat
  reason : String
  actorUserId : Option String

structure ReservedSmsCredits where
  accepted : Bool
  reason : Option String
  logId : String
  balanceAfter : Int
  creditCost : Option Nat

def IsInteger (value : Int) : Prop := -2147483648 ≤ value ∧ value ≤ 2147483647
deriving Decidable

def integer (value : Int) : Except Exception Unit := failIf (¬ IsInteger value) (.database "integer out of range")

namespace SmsWallet

variable (input : ReserveSmsCreditsInput) (wallet : SmsWalletRecord) (tenantId : String) (logId : String)
  (creditCost : Nat)

def newWallet : SmsWalletRecord where
  tenantId
  smsBalance := 0
  monthlyUsed := 0
  monthlyLimit := none
  smsPlan := "starter"
  lowBalanceThreshold := 100
  allowNegativeBalance := false
  billingStatus := "active"
  monthlyUsedNonNegative := le_rfl
  balancePolicy := .inr le_rfl

def store (smsBalance monthlyUsed : Int) : Except Exception SmsWalletRecord := do
  integer smsBalance
  integer monthlyUsed
  if used : 0 ≤ monthlyUsed then
    if policy : wallet.allowNegativeBalance = true ∨ 0 ≤ smsBalance then
      return { wallet with smsBalance, monthlyUsed, monthlyUsedNonNegative := used, balancePolicy := policy }
    else fail (.database "ck_school_sms_wallets_balance_policy")
  else fail (.database "ck_school_sms_wallets_monthly_used_non_negative")

def typeError : Exception := .internal "Cannot read properties of undefined (reading 'sms_balance')"

def mapWallet (rows : Option SmsWalletRecord) : Transaction SmsDb Exception SmsWalletRecord :=
  match rows with
  | some row => return row
  | none => fail typeError

def putWallet : Transaction SmsDb Exception Unit :=
  write fun db => { db with wallets := db.wallets.put wallet }

def appendTransaction (entry : SmsWalletTransaction) : Transaction SmsDb Exception Unit :=
  write fun db => { db with transactions := db.transactions ++ [entry] }

/-- `INSERT ... ON CONFLICT (tenant_id) DO UPDATE`, which writes a row that is there back as it was. -/
def getOrCreateWallet : Transaction SmsDb Exception SmsWalletRecord := do
  let db ← current
  match db.wallets.find tenantId with
  | some wallet => return wallet
  | none =>
    putWallet (newWallet tenantId)
    return newWallet tenantId

def getOrCreateWalletForUpdate : Transaction SmsDb Exception SmsWalletRecord := do
  let _ ← getOrCreateWallet tenantId
  let db ← current
  mapWallet (db.wallets.find tenantId)

/-- The `UPDATE` of `adjustWallet`. It sees the rows from before the statement, so not the row that the
`INSERT` beside it adds; and where that `INSERT` writes the same row, `second` says which of the two counts. -/
def updatedWallet (second : SecondWrite) (input : AdjustWalletInput) :
    Transaction SmsDb Exception (Option SmsWalletRecord) := do
  let db ← current
  match db.wallets.find input.tenantId with
  | none =>
    putWallet (newWallet input.tenantId)
    return none
  | some wallet =>
    match second with
    | .refused => fail (.database "ON CONFLICT DO UPDATE command cannot affect row a second time")
    | .insertWins => return none
    | .updateWins =>
      let updated ← store wallet (wallet.smsBalance + input.quantity) wallet.monthlyUsed
      putWallet updated
      return some updated

def adjustmentEntry (input : AdjustWalletInput) (updated : SmsWalletRecord) : SmsWalletTransaction where
  tenantId := input.tenantId
  transactionType := if 0 ≤ input.quantity then .adjustment else .deduction
  quantity := input.quantity
  balanceAfter := updated.smsBalance
  reference := input.reference
  reason := some input.reason
  createdByUserId := input.actorUserId

def recordAdjustment (input : AdjustWalletInput) (rows : Option SmsWalletRecord) :
    Transaction SmsDb Exception Unit :=
  match rows with
  | some updated => appendTransaction (adjustmentEntry input updated)
  | none => return ()

def adjustWallet (second : SecondWrite) (input : AdjustWalletInput) :
    Transaction SmsDb Exception SmsWalletRecord := do
  integer input.quantity
  let rows ← updatedWallet second input
  recordAdjustment input rows
  mapWallet rows

def smsLog (status : SmsLogStatus)
    (failureReason : Option String) : SmsLog where
  id := logId
  tenantId := input.tenantId
  recipientCiphertext := input.recipientCiphertext
  recipientLast4 := input.recipientLast4
  recipientHash := input.recipientHash
  messageCiphertext := input.messageCiphertext
  messagePreview := input.messagePreview
  messageType := input.messageType
  status
  creditCost := input.creditCost
  failureReason
  sentByUserId := input.sentByUserId

def insertSmsLog (log : SmsLog) : Transaction SmsDb Exception Unit := do
  integer log.creditCost
  let db ← current
  match db.logs.tryInsert log with
  | some logs => write fun db => { db with logs }
  | none => fail (.database "sms_logs_pkey")

def monthlyLimitExceeded : Prop :=
  (∃ limit ∈ wallet.monthlyLimit, limit < wallet.monthlyUsed + creditCost) ∧ wallet.allowNegativeBalance = false
deriving Decidable

def balanceExhausted : Prop :=
  wallet.smsBalance < creditCost ∧ wallet.allowNegativeBalance = false
deriving Decidable

def rejectSms (logId reason : String) (balance : Int) :
    Transaction SmsDb Exception ReservedSmsCredits := do
  insertSmsLog (smsLog input logId .rejected (some reason))
  return { accepted := false, reason := some reason, logId, balanceAfter := balance, creditCost := none }

def deductCredits : Transaction SmsDb Exception (Option SmsWalletRecord) := do
  integer creditCost
  let db ← current
  match db.wallets.find tenantId with
  | none => return none
  | some wallet =>
    if balanceExhausted wallet creditCost ∨ monthlyLimitExceeded wallet creditCost then return none
    else do
      let updated ← store wallet (wallet.smsBalance - creditCost) (wallet.monthlyUsed + creditCost)
      putWallet updated
      return some updated

def deductionEntry (balanceAfter : Int) :
    SmsWalletTransaction where
  tenantId := input.tenantId
  transactionType := .deduction
  quantity := -input.creditCost
  balanceAfter
  reference := some logId
  reason := some (input.messageType.getD "sms_send")
  createdByUserId := input.sentByUserId

def acceptSms (balanceAfter : Int) :
    Transaction SmsDb Exception ReservedSmsCredits := do
  insertSmsLog (smsLog input logId .queued none)
  appendTransaction (deductionEntry input logId balanceAfter)
  return { accepted := true, reason := none, logId, balanceAfter, creditCost := some input.creditCost }

def rejectUnchanged :
    Transaction SmsDb Exception ReservedSmsCredits := do
  let currentWallet ← getOrCreateWallet input.tenantId
  let reason :=
    if monthlyLimitExceeded currentWallet input.creditCost then "SMS monthly limit exceeded"
    else "SMS balance exhausted"
  rejectSms input logId reason currentWallet.smsBalance

def reserveSmsCreditsInTransaction :
    Transaction SmsDb Exception ReservedSmsCredits := do
  let wallet ← getOrCreateWalletForUpdate input.tenantId
  if monthlyLimitExceeded wallet input.creditCost then
    rejectSms input logId "SMS monthly limit exceeded" wallet.smsBalance
  else if balanceExhausted wallet input.creditCost then
    rejectSms input logId "SMS balance exhausted" wallet.smsBalance
  else do
    match ← deductCredits input.tenantId input.creditCost with
    | none => rejectUnchanged input logId
    | some updated => acceptSms input logId updated.smsBalance

def isRefund (tenantId logId : String) (entry : SmsWalletTransaction) : Prop :=
  entry.tenantId = tenantId ∧ entry.transactionType = .refund ∧ entry.reference = some logId
deriving Decidable

def returnCredits : Transaction SmsDb Exception (Option SmsWalletRecord) := do
  integer creditCost
  let db ← current
  match db.wallets.find tenantId with
  | none => return none
  | some wallet =>
    let updated ← store wallet (wallet.smsBalance + creditCost) (max (wallet.monthlyUsed - creditCost) 0)
    putWallet updated
    return some updated

def refundEntry (input : RefundSmsCreditsInput) (balanceAfter : Int) : SmsWalletTransaction where
  tenantId := input.tenantId
  transactionType := .refund
  quantity := input.creditCost
  balanceAfter
  reference := some input.logId
  reason := some input.reason
  createdByUserId := input.actorUserId

/-- The advisory lock of a refund adds nothing to calls that run one after the other. -/
def refundSmsCredits (input : RefundSmsCreditsInput) : Transaction SmsDb Exception Unit := do
  let db ← current
  if ∃ entry ∈ db.transactions, isRefund input.tenantId input.logId entry then return ()
  else do
    let updated ← returnCredits input.tenantId input.creditCost
    appendTransaction (refundEntry input ((updated.map (·.smsBalance)).getD 0))

end SmsWallet

end ShuleHub.Integrations
