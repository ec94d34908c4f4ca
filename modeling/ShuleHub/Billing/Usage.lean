import ShuleHub.Billing.Access
import ShuleHub.Lib.Locking

/-! Metering: usage records, the limits that are checked before one is added, and the requests that
add them side by side under the lock of the subscription. -/

namespace ShuleHub.Billing

open Transaction BillingLifecycle BillingAccess

structure UsageRecordEntity where
  id : String
  subscriptionId : String
  featureKey : String
  quantity : Nat
  unit : String
  idempotencyKey : String
  recordedAt : Int
  periodStart : Int
  periodEnd : Int
  metadata : Metadata

structure UsageDb where
  subscriptions : SubscriptionsDb
  usageRecords : List UsageRecordEntity

structure RecordUsageDto where
  featureKey : String
  quantity : String
  idempotencyKey : String
  unit : Option String
  recordedAt : Option String
  metadata : Metadata

/-- A request to record usage: its clock, the access its context holds and the one the cache answers. -/
structure UsageCall where
  newId : String
  now : Int
  context : Option BillingAccessContextState
  cached : Option BillingAccessContextState
  dto : RecordUsageDto

def onSubscriptions {A : Type} (action : Transaction SubscriptionsDb Exception A) : Transaction UsageDb Exception A :=
  zoom (·.subscriptions) (fun db subscriptions => { db with subscriptions }) action

@[simp] theorem onSubscriptions_ok {A : Type} {action : Transaction SubscriptionsDb Exception A} {result : A}
    {db after : UsageDb} :
    (onSubscriptions action).run db = .ok (result, after) ↔
      ∃ subscriptions, action.run db.subscriptions = .ok (result, subscriptions) ∧ after = { db with subscriptions } :=
  run_zoom_ok

namespace UsageMeter

variable (usage : List UsageRecordEntity) (runtime : Runtime) (call : UsageCall)

def monthlyLimitKey : String := "usage.events.monthly"

def readPositiveLimit (value : Option Json) : Option Nat :=
  let positive (text : String) : Option Nat :=
    if JsText.isDecimal text ∧ 0 < JsText.decimalValue text then some (JsText.decimalValue text) else none
  match value with
  | some (.num number) => positive number.text
  | some (.str text) => positive (JsText.trim text)
  | _ => none

def resolveFeatureLimitKey (_featureKey : String) : Option String := none

def parsePositiveQuantity (value featureKey : String) : Except Exception Nat :=
  if JsText.isPositiveNumeral value then .ok (JsText.decimalValue value)
  else .error (.conflict ("Usage quantity for feature \"" ++ featureKey ++ "\" must be a positive integer"))

def resolveTimestamp (value : String) : Except Exception Int :=
  match runtime.parseDate value with
  | some time => .ok time
  | none => .error (.conflict ("Invalid timestamp \"" ++ value ++ "\""))

def recordedAt (runtime : Runtime) (call : UsageCall) : Except Exception Int :=
  match call.dto.recordedAt with
  | none => .ok call.now
  | some "" => .ok call.now
  | some value => resolveTimestamp runtime value

def findByIdempotencyKey (subscriptionId idempotencyKey : String) :
    Option UsageRecordEntity :=
  usage.find? fun record => record.subscriptionId = subscriptionId ∧ record.idempotencyKey = idempotencyKey

def Counted (subscriptionId : String) (periodStart periodEnd : Int) (featureKey : Option String)
    (record : UsageRecordEntity) : Prop :=
  record.subscriptionId = subscriptionId ∧ periodStart ≤ record.recordedAt ∧ record.recordedAt < periodEnd ∧
    featureKey.all (· = record.featureKey)
deriving Decidable

def getTotalQuantity (subscriptionId : String) (periodStart periodEnd : Int)
    (featureKey : Option String) : Nat :=
  Table.total (Counted subscriptionId periodStart periodEnd featureKey) (·.quantity) usage

def assertUsageLimit (subscription : SubscriptionEntity) (limitKey : String)
    (incrementBy : Nat) (featureKey : Option String) : Except Exception Unit :=
  match readPositiveLimit (subscription.limits.get? limitKey) with
  | none => .ok ()
  | some configuredLimit =>
    failIf (configuredLimit < getTotalQuantity usage subscription.id subscription.currentPeriodStart
        subscription.currentPeriodEnd featureKey + incrementBy)
      (.paymentRequired ("Current subscription limit \"" ++ limitKey ++ "\" has been reached"))

def assertUsageLimits (subscription : SubscriptionEntity) (featureKey : String)
    (quantity : Nat) : Except Exception Unit := do
  assertUsageLimit usage subscription monthlyLimitKey quantity none
  match resolveFeatureLimitKey featureKey with
  | none => return ()
  | some featureLimitKey => assertUsageLimit usage subscription featureLimitKey quantity (some featureKey)

def createUsageRecord (record : UsageRecordEntity) : Transaction UsageDb Exception UsageRecordEntity := do
  failIf (record.featureKey = "") (.database "ck_usage_records_feature_key_not_blank")
  failIf (record.idempotencyKey = "") (.database "ck_usage_records_idempotency_key_not_blank")
  failIf (2 ^ 63 ≤ record.quantity) (.database "bigint out of range")
  let db ← current
  match findByIdempotencyKey db.usageRecords record.subscriptionId record.idempotencyKey with
  | some existing => return existing
  | none =>
    failIf (∃ other ∈ db.usageRecords, other.id = record.id) (.database "usage_records_pkey")
    write fun db => { db with usageRecords := db.usageRecords ++ [record] }
    return record

def requireActiveSubscription (locked : Option SubscriptionEntity) :
    Transaction UsageDb Exception SubscriptionEntity := do
  let access ← onSubscriptions (resolveForTenant call.context call.cached call.now)
  match locked with
  | none => fail (.notFound "No subscription exists for this tenant")
  | some subscription =>
    failIf (access.isActive = false) (.conflict "An active subscription is required to meter usage")
    return subscription

def recordLocked (locked : Option SubscriptionEntity)
    (usage : List UsageRecordEntity) : Transaction UsageDb Exception UsageRecordEntity := do
  let subscription ← requireActiveSubscription call locked
  let featureKey := JsText.trim call.dto.featureKey
  let idempotencyKey := JsText.trim call.dto.idempotencyKey
  match findByIdempotencyKey usage subscription.id idempotencyKey with
  | some existing => return existing
  | none =>
    let quantity ← monadLift (parsePositiveQuantity (JsText.trim call.dto.quantity) featureKey)
    monadLift (assertUsageLimits usage subscription featureKey quantity)
    let time ← monadLift (recordedAt runtime call)
    createUsageRecord
      { id := call.newId
        subscriptionId := subscription.id
        featureKey
        quantity
        unit := (readString call.dto.unit).getD "count"
        idempotencyKey
        recordedAt := time
        periodStart := subscription.currentPeriodStart
        periodEnd := subscription.currentPeriodEnd
        metadata := call.dto.metadata }

def recordUsage : Transaction UsageDb Exception UsageRecordEntity := do
  let db ← current
  recordLocked runtime call (Subscriptions.lockCurrentByTenant db.subscriptions) db.usageRecords

theorem recordUsage_ok {runtime : Runtime} {call : UsageCall} {db after : UsageDb} {record : UsageRecordEntity}
    (recorded : (recordUsage runtime call).run db = .ok (record, after)) :
    ∃ subscription access subscriptions, Subscriptions.lockCurrentByTenant db.subscriptions = some subscription ∧
      (resolveForTenant call.context call.cached call.now).run db.subscriptions = .ok (access, subscriptions) ∧
      (after = { db with subscriptions } ∨
        findByIdempotencyKey db.usageRecords subscription.id (JsText.trim call.dto.idempotencyKey) = none ∧
          recordedAt runtime call = .ok record.recordedAt ∧ record.subscriptionId = subscription.id ∧
          assertUsageLimit db.usageRecords subscription monthlyLimitKey record.quantity none = .ok () ∧
          after = { subscriptions, usageRecords := db.usageRecords ++ [record] }) := by
  simp only [recordUsage, recordLocked, requireActiveSubscription, run_bind_ok, run_current_ok, onSubscriptions_ok]
    at recorded
  obtain ⟨_, _, ⟨rfl, rfl⟩, subscription, middle, ⟨access, _, ⟨subscriptions, resolved, rfl⟩, active⟩, rest⟩ := recorded
  cases locked : Subscriptions.lockCurrentByTenant db.subscriptions with
  | none => simp [locked] at active
  | some found =>
    simp only [locked, run_bind_ok, run_failIf_ok, run_pure_ok] at active
    obtain ⟨_, _, ⟨-, rfl⟩, rfl, rfl⟩ := active
    refine ⟨found, access, subscriptions, rfl, resolved, ?_⟩
    cases existing : findByIdempotencyKey db.usageRecords found.id (JsText.trim call.dto.idempotencyKey) with
    | some record =>
      simp only [existing, run_pure_ok] at rest
      exact .inl rest.2.symm
    | none =>
      simp only [existing, createUsageRecord, assertUsageLimits, resolveFeatureLimitKey, run_bind_ok, run_lift_ok,
        run_failIf_ok, run_current_ok, Outcome.bind_ok, Outcome.pure_ok] at rest
      obtain ⟨quantity, _, ⟨-, rfl⟩, _, _, ⟨⟨_, limited, -⟩, rfl⟩, time, _, ⟨timed, rfl⟩, _, _, ⟨-, rfl⟩, _, _,
        ⟨-, rfl⟩, _, _, ⟨-, rfl⟩, _, _, ⟨rfl, rfl⟩, rest⟩ := rest
      simp only [existing, run_bind_ok, run_failIf_ok, run_write_ok, run_pure_ok] at rest
      obtain ⟨_, _, ⟨-, rfl⟩, _, _, rfl, rfl, rfl⟩ := rest
      exact .inr ⟨rfl, timed, rfl, limited, rfl⟩

end UsageMeter

end ShuleHub.Billing
