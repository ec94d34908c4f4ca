import Mathlib.Order.Lattice
import ShuleHub.Billing.Subscriptions

/-! The lifecycle of a subscription: what it grants at a moment, and how looking at it moves it on. -/

namespace ShuleHub.Billing

open Transaction Subscriptions

inductive SubscriptionLifecycleState where
  | active
  | trial
  | expiring
  | gracePeriod
  | restricted
  | suspended
deriving DecidableEq

inductive SubscriptionAccessMode where
  | full
  | readOnly
  | billingOnly
deriving DecidableEq

namespace SubscriptionAccessMode

variable {mode : SubscriptionAccessMode}

def rank : SubscriptionAccessMode → Nat
  | .full => 2
  | .readOnly => 1
  | .billingOnly => 0

instance : LinearOrder SubscriptionAccessMode :=
  LinearOrder.lift' rank fun left right same => by
    cases left <;> cases right <;> first | rfl | cases same

@[simp] theorem full_le : full ≤ mode ↔ mode = full := by
  cases mode <;> decide

@[simp] theorem readOnly_le : readOnly ≤ mode ↔ mode ≠ billingOnly := by
  cases mode <;> decide

@[simp] theorem le_billingOnly : mode ≤ billingOnly ↔ mode = billingOnly := by
  cases mode <;> decide

end SubscriptionAccessMode

structure SubscriptionLifecycleOverview where
  lifecycleState : SubscriptionLifecycleState
  accessMode : SubscriptionAccessMode
  warningStartsAt : Int
  gracePeriodEndsAt : Option Int
  restrictedAt : Option Int
  suspendedAt : Option Int
  suspensionReason : Option String
  renewalRequired : Bool

def billingExpiringWindowDays : Int := 5

def billingGracePeriodDays : Int := 7

def billingRestrictedPeriodDays : Int := 7

namespace BillingLifecycle

variable {now : Int} {db after : SubscriptionsDb}
  {found : Option (SubscriptionEntity × SubscriptionLifecycleOverview)}

def getRenewalBoundary (subscription : SubscriptionEntity) : Int :=
  match subscription.status, subscription.trialEndsAt with
  | .trialing, some trialEndsAt => trialEndsAt
  | _, _ => subscription.currentPeriodEnd

def gracePeriodEnd (subscription : SubscriptionEntity) : Int :=
  subscription.gracePeriodEndsAt.getD (addDays (getRenewalBoundary subscription) billingGracePeriodDays)

def buildOverview (subscription : SubscriptionEntity) (now : Int) : SubscriptionLifecycleOverview :=
  let renewalBoundary := getRenewalBoundary subscription
  let warningStartsAt := addDays renewalBoundary (-billingExpiringWindowDays)
  let restrictedAt := subscription.restrictedAt
  let suspendedAt := subscription.suspendedAt <|> restrictedAt.map (addDays · billingRestrictedPeriodDays)
  let overview : SubscriptionLifecycleOverview :=
    { lifecycleState := .active
      accessMode := .full
      warningStartsAt
      gracePeriodEndsAt := some (gracePeriodEnd subscription)
      restrictedAt
      suspendedAt
      suspensionReason := subscription.suspensionReason
      renewalRequired := true }
  if subscription.status = .canceled ∨ subscription.status = .expired then
    { overview with
      lifecycleState := .suspended
      accessMode := .billingOnly
      suspensionReason := some (subscription.suspensionReason.getD subscription.status.text) }
  else if subscription.status = .suspended ∨ suspendedAt.any (· ≤ now) then
    { overview with
      lifecycleState := .suspended
      accessMode := .billingOnly
      suspendedAt := some (suspendedAt.getD now) }
  else if subscription.status = .restricted ∨ restrictedAt.any (· ≤ now) then
    { overview with
      lifecycleState := .restricted
      accessMode := .readOnly
      restrictedAt := some (restrictedAt.getD now) }
  else if subscription.status = .pastDue ∨ renewalBoundary < now then
    { overview with lifecycleState := .gracePeriod }
  else if subscription.status = .trialing then
    { overview with
      lifecycleState := if warningStartsAt ≤ now then .expiring else .trial
      renewalRequired := warningStartsAt ≤ now }
  else if warningStartsAt ≤ now then
    { overview with lifecycleState := .expiring }
  else
    { overview with renewalRequired := false }

/-- The window to apply, or `none` when `should_transition` is false. -/
def resolveTransition (subscription : SubscriptionEntity) (now : Int) : Option Subscriptions.LifecycleWindow :=
  let renewalBoundary := getRenewalBoundary subscription
  let computedGracePeriodEndsAt := gracePeriodEnd subscription
  let computedRestrictedAt := subscription.restrictedAt.getD now
  let computedSuspendedAt :=
    subscription.suspendedAt.getD (addDays computedRestrictedAt billingRestrictedPeriodDays)
  if renewalBoundary < now ∧ now ≤ computedGracePeriodEndsAt ∧ subscription.status ≠ .pastDue then
    some
      { status := .pastDue
        gracePeriodEndsAt := some computedGracePeriodEndsAt
        restrictedAt := none
        suspendedAt := none
        suspensionReason := none }
  else if computedGracePeriodEndsAt < now ∧ now < computedSuspendedAt ∧
      (subscription.status ≠ .restricted ∨ subscription.restrictedAt = none ∨ subscription.suspendedAt = none) then
    some
      { status := .restricted
        gracePeriodEndsAt := some computedGracePeriodEndsAt
        restrictedAt := some computedRestrictedAt
        suspendedAt := some computedSuspendedAt
        suspensionReason := some "renewal_required" }
  else if computedSuspendedAt ≤ now ∧ subscription.status ≠ .suspended then
    some
      { status := .suspended
        gracePeriodEndsAt := some computedGracePeriodEndsAt
        restrictedAt := some computedRestrictedAt
        suspendedAt := some computedSuspendedAt
        suspensionReason := some (subscription.suspensionReason.getD "renewal_required") }
  else
    none

def resolved (subscription : SubscriptionEntity) (now : Int) : SubscriptionEntity :=
  match resolveTransition subscription now with
  | some window => Subscriptions.windowed window subscription
  | none => subscription

def applyTransition (id : String) : Option Subscriptions.LifecycleWindow → Transaction SubscriptionsDb Exception Unit
  | some window => Subscriptions.applyLifecycleWindow id window
  | none => pure ()

def ensureCurrentLifecycle (now : Int) :
    Transaction SubscriptionsDb Exception (Option (SubscriptionEntity × SubscriptionLifecycleOverview)) := do
  let db ← current
  match Subscriptions.lockCurrentByTenant db with
  | none => return none
  | some subscription =>
    applyTransition subscription.id (resolveTransition subscription now)
    let resolvedSubscription := resolved subscription now
    return some (resolvedSubscription, buildOverview resolvedSubscription now)

theorem windowed_mutable {subscription : SubscriptionEntity} {window : Subscriptions.LifecycleWindow}
    (transition : resolveTransition subscription now = some window) :
    isMutable (windowed window subscription) := by
  unfold resolveTransition at transition
  simp only at transition
  split at transition
  · cases transition
    exact ⟨nofun, nofun⟩
  · split at transition
    · cases transition
      exact ⟨nofun, nofun⟩
    · split at transition
      · cases transition
        exact ⟨nofun, nofun⟩
      · cases transition

/-- What a look leaves of the subscription: its status and its windows may move. -/
structure SameTerms (before after : SubscriptionEntity) : Prop where
  id : after.id = before.id
  periodStart : after.currentPeriodStart = before.currentPeriodStart
  periodEnd : after.currentPeriodEnd = before.currentPeriodEnd
  limits : after.limits = before.limits
  createdAt : after.createdAt = before.createdAt

theorem SameTerms.refl (subscription : SubscriptionEntity) : SameTerms subscription subscription :=
  ⟨rfl, rfl, rfl, rfl, rfl⟩

theorem sameTerms_resolved (subscription : SubscriptionEntity) (now : Int) : SameTerms subscription (resolved subscription now) := by
  unfold resolved
  split <;> exact ⟨rfl, rfl, rfl, rfl, rfl⟩

theorem ensureCurrentLifecycle_terms
    (looked : (ensureCurrentLifecycle now).run db = .ok (found, after)) :
    ∀ row ∈ after.rows, ∃ old ∈ db.rows, SameTerms old row := by
  have still : ∀ row ∈ db.rows, ∃ old ∈ db.rows, SameTerms old row := fun row member => ⟨row, member, .refl row⟩
  simp only [ensureCurrentLifecycle, run_bind_ok, run_current_ok] at looked
  obtain ⟨_, _, ⟨rfl, rfl⟩, looked⟩ := looked
  split at looked
  · simp only [run_pure_ok] at looked
    obtain ⟨-, rfl⟩ := looked
    exact still
  · next subscription _ =>
    simp only [run_bind_ok, run_pure_ok] at looked
    obtain ⟨_, _, applied, -, rfl⟩ := looked
    cases transition : resolveTransition subscription now with
    | none =>
      simp only [transition, applyTransition, run_pure_ok, true_and] at applied
      subst applied
      exact still
    | some window =>
      simp only [transition, applyTransition, applyLifecycleWindow, updateSubscription,
        run_write_ok] at applied
      subst applied
      intro row member
      rcases KeyedTable.mem_update.mp member with ⟨old, present, -, rfl⟩ | ⟨present, -⟩
      · exact ⟨old, present, rfl, rfl, rfl, rfl, rfl⟩
      · exact still row present

theorem ensureCurrentLifecycle_ok (single : Subscriptions.SingleMutable db)
    (looked : (ensureCurrentLifecycle now).run db = .ok (found, after)) :
    Subscriptions.SingleMutable after ∧
      found = (lockCurrentByTenant db).map (fun subscription =>
        (resolved subscription now, buildOverview (resolved subscription now) now)) ∧
      lockCurrentByTenant after =
        (lockCurrentByTenant db).map (fun subscription => resolved subscription now) ∧
      ∀ row ∈ after.rows, ∃ old ∈ db.rows, SameTerms old row := by
  have terms := ensureCurrentLifecycle_terms looked
  simp only [ensureCurrentLifecycle, run_bind_ok, run_current_ok] at looked
  obtain ⟨_, _, ⟨rfl, rfl⟩, looked⟩ := looked
  cases locked : lockCurrentByTenant db with
  | none =>
    simp only [locked, run_pure_ok] at looked
    obtain ⟨rfl, rfl⟩ := looked
    exact ⟨single, rfl, locked, terms⟩
  | some subscription =>
    simp only [locked, run_bind_ok, run_pure_ok] at looked
    obtain ⟨_, _, applied, rfl, rfl⟩ := looked
    cases transition : resolveTransition subscription now with
    | none =>
      have same : resolved subscription now = subscription := by rw [resolved, transition]
      simp only [transition, applyTransition, run_pure_ok, true_and] at applied
      subst applied
      exact ⟨single, rfl, by rw [locked, Option.map_some, same], terms⟩
    | some window =>
      have same : resolved subscription now = windowed window subscription := by rw [resolved, transition]
      simp only [transition, applyTransition, applyLifecycleWindow, updateSubscription,
        run_write_ok] at applied
      subst applied
      obtain ⟨relocked, stays⟩ := lockCurrentByTenant_update (windowed window)
        (fun _ => rfl) single locked (windowed_mutable transition)
      exact ⟨stays, rfl, by rw [relocked, Option.map_some, same], terms⟩

def getNextRenewalWindow (subscription : SubscriptionEntity) (now : Int) : Int × Int :=
  let nextStartAt := if now < subscription.currentPeriodEnd then subscription.currentPeriodEnd else now
  (nextStartAt, addDays nextStartAt (planOrStarter subscription.planCode).periodDays)

theorem currentPeriodEnd_le_renewalStart (subscription : SubscriptionEntity) (now : Int) :
    subscription.currentPeriodEnd ≤ (getNextRenewalWindow subscription now).1 := by
  simp only [getNextRenewalWindow]
  split <;> omega

theorem currentPeriodEnd_lt_renewal (subscription : SubscriptionEntity) (now : Int) :
    subscription.currentPeriodEnd < (getNextRenewalWindow subscription now).2 :=
  (currentPeriodEnd_le_renewalStart subscription now).trans_lt
    (addDays_lt _ (Int.natCast_pos.mpr (planOrStarter_periodDays subscription.planCode)))

def renewSubscription (invoiceSubscriptionId : String) (now : Int) : Transaction SubscriptionsDb Exception Unit := do
  let db ← current
  match Subscriptions.lockCurrentByTenant db with
  | none => return ()
  | some subscription =>
    if subscription.id ≠ invoiceSubscriptionId then return ()
    else
      let renewalWindow := getNextRenewalWindow subscription now
      Subscriptions.restoreRenewedSubscription subscription.id renewalWindow.1 renewalWindow.2 now

theorem renewSubscription_ok {invoiceSubscriptionId : String}
    {subscription : SubscriptionEntity} (single : Subscriptions.SingleMutable db)
    (locked : lockCurrentByTenant db = some subscription) :
    ∃ after, (renewSubscription invoiceSubscriptionId now).run db = .ok ((), after) ∧
      Subscriptions.SingleMutable after ∧
      lockCurrentByTenant after = some
        (if subscription.id = invoiceSubscriptionId then
          renewed (getNextRenewalWindow subscription now).1 (getNextRenewalWindow subscription now).2
            now subscription
        else subscription) := by
  by_cases same : subscription.id = invoiceSubscriptionId
  · have current := lockCurrentByTenant_update
      (renewed (getNextRenewalWindow subscription now).1 (getNextRenewalWindow subscription now).2 now)
      (fun _ => rfl) single locked ⟨nofun, nofun⟩
    refine ⟨_, ?_, current.2, by rw [if_pos same]; exact current.1⟩
    simp [renewSubscription, locked, same, restoreRenewedSubscription, updateSubscription]
  · refine ⟨db, ?_, single, by rw [if_neg same]; exact locked⟩
    simp [renewSubscription, locked, same]

end BillingLifecycle

structure CreateSubscriptionDto where
  planCode : PlanCode
  status : Option SubscriptionStatus
  billingPhoneNumber : Option String
  seatsAllocated : Option Nat
  metadata : Metadata

structure SubscriptionResponse where
  subscription : SubscriptionEntity
  lifecycleState : SubscriptionLifecycleState
  accessMode : SubscriptionAccessMode
  renewalRequired : Bool

def mapSubscription (subscription : SubscriptionEntity) (overview : SubscriptionLifecycleOverview) :
    SubscriptionResponse where
  subscription
  lifecycleState := overview.lifecycleState
  accessMode := overview.accessMode
  renewalRequired := overview.renewalRequired

def CreateSubscriptionDto.statusOrDefault (dto : CreateSubscriptionDto) : SubscriptionStatus :=
  dto.status.getD (billingPlanCatalog dto.planCode).defaultStatus

def CreateSubscriptionDto.subscription (dto : CreateSubscriptionDto) (newId requestId : String) (now : Int) :
    SubscriptionEntity :=
  let plan := billingPlanCatalog dto.planCode
  { id := newId
    planCode := plan.code
    status := dto.statusOrDefault
    billingPhoneNumber := readString dto.billingPhoneNumber
    currencyCode := "KES"
    features := plan.features
    limits := plan.limits
    seatsAllocated := dto.seatsAllocated.getD 1
    currentPeriodStart := now
    currentPeriodEnd := addDays now plan.periodDays
    trialEndsAt := if dto.statusOrDefault = .trialing then some (addDays now plan.periodDays) else none
    gracePeriodEndsAt := none
    restrictedAt := none
    suspendedAt := none
    suspensionReason := none
    activatedAt := if dto.statusOrDefault = .active then some now else none
    canceledAt := none
    lastInvoiceAt := none
    metadata := dto.metadata.merge [("provisioned_by_request_id", .str requestId)]
    createdAt := now }

def createSubscription (newId requestId : String) (now answeredAt : Int) (dto : CreateSubscriptionDto) :
    Transaction SubscriptionsDb Exception SubscriptionResponse := do
  Subscriptions.expireCurrentSubscriptions now
  let subscription ← Subscriptions.createSubscription (dto.subscription newId requestId now)
  return mapSubscription subscription (BillingLifecycle.buildOverview subscription answeredAt)

end ShuleHub.Billing
