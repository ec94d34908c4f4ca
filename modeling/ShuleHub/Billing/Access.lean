import ShuleHub.Billing.LifecycleRuns

/-! What a request of a tenant may do, resolved from its context, the cache or the subscription. -/

namespace ShuleHub.Billing

open Transaction BillingLifecycle

structure BillingAccessContextState where
  subscriptionId : Option String
  planCode : Option String
  status : Option SubscriptionStatus
  lifecycleState : Option SubscriptionLifecycleState
  accessMode : Option SubscriptionAccessMode
  features : List String
  limits : JsMap String Json
  currentPeriodStart : Option Int
  currentPeriodEnd : Option Int
  warningStartsAt : Option Int
  gracePeriodEndsAt : Option Int
  restrictedAt : Option Int
  suspendedAt : Option Int
  suspensionReason : Option String
  renewalRequired : Bool
  isActive : Bool
deriving DecidableEq

namespace BillingAccess

variable {context cached : Option BillingAccessContextState} {now : Int} {db after : SubscriptionsDb}
  {access : BillingAccessContextState}

def buildAccessState :
    Option (SubscriptionEntity × SubscriptionLifecycleOverview) → BillingAccessContextState
  | none =>
    { subscriptionId := none
      planCode := none
      status := none
      lifecycleState := none
      accessMode := none
      features := []
      limits := []
      currentPeriodStart := none
      currentPeriodEnd := none
      warningStartsAt := none
      gracePeriodEndsAt := none
      restrictedAt := none
      suspendedAt := none
      suspensionReason := none
      renewalRequired := false
      isActive := false }
  | some (subscription, overview) =>
    { subscriptionId := some subscription.id
      planCode := some subscription.planCode
      status := some subscription.status
      lifecycleState := some overview.lifecycleState
      accessMode := some overview.accessMode
      features := subscription.features
      limits := subscription.limits
      currentPeriodStart := some subscription.currentPeriodStart
      currentPeriodEnd := some subscription.currentPeriodEnd
      warningStartsAt := some overview.warningStartsAt
      gracePeriodEndsAt := overview.gracePeriodEndsAt
      restrictedAt := overview.restrictedAt
      suspendedAt := overview.suspendedAt
      suspensionReason := overview.suspensionReason
      renewalRequired := overview.renewalRequired
      isActive := overview.accessMode ≠ .billingOnly }

def shouldBypassCache (access : BillingAccessContextState) : Bool :=
  access.lifecycleState.any fun state => state ≠ .active && state ≠ .trial

def known (context cached : Option BillingAccessContextState) : Option BillingAccessContextState :=
  context <|> cached.filter fun access => !shouldBypassCache access

def stored (cacheEnabled : Bool) (access : BillingAccessContextState) (cached : Option BillingAccessContextState) :
    Option BillingAccessContextState :=
  if !cacheEnabled || shouldBypassCache access then cached else some access

def computeAccess (now : Int) : Transaction SubscriptionsDb Exception BillingAccessContextState := do
  let found ← ensureCurrentLifecycle now
  return buildAccessState found

def resolveForTenant (context cached : Option BillingAccessContextState) (now : Int) :
    Transaction SubscriptionsDb Exception BillingAccessContextState :=
  match known context cached with
  | some access => return access
  | none => computeAccess now

theorem resolveForTenant_ok {subscription : SubscriptionEntity}
    (single : Subscriptions.SingleMutable db) (locked : Subscriptions.lockCurrentByTenant db = some subscription)
    (resolved : (resolveForTenant context cached now).run db = .ok (access, after)) :
    Subscriptions.SingleMutable after ∧ ∃ later, Subscriptions.lockCurrentByTenant after = some later ∧
      SameTerms subscription later := by
  unfold resolveForTenant at resolved
  split at resolved
  · simp only [run_pure_ok] at resolved
    obtain ⟨-, rfl⟩ := resolved
    exact ⟨single, subscription, locked, .refl subscription⟩
  · simp only [computeAccess, run_bind_ok, run_pure_ok] at resolved
    obtain ⟨found, middle, looked, -, rfl⟩ := resolved
    obtain ⟨stays, -, relocked, -⟩ := ensureCurrentLifecycle_ok single looked
    rw [locked, Option.map_some] at relocked
    exact ⟨stays, _, relocked, sameTerms_resolved subscription now⟩

theorem resolveForTenant_keepsPeriods
    (resolved : (resolveForTenant context cached now).run db = .ok (access, after)) :
    Subscriptions.KeepsPeriods db after := by
  unfold resolveForTenant at resolved
  split at resolved
  · simp only [run_pure_ok] at resolved
    obtain ⟨-, rfl⟩ := resolved
    exact .refl _
  · simp only [computeAccess, run_bind_ok, run_pure_ok] at resolved
    obtain ⟨found, middle, looked, -, rfl⟩ := resolved
    intro row member
    obtain ⟨old, present, terms⟩ := ensureCurrentLifecycle_terms looked row member
    exact ⟨old, present, terms.id.symm, terms.periodEnd.symm⟩

end BillingAccess

end ShuleHub.Billing
