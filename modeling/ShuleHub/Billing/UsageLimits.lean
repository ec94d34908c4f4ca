import ShuleHub.Billing.Usage

/-! The usage of a billing period, over requests and renewals that wait for one another's lock. -/

namespace ShuleHub.Billing

open Transaction BillingLifecycle BillingAccess UsageMeter Locking Runs Subscriptions Table

variable (runtime : Runtime) (subscriptionId : String)

structure MeteredDb where
  db : UsageDb
  periods : List (Int × Int)

variable (metered : MeteredDb)

inductive UsageRequest where
  | record (call : UsageCall)
  /-- The renewal in a completed payment of an invoice of the subscription. -/
  | renew (invoiceSubscriptionId : String) (now : Int)

def currentSubscription : Option SubscriptionEntity :=
  Subscriptions.lockCurrentByTenant metered.db.subscriptions

def billingPeriod (subscription : SubscriptionEntity) : Int × Int :=
  (subscription.currentPeriodStart, subscription.currentPeriodEnd)

def notePeriod (periods : List (Int × Int)) (subscription : Option SubscriptionEntity) : List (Int × Int) :=
  match subscription with
  | none => periods
  | some subscription =>
    if billingPeriod subscription ∈ periods then periods else periods ++ [billingPeriod subscription]

def recordMetered (action : Transaction UsageDb Exception UsageRecordEntity) :
    MeteredDb × Except Exception (Option UsageRecordEntity) :=
  let outcome := attempt action metered.db
  ({ metered with db := outcome.1 }, outcome.2.map some)

def renewMetered (invoiceSubscriptionId : String) (now : Int) (metered : MeteredDb) :
    MeteredDb × Except Exception (Option UsageRecordEntity) :=
  let subscriptions := commit (renewSubscription invoiceSubscriptionId now) metered.db.subscriptions
  ({ db := { metered.db with subscriptions }
     periods := notePeriod metered.periods (Subscriptions.lockCurrentByTenant subscriptions) }, .ok none)

def UsageRequest.perform (request : UsageRequest) (metered : MeteredDb) :
    MeteredDb × Except Exception (Option UsageRecordEntity) :=
  match request with
  | .record call => recordMetered metered (recordUsage runtime call)
  | .renew invoiceSubscriptionId now => renewMetered invoiceSubscriptionId now metered

inductive UsageView where
  | begun
  | locked (subscription : Option SubscriptionEntity)
  | read (subscription : Option SubscriptionEntity) (usage : List UsageRecordEntity)

@[grind =] def UsageView.subscription : UsageView → Option SubscriptionEntity
  | .begun => none
  | .locked subscription | .read subscription _ => subscription

def usageStage : UsageView → MeteredDb → UsageView
  | .begun, metered => .locked (currentSubscription metered)
  | .locked subscription, metered => .read subscription metered.db.usageRecords
  | view, _ => view

def usageReady : UsageRequest → UsageView → Bool
  | .renew _ _, .locked _ | .renew _ _, .read _ _ | .record _, .read _ _ => true
  | _, _ => false

def settleUsage (request : UsageRequest) (view : UsageView) (metered : MeteredDb) :
    MeteredDb × Except Exception (Option UsageRecordEntity) :=
  match request, view with
  | .record call, .read subscription usage => recordMetered metered (recordLocked runtime call subscription usage)
  | .record _, _ => (metered, .ok none)
  | .renew invoiceSubscriptionId now, _ => renewMetered invoiceSubscriptionId now metered

def usageProtocol :
    Protocol MeteredDb UsageRequest String UsageView (Except Exception (Option UsageRecordEntity)) where
  start _ := .begun
  stage _ _ view metered := usageStage view metered
  held _ _ view := (view.subscription.map (·.id)).toList
  ready request _ view := usageReady request view
  settle request view metered := settleUsage runtime request view metered

section Protocol

variable {runtime : Runtime}

theorem observed_cases (request : UsageRequest) (stages : Nat) (metered : MeteredDb) :
    observed (usageProtocol runtime) request stages metered =
      match stages with
      | 0 => .begun
      | 1 => .locked (currentSubscription metered)
      | _ + 2 => .read (currentSubscription metered) metered.db.usageRecords := by
  match stages with
  | 0 => rfl
  | 1 => rfl
  | stages + 2 =>
    induction stages with
    | zero => rfl
    | succ stages ih =>
      change usageStage (observed (usageProtocol runtime) request (stages + 2) metered) metered = _
      rw [ih]
      rfl

theorem recordUsage_of_none (runtime : Runtime) (call : UsageCall) {db : UsageDb}
    (missing : lockCurrentByTenant db.subscriptions = none) :
    (attempt (recordUsage runtime call) db).1 = db := by
  cases outcome : (recordUsage runtime call).run db with
  | error error => simp [attempt, outcome]
  | ok value =>
    obtain ⟨record, after⟩ := value
    simp [recordUsage, missing, recordLocked, requireActiveSubscription] at outcome

theorem perform_of_none {request : UsageRequest} {metered : MeteredDb} (missing : currentSubscription metered = none) :
    (request.perform runtime metered).1 = metered := by
  cases request with
  | record call =>
    have unchanged := recordUsage_of_none runtime call missing
    simp only [UsageRequest.perform, recordMetered, unchanged]
  | renew invoiceSubscriptionId now =>
    have still : lockCurrentByTenant metered.db.subscriptions = none := missing
    have renewed : (renewSubscription invoiceSubscriptionId now).run metered.db.subscriptions =
        .ok ((), metered.db.subscriptions) := by
      simp [renewSubscription, still]
    simp only [UsageRequest.perform, renewMetered, commit_of_ok renewed, still, notePeriod]

theorem usageProtocol_sound :
    Sound (usageProtocol runtime) (fun _ => True) (UsageRequest.perform runtime) where
  startsFree _ := rfl
  atomicGood _ _ good := good
  complete request stages metered _ ready := by
    cases request with
    | renew invoiceSubscriptionId now => rfl
    | record call =>
      rw [observed_cases] at ready ⊢
      match stages with
      | 0 | 1 => cases ready
      | stages + 2 => rfl
  stable mine stages theirs metered _ otherStages ready apart := by
    cases locked : currentSubscription metered with
    | none => rw [perform_of_none locked]
    | some subscription =>
      have holds : ∀ request stages, stages ≠ 0 → subscription.id ∈ (usageProtocol runtime).held request stages
          (observed (usageProtocol runtime) request stages metered) := by
        intro request stages begun
        rw [observed_cases]
        match stages with
        | 1 | _ + 2 => simp [usageProtocol, UsageView.subscription, locked]
      -- A request that is ready has the row of the subscription, so this one has not locked it yet.
      match stages, otherStages with
      | 0, _ => rfl
      | _ + 1, 0 => cases theirs <;> cases ready
      | stages + 1, otherStages + 1 => exact absurd (holds theirs _ (by simp)) (apart _ (holds mine _ (by simp)))

end Protocol

def usageIn (period : Int × Int) (metered : MeteredDb) : Nat :=
  getTotalQuantity metered.db.usageRecords subscriptionId period.1 period.2 none

def WithinLimit (limit : Nat) (metered : MeteredDb) : Prop :=
  ∀ period ∈ metered.periods, usageIn subscriptionId period metered ≤ limit
deriving Decidable

def Contains (period : Int × Int) (time : Int) : Prop := period.1 ≤ time ∧ time < period.2
deriving Decidable

/-- Usage that the call would add is recorded before the end of the current period, and in no earlier one. -/
def RecordsInPeriod : UsageRequest → Prop
  | .renew _ _ => True
  | .record call =>
    ∀ subscription ∈ currentSubscription metered,
      findByIdempotencyKey metered.db.usageRecords subscription.id (JsText.trim call.dto.idempotencyKey) = none →
      ∀ time ∈ (recordedAt runtime call).toOption, time < subscription.currentPeriodEnd ∧
        ∀ period ∈ metered.periods, Contains period time → period = billingPeriod subscription

instance (runtime : Runtime) (metered : MeteredDb) (request : UsageRequest) :
    Decidable (RecordsInPeriod runtime metered request) := by
  cases request <;> unfold RecordsInPeriod <;> infer_instance

structure Metered (limit : Nat) (metered : MeteredDb) : Prop where
  single : Subscriptions.SingleMutable metered.db.subscriptions
  subscription : ∃ subscription, currentSubscription metered = some subscription ∧ subscription.id = subscriptionId ∧
    readPositiveLimit (subscription.limits.get? monthlyLimitKey) = some limit ∧
    billingPeriod subscription ∈ metered.periods ∧
    ∀ record ∈ metered.db.usageRecords, record.subscriptionId = subscriptionId →
      record.recordedAt < subscription.currentPeriodEnd
  within : WithinLimit subscriptionId limit metered

section Steps

variable {runtime : Runtime} {subscriptionId : String} {limit : Nat} {metered : MeteredDb}

theorem mem_notePeriod {periods : List (Int × Int)} {subscription : SubscriptionEntity} {period : Int × Int} :
    period ∈ notePeriod periods (some subscription) ↔ period ∈ periods ∨ period = billingPeriod subscription := by
  simp only [notePeriod]
  split
  · next known => exact ⟨.inl, fun member => member.elim id fun same => same ▸ known⟩
  · simp

theorem renew_metered (invoiceSubscriptionId : String) (now : Int) (before : Metered subscriptionId limit metered) :
    Metered subscriptionId limit (renewMetered invoiceSubscriptionId now metered).1 := by
  obtain ⟨subscription, locked, named, limited, period, timely⟩ := before.subscription
  obtain ⟨after, ran, single, relocked⟩ := renewSubscription_ok before.single locked
  have committed : commit (renewSubscription invoiceSubscriptionId now) metered.db.subscriptions = after :=
    commit_of_ok ran
  simp only [renewMetered, committed, relocked]
  by_cases same : subscription.id = invoiceSubscriptionId
  · rw [if_pos same] at relocked
    rw [if_pos same]
    refine ⟨single, ⟨_, relocked, named, limited, mem_notePeriod.mpr (.inr rfl), fun record member own => ?_⟩, ?_⟩
    · exact (timely record member own).trans (currentPeriodEnd_lt_renewal subscription now)
    · intro span member
      rcases mem_notePeriod.mp member with old | rfl
      · exact before.within span old
      · -- Everything recorded so far lies before the period that the renewal opens.
        have unused : getTotalQuantity metered.db.usageRecords subscriptionId (getNextRenewalWindow subscription now).1
            (getNextRenewalWindow subscription now).2 none = 0 := by
          refine total_eq_zero fun record member counted => ?_
          have earlier := timely record member counted.1
          have later := (currentPeriodEnd_le_renewalStart subscription now).trans counted.2.1
          omega
        exact le_of_eq_of_le unused (Nat.zero_le limit)
  · rw [if_neg same] at relocked
    rw [if_neg same]
    refine ⟨single, ⟨subscription, relocked, named, limited, mem_notePeriod.mpr (.inr rfl), timely⟩, ?_⟩
    intro span member
    rcases mem_notePeriod.mp member with old | rfl
    · exact before.within span old
    · exact before.within _ period

theorem record_metered {call : UsageCall} {after : UsageDb} {record : UsageRecordEntity}
    (before : Metered subscriptionId limit metered) (timely : RecordsInPeriod runtime metered (.record call))
    (recorded : (recordUsage runtime call).run metered.db = .ok (record, after)) :
    Metered subscriptionId limit { metered with db := after } := by
  obtain ⟨subscription, locked, named, limited, period, earlier⟩ := before.subscription
  obtain ⟨found, access, subscriptions, foundLocked, resolved, outcome⟩ := recordUsage_ok recorded
  obtain rfl : subscription = found := Option.some.inj (locked.symm.trans foundLocked)
  obtain ⟨single, later, relocked, terms⟩ := resolveForTenant_ok before.single locked resolved
  have samePeriod : billingPeriod later = billingPeriod subscription := by
    rw [billingPeriod, billingPeriod, terms.periodStart, terms.periodEnd]
  rcases outcome with rfl | ⟨fresh, timed, own, allowed, rfl⟩
  · refine ⟨single, ⟨later, relocked, terms.id.trans named, terms.limits ▸ limited, samePeriod ▸ period, ?_⟩,
      before.within⟩
    exact fun record member own => terms.periodEnd ▸ earlier record member own
  · have inPeriod := timely subscription locked fresh record.recordedAt (by simp [timed, Except.toOption])
    refine ⟨single, ⟨later, relocked, terms.id.trans named, terms.limits ▸ limited, samePeriod ▸ period, ?_⟩, ?_⟩
    · intro other member owned
      rw [terms.periodEnd]
      rcases List.mem_append.mp member with old | new
      · exact earlier other old owned
      · rw [List.mem_singleton.mp new]
        exact inPeriod.1
    · intro span member
      have added : usageIn subscriptionId span { metered with db := { subscriptions, usageRecords :=
          metered.db.usageRecords ++ [record] } } = usageIn subscriptionId span metered +
            if Counted subscriptionId span.1 span.2 none record then record.quantity else 0 := by
        simp only [usageIn, getTotalQuantity, total_append, total_cons, total_nil, Nat.add_zero]
      rw [added]
      by_cases counted : Counted subscriptionId span.1 span.2 none record
      · obtain rfl := inPeriod.2 span member ⟨counted.2.1, counted.2.2.1⟩
        rw [if_pos counted]
        simp only [assertUsageLimit, limited, Outcome.failIf_ok, named] at allowed
        exact not_lt.mp allowed
      · rw [if_neg counted]
        exact before.within span member

theorem perform_metered {request : UsageRequest} (before : Metered subscriptionId limit metered)
    (timely : RecordsInPeriod runtime metered request) :
    Metered subscriptionId limit (request.perform runtime metered).1 := by
  cases request with
  | renew invoiceSubscriptionId now => exact renew_metered invoiceSubscriptionId now before
  | record call =>
    simp only [UsageRequest.perform, recordMetered, attempt]
    cases outcome : (recordUsage runtime call).run metered.db with
    | ok value => exact record_metered before timely outcome
    | error error => exact before

end Steps

theorem metered_start {subscription : SubscriptionEntity} {db : UsageDb}
    (single : Subscriptions.SingleMutable db.subscriptions)
    (locked : lockCurrentByTenant db.subscriptions = some subscription)
    (limited : readPositiveLimit (subscription.limits.get? monthlyLimitKey) = some limit)
    (unused : ∀ record ∈ db.usageRecords, record.subscriptionId ≠ subscription.id) :
    Metered subscription.id limit ⟨db, [billingPeriod subscription]⟩ := by
  refine ⟨single, ⟨subscription, locked, rfl, limited, List.mem_singleton.mpr rfl, ?_⟩, fun period _ => ?_⟩
  · exact fun record member own => absurd own (unused record member)
  · have none : usageIn subscription.id period ⟨db, [billingPeriod subscription]⟩ = 0 :=
      total_eq_zero fun record member counted => unused record member counted.1
    exact le_of_eq_of_le none (Nat.zero_le limit)

/-- Where usage is recorded in the period that is current, no billing period exceeds the limit of the
subscription, in every interleaving of records and renewals. -/
theorem usage_within_limit {runtime : Runtime} {subscription : SubscriptionEntity} {limit : Nat} {db : UsageDb}
    {events : List (Event UsageRequest)} (single : Subscriptions.SingleMutable db.subscriptions)
    (locked : Subscriptions.lockCurrentByTenant db.subscriptions = some subscription)
    (limited : readPositiveLimit (subscription.limits.get? monthlyLimitKey) = some limit)
    (unused : ∀ record ∈ db.usageRecords, record.subscriptionId ≠ subscription.id)
    (timely : ∀ done ∈ (run (step (usageProtocol runtime)) (World.idle ⟨db, [billingPeriod subscription]⟩)
      events).finished, RecordsInPeriod runtime done.before done.request) :
    WithinLimit subscription.id limit
      (run (step (usageProtocol runtime)) (World.idle ⟨db, [billingPeriod subscription]⟩) events).db := by
  have sound : Sound (usageProtocol runtime) (fun _ => True) (UsageRequest.perform runtime) := usageProtocol_sound
  have kept (done : Finished MeteredDb UsageRequest (Except Exception (Option UsageRecordEntity)))
      (inPeriod : RecordsInPeriod runtime done.before done.request)
      (before : Metered subscription.id limit done.before)
      (ran : done.request.perform runtime done.before = (done.after, done.result)) :
      Metered subscription.id limit done.after := by
    have after := perform_metered before inPeriod
    rwa [ran] at after
  have initial := metered_start single locked limited unused
  exact (serial_preserves kept (run_serial sound trivial events) timely initial).within

def meterRuntime : Runtime where
  tenantId := "school"
  sha256 := id
  parseDate text := if text = "1970-02-01T00:00:00.000Z" then some (31 * dayMs) else none
  localeLe left right := Json.utf16Units left ≤ Json.utf16Units right
  idempotencyTtlSeconds := 60

def unusedDb : UsageDb := ⟨activeDb, []⟩

def sampleUsage (key : String) (recordedAt : Option String) : UsageRequest :=
  .record
    { newId := key
      now := 1
      context := none
      cached := none
      dto :=
        { featureKey := "sms"
          quantity := "50000"
          idempotencyKey := key
          unit := none
          recordedAt
          metadata := [] } }

def meteredRun (events : List (Event UsageRequest)) : MeteredDb :=
  (run (step (usageProtocol meterRuntime)) (World.idle ⟨unusedDb, [billingPeriod activeSubscription]⟩) events).db

/-- The second request waits for the first one and is refused. -/
theorem second_request_is_refused :
    WithinLimit activeSubscription.id 50000
      (meteredRun [.begin (sampleUsage "k1" none), .begin (sampleUsage "k2" none), .advance 0, .advance 1, .advance 0,
        .finish 0, .advance 0, .advance 0, .finish 0]) :=
  usage_within_limit (by decide +kernel) rfl (by decide +kernel) (fun _ member => absurd member List.not_mem_nil)
    (by decide +kernel)

/-- Usage dated into the next period is checked against the current one, and counts when a renewal opens it. -/
theorem postdated_usage_exceeds_limit :
    ¬ WithinLimit activeSubscription.id 50000
      (meteredRun [.begin (sampleUsage "k1" (some "1970-02-01T00:00:00.000Z")), .advance 0, .advance 0, .finish 0,
        .begin (sampleUsage "k2" (some "1970-02-01T00:00:00.000Z")), .advance 0, .advance 0, .finish 0,
        .begin (.renew "s1" (29 * dayMs)), .advance 0, .finish 0]) := by
  decide +kernel

end ShuleHub.Billing
