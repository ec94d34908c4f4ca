import Mathlib.Data.List.Chain
import ShuleHub.Billing.Lifecycle

/-! Runs of one subscription without a payment: its status is looked at again and again. -/

namespace ShuleHub.Billing

open Transaction BillingLifecycle KeyedTable

variable {after db : SubscriptionsDb} {periodEnd now answeredAt : Int} {times : List Int}
  {subscription : SubscriptionEntity} {newId requestId : String} {dto : CreateSubscriptionDto}
  {response : SubscriptionResponse}

structure LifecycleAnswer where
  status : SubscriptionStatus
  accessMode : SubscriptionAccessMode
deriving DecidableEq

/-- What the calls of `ensureCurrentLifecycle` at these times return, one after the other. -/
@[grind =] def lifecycleAnswers : SubscriptionsDb → List Int → List LifecycleAnswer
  | _, [] => []
  | db, now :: later =>
    match attempt (ensureCurrentLifecycle now) db with
    | (after, .ok (some (subscription, overview))) =>
      ⟨subscription.status, overview.accessMode⟩ :: lifecycleAnswers after later
    | (after, _) => lifecycleAnswers after later

def SubscriptionResponse.answer (response : SubscriptionResponse) : LifecycleAnswer :=
  ⟨response.subscription.status, response.accessMode⟩

def LifecycleAnswer.descends (earlier later : LifecycleAnswer) : Prop :=
  later.accessMode ≤ earlier.accessMode ∧
    (earlier.status ∈ [.canceled, .expired, .suspended] → later.status ∉ [.pastDue, .restricted, .active])
deriving Decidable

def AccessDescends (answers : List LifecycleAnswer) : Prop := answers.Pairwise LifecycleAnswer.descends
deriving Decidable

/-- What a status grants while the windows of the subscription agree with it. -/
@[grind =] def grants : SubscriptionStatus → SubscriptionAccessMode
  | .trialing | .active | .pastDue => .full
  | .restricted => .readOnly
  | .suspended | .canceled | .expired => .billingOnly

/-- The looks that leave a status as low as it was created: none in the grace period for
`restricted`, none after the period for a closed subscription. -/
@[grind =] def LooksKeep (status : SubscriptionStatus) (periodEnd : Int) (times : List Int) : Prop :=
  match status with
  | .trialing | .active | .pastDue => True
  | .restricted => ∀ time ∈ times, ¬ (periodEnd < time ∧ time ≤ addDays periodEnd billingGracePeriodDays)
  | .suspended | .canceled | .expired => ∀ time ∈ times, time ≤ periodEnd

/-- The windows of a subscription last looked at `now`, whose period ends at `periodEnd`. -/
structure Lapses (subscription : SubscriptionEntity) (periodEnd now : Int) : Prop where
  period : subscription.currentPeriodEnd = periodEnd
  trial : ∀ ends, subscription.trialEndsAt = some ends → ends = periodEnd
  grace : ∀ ends, subscription.gracePeriodEndsAt = some ends → ends = addDays periodEnd billingGracePeriodDays
  windows : subscription.restrictedAt = none ∧ subscription.suspendedAt = none ∨
    ∃ start, subscription.restrictedAt = some start ∧
      subscription.suspendedAt = some (addDays start billingRestrictedPeriodDays) ∧
      addDays periodEnd billingGracePeriodDays < start ∧ start ≤ now ∧
      (subscription.status = .restricted ∧ now < addDays start billingRestrictedPeriodDays ∨
        subscription.status = .suspended ∧ addDays start billingRestrictedPeriodDays ≤ now)

namespace Lapses

variable {subscription : SubscriptionEntity} {periodEnd now time : Int}

theorem boundary (lapses : Lapses subscription periodEnd now) : getRenewalBoundary subscription = periodEnd := by
  unfold getRenewalBoundary
  split
  · next ends _ found => exact lapses.trial ends found
  · exact lapses.period

theorem gracePeriodEnd (lapses : Lapses subscription periodEnd now) :
    gracePeriodEnd subscription = addDays periodEnd billingGracePeriodDays := by
  unfold BillingLifecycle.gracePeriodEnd
  rw [lapses.boundary]
  cases found : subscription.gracePeriodEndsAt with
  | none => rfl
  | some ends => exact lapses.grace ends found

theorem accessMode (lapses : Lapses subscription periodEnd now) :
    (buildOverview subscription now).accessMode = grants subscription.status := by
  rcases lapses.windows with ⟨restricted, suspended⟩ | ⟨start, restricted, suspended, _, begun, status⟩
  · cases status : subscription.status <;>
      simp [buildOverview, restricted, suspended, status, grants,
        apply_ite SubscriptionLifecycleOverview.accessMode]
  · rcases status with ⟨status, ahead⟩ | ⟨status, passed⟩
    · simp [buildOverview, restricted, suspended, status, grants, not_le.mpr ahead]
    · simp [buildOverview, restricted, suspended, status, grants]

end Lapses

inductive Looked (before after : SubscriptionEntity) (periodEnd time : Int) : Prop where
  | early (inPeriod : time ≤ periodEnd) (same : after = before)
  | grace (unrestricted : before.restrictedAt = none) (past : periodEnd < time)
      (inGrace : time ≤ addDays periodEnd billingGracePeriodDays) (status : after.status = .pastDue)
  | restricts (unrestricted : before.restrictedAt = none) (past : addDays periodEnd billingGracePeriodDays < time)
      (status : after.status = .restricted) (window : after.restrictedAt ≠ none)
  | lapsed (window : before.restrictedAt ≠ none) (kept : after.restrictedAt ≠ none)
      (status : grants after.status ≤ grants before.status)

section Looks

variable {subscription : SubscriptionEntity} {periodEnd now time : Int}

theorem Lapses.windowed {window : Subscriptions.LifecycleWindow} (lapses : Lapses subscription periodEnd now)
    (grace : window.gracePeriodEndsAt = some (addDays periodEnd billingGracePeriodDays))
    (windows : (Subscriptions.windowed window subscription).restrictedAt = none ∧
        (Subscriptions.windowed window subscription).suspendedAt = none ∨
      ∃ start, (Subscriptions.windowed window subscription).restrictedAt = some start ∧
        (Subscriptions.windowed window subscription).suspendedAt =
          some (addDays start billingRestrictedPeriodDays) ∧
        addDays periodEnd billingGracePeriodDays < start ∧ start ≤ time ∧
        (window.status = .restricted ∧ time < addDays start billingRestrictedPeriodDays ∨
          window.status = .suspended ∧ addDays start billingRestrictedPeriodDays ≤ time)) :
    Lapses (Subscriptions.windowed window subscription) periodEnd time where
  period := lapses.period
  trial := lapses.trial
  grace := by
    simp [Subscriptions.windowed, grace, eq_comm]
  windows := windows

theorem looked_unrestricted (lapses : Lapses subscription periodEnd now)
    (restricted : subscription.restrictedAt = none) (suspended : subscription.suspendedAt = none) :
    Looked subscription (resolved subscription time) periodEnd time ∧
      Lapses (resolved subscription time) periodEnd time := by
  have boundary := lapses.boundary
  have graceEnd := lapses.gracePeriodEnd
  have unmoved : Lapses subscription periodEnd time :=
    ⟨lapses.period, lapses.trial, lapses.grace, .inl ⟨restricted, suspended⟩⟩
  have ahead : ¬ addDays time billingRestrictedPeriodDays ≤ time := not_le.mpr (addDays_lt time (by decide))
  have graceAfter : periodEnd < addDays periodEnd billingGracePeriodDays := addDays_lt periodEnd (by decide)
  by_cases inPeriod : time ≤ periodEnd
  · have transition : resolveTransition subscription time = none := by
      have noGrace : ¬ addDays periodEnd billingGracePeriodDays < time := by omega
      simp [resolveTransition, boundary, graceEnd, restricted, suspended, ahead, not_lt.mpr inPeriod, noGrace]
    rw [resolved, transition]
    exact ⟨.early inPeriod rfl, unmoved⟩
  by_cases inGrace : time ≤ addDays periodEnd billingGracePeriodDays
  · by_cases status : subscription.status = .pastDue
    · have transition : resolveTransition subscription time = none := by
        simp [resolveTransition, graceEnd, restricted, suspended, ahead, not_lt.mpr inGrace, status]
      rw [resolved, transition]
      exact ⟨.grace restricted (not_le.mp inPeriod) inGrace status, unmoved⟩
    · simp only [resolved, resolveTransition, boundary, graceEnd, not_le.mp inPeriod, inGrace, ne_eq, status,
        not_false_eq_true, and_self, if_true]
      refine ⟨.grace restricted (not_le.mp inPeriod) inGrace rfl, lapses.windowed rfl (.inl ?_)⟩
      simp [Subscriptions.windowed, restricted, suspended]
  · have past := not_le.mp inGrace
    simp only [resolved, resolveTransition, boundary, graceEnd, restricted, suspended, Option.getD_none, inGrace, past,
      not_le.mp ahead, false_and, and_false, or_self, or_true, and_self, if_true, if_false]
    refine ⟨.restricts restricted past rfl (by simp [Subscriptions.windowed]), lapses.windowed rfl (.inr ⟨time, ?_⟩)⟩
    exact ⟨rfl, rfl, past, le_rfl, .inl ⟨rfl, not_le.mp ahead⟩⟩

theorem looked_lapsed {start : Int} (lapses : Lapses subscription periodEnd now) (later : now ≤ time)
    (restricted : subscription.restrictedAt = some start)
    (suspended : subscription.suspendedAt = some (addDays start billingRestrictedPeriodDays))
    (afterGrace : addDays periodEnd billingGracePeriodDays < start) (begun : start ≤ now)
    (status : subscription.status = .restricted ∧ now < addDays start billingRestrictedPeriodDays ∨
      subscription.status = .suspended ∧ addDays start billingRestrictedPeriodDays ≤ now) :
    Looked subscription (resolved subscription time) periodEnd time ∧
      Lapses (resolved subscription time) periodEnd time := by
  have boundary := lapses.boundary
  have graceEnd := lapses.gracePeriodEnd
  have noGrace : ¬ time ≤ addDays periodEnd billingGracePeriodDays := by omega
  have windowed : subscription.restrictedAt ≠ none := by simp [restricted]
  rcases status with ⟨status, -⟩ | ⟨status, passed⟩
  · by_cases passed : addDays start billingRestrictedPeriodDays ≤ time
    · simp only [resolved, resolveTransition, boundary, graceEnd, restricted, suspended, Option.getD_some, noGrace,
        status, not_lt.mpr passed, passed, false_and, and_false, ne_eq, reduceCtorEq, not_false_eq_true, and_self,
        if_true, if_false]
      refine ⟨.lapsed windowed (by simp [Subscriptions.windowed]) ?_, lapses.windowed rfl (.inr ⟨start, ?_⟩)⟩
      · have lower : grants .suspended ≤ grants .restricted := by decide
        rw [status]
        exact lower
      · exact ⟨rfl, rfl, afterGrace, by omega, .inr ⟨rfl, passed⟩⟩
    · have transition : resolveTransition subscription time = none := by
        simp [resolveTransition, graceEnd, restricted, suspended, noGrace, status, passed]
      rw [resolved, transition]
      refine ⟨.lapsed windowed windowed le_rfl, lapses.period, lapses.trial, lapses.grace, .inr ⟨start, ?_⟩⟩
      exact ⟨restricted, suspended, afterGrace, by omega, .inl ⟨status, not_le.mp passed⟩⟩
  · have still : addDays start billingRestrictedPeriodDays ≤ time := passed.trans later
    have transition : resolveTransition subscription time = none := by
      simp [resolveTransition, graceEnd, restricted, suspended, noGrace, status, not_lt.mpr still]
    rw [resolved, transition]
    refine ⟨.lapsed windowed windowed le_rfl, lapses.period, lapses.trial, lapses.grace, .inr ⟨start, ?_⟩⟩
    exact ⟨restricted, suspended, afterGrace, by omega, .inr ⟨status, still⟩⟩

theorem looked (lapses : Lapses subscription periodEnd now) (later : now ≤ time) :
    Looked subscription (resolved subscription time) periodEnd time ∧
      Lapses (resolved subscription time) periodEnd time := by
  obtain ⟨restricted, suspended⟩ | ⟨start, restricted, suspended, afterGrace, begun, status⟩ := lapses.windows
  · exact looked_unrestricted lapses restricted suspended
  · exact looked_lapsed lapses later restricted suspended afterGrace begun status

end Looks

theorem looked_keeps_iff {before after : SubscriptionEntity} {time : Int}
    (look : Looked before after periodEnd time) (later : ∀ other ∈ times, time ≤ other) :
    (grants after.status ≤ grants before.status ∧
        (after.restrictedAt = none → LooksKeep after.status periodEnd times)) ↔
      (before.restrictedAt = none → LooksKeep before.status periodEnd (time :: times)) := by
  cases look with
  | early inPeriod same =>
    have outside : ¬ periodEnd < time := not_lt.mpr inPeriod
    cases status : before.status <;> simp [same, status, LooksKeep, inPeriod, outside]
  | grace unrestricted past inGrace status =>
    cases before.status <;> simp [status, unrestricted, LooksKeep, grants, past, inGrace]
  | restricts unrestricted past status window =>
    have afterGrace : ∀ other ∈ time :: times, addDays periodEnd billingGracePeriodDays < other := by
      intro other member
      rcases List.mem_cons.mp member with rfl | member
      · exact past
      · exact past.trans_le (later other member)
    have afterPeriod : periodEnd < time := (addDays_lt periodEnd (by decide)).trans past
    cases before.status with
    | restricted =>
      have outside : LooksKeep .restricted periodEnd (time :: times) := fun other member inGrace =>
        absurd inGrace.2 (not_le.mpr (afterGrace other member))
      simp [status, window, grants, outside]
    | trialing | active | pastDue => simp [status, window, grants, LooksKeep]
    | suspended | canceled | expired => simp [status, unrestricted, grants, LooksKeep, not_le.mpr afterPeriod]
  | lapsed window kept status => simp [window, kept, status]

def looks : SubscriptionEntity → List Int → List (SubscriptionEntity × Int)
  | _, [] => []
  | subscription, time :: later => (resolved subscription time, time) :: looks (resolved subscription time) later

theorem grants_descend_iff
    (lapses : Lapses subscription periodEnd now) (ordered : (now :: times).Pairwise (· ≤ ·)) :
    (subscription.status :: (looks subscription times).map (·.1.status)).Pairwise
        (fun earlier later => grants later ≤ grants earlier) ↔
      (subscription.restrictedAt = none → LooksKeep subscription.status periodEnd times) := by
  have transitive : IsTrans SubscriptionStatus fun earlier later => grants later ≤ grants earlier :=
    ⟨fun _ _ _ first second => second.trans first⟩
  induction times generalizing subscription now with
  | nil => cases status : subscription.status <;> simp [looks, LooksKeep]
  | cons time times ih =>
    obtain ⟨first, rest⟩ := List.pairwise_cons.mp ordered
    obtain ⟨look, after⟩ := looked lapses (first time List.mem_cons_self)
    rw [← looked_keeps_iff look (List.pairwise_cons.mp rest).1]
    refine Iff.trans ?_ (and_congr_right fun _ => ih after rest)
    rw [← List.isChain_iff_pairwise, ← List.isChain_iff_pairwise]
    exact List.isChain_cons_cons

theorem answers_eq_grants
    (lapses : Lapses subscription periodEnd now) (ordered : (now :: times).Pairwise (· ≤ ·)) :
    (looks subscription times).map (fun look => LifecycleAnswer.mk look.1.status (buildOverview look.1 look.2).accessMode) =
      (looks subscription times).map fun look => ⟨look.1.status, grants look.1.status⟩ := by
  induction times generalizing subscription now with
  | nil => rfl
  | cons time times ih =>
    obtain ⟨first, rest⟩ := List.pairwise_cons.mp ordered
    obtain ⟨-, after⟩ := looked lapses (first time List.mem_cons_self)
    rw [looks, List.map_cons, List.map_cons, ih after rest, after.accessMode]

theorem descends_iff_grants {earlier later : SubscriptionStatus} :
    LifecycleAnswer.descends ⟨earlier, grants earlier⟩ ⟨later, grants later⟩ ↔ grants later ≤ grants earlier := by
  cases earlier <;> cases later <;> decide

structure IsCurrent (db : SubscriptionsDb) (subscription : SubscriptionEntity) : Prop where
  member : subscription ∈ db.rows
  others : ∀ other ∈ db.rows, other.id ≠ subscription.id →
    (other.status = .canceled ∨ other.status = .expired) ∧ other.createdAt < subscription.createdAt

theorem IsCurrent.locked
    (current : IsCurrent db subscription) : Subscriptions.lockCurrentByTenant db = some subscription := by
  refine Subscriptions.lockCurrentByTenant_of_first current.member fun other member first => ?_
  by_contra differs
  have ids : other.id ≠ subscription.id := fun same => differs (eq_of_key member current.member same)
  obtain ⟨closed, older⟩ := current.others other member ids
  have last : Subscriptions.statusOrder other.status = 6 := by
    rcases closed with status | status <;> rw [status] <;> rfl
  have bound : Subscriptions.statusOrder subscription.status ≤ 6 := by
    cases subscription.status <;> decide
  unfold Subscriptions.comesFirst at first
  omega

theorem IsCurrent.update
    (current : IsCurrent db subscription) (change : SubscriptionEntity → SubscriptionEntity)
    (kept : ∀ row, (change row).id = row.id) (created : (change subscription).createdAt = subscription.createdAt) :
    IsCurrent (db.update subscription.id change kept) (change subscription) := by
  constructor
  · exact mem_update.mpr (.inl ⟨subscription, current.member, rfl, rfl⟩)
  · intro other member differs
    rw [kept] at differs
    rcases mem_update.mp member with ⟨row, -, same, rfl⟩ | ⟨present, -⟩
    · exact absurd ((kept row).trans same) differs
    · rw [created]
      exact current.others other present differs

theorem ensureCurrentLifecycle_current
    (current : IsCurrent db subscription) (now : Int) :
    ∃ after, attempt (ensureCurrentLifecycle now) db =
        (after, .ok (some (resolved subscription now, buildOverview (resolved subscription now) now))) ∧
      IsCurrent after (resolved subscription now) := by
  cases transition : resolveTransition subscription now with
  | none =>
    have same : resolved subscription now = subscription := by rw [resolved, transition]
    refine ⟨db, ?_, by rwa [same]⟩
    rw [attempt_ok]
    simp [ensureCurrentLifecycle, current.locked, transition, applyTransition]
  | some window =>
    have same : resolved subscription now = Subscriptions.windowed window subscription := by rw [resolved, transition]
    refine ⟨db.update subscription.id (Subscriptions.windowed window) fun _ => rfl, ?_, ?_⟩
    · rw [attempt_ok]
      simp [ensureCurrentLifecycle, current.locked, transition, applyTransition, Subscriptions.applyLifecycleWindow,
        Subscriptions.updateSubscription]
    · rw [same]
      exact current.update _ _ rfl

theorem lifecycleAnswers_current
    (current : IsCurrent db subscription) :
    lifecycleAnswers db times =
      (looks subscription times).map fun look => ⟨look.1.status, (buildOverview look.1 look.2).accessMode⟩ := by
  induction times generalizing db subscription with
  | nil => rfl
  | cons time times ih =>
    obtain ⟨after, looked, stays⟩ := ensureCurrentLifecycle_current current time
    rw [lifecycleAnswers, looked, looks, List.map_cons, ← ih stays]

theorem expire_closed (now : Int) (subscription : SubscriptionEntity) :
    ((Subscriptions.expire now subscription).status = .canceled ∨
        (Subscriptions.expire now subscription).status = .expired) ∧
      (Subscriptions.expire now subscription).createdAt = subscription.createdAt := by
  cases status : subscription.status <;> simp [Subscriptions.expire, status]

theorem createSubscription_ok
    (created : (createSubscription newId requestId now answeredAt dto).run db = .ok (response, after)) :
    response = mapSubscription (dto.subscription newId requestId now)
        (buildOverview (dto.subscription newId requestId now) answeredAt) ∧
      (∀ row, row ∈ after.rows ↔
        (∃ old ∈ db.rows, Subscriptions.expire now old = row) ∨ row = dto.subscription newId requestId now) ∧
      ∀ row ∈ db.rows, row.id ≠ newId := by
  simp only [createSubscription, Subscriptions.expireCurrentSubscriptions, Subscriptions.createSubscription,
    run_bind_ok, run_write_ok, run_current_ok, run_pure_ok] at created
  obtain ⟨_, _, rfl, _, _, ⟨_, _, ⟨rfl, rfl⟩, inserted⟩, rfl, rfl⟩ := created
  split at inserted
  · simp at inserted
  · next table present =>
    simp only [run_bind_ok, run_write_ok, run_pure_ok] at inserted
    obtain ⟨_, _, rfl, rfl, rfl⟩ := inserted
    obtain ⟨fresh, rfl⟩ := (tryInsert_eq_some _).mp present
    refine ⟨rfl, fun row => ?_, fun row member => ?_⟩
    · rw [mem_insert, mem_modify]
    · rw [← Subscriptions.expire_id now row]
      exact fresh _ (mem_modify.mpr ⟨row, member, rfl⟩)

theorem createSubscription_current
    (older : ∀ row ∈ db.rows, row.createdAt < now)
    (created : (createSubscription newId requestId now answeredAt dto).run db = .ok (response, after)) :
    IsCurrent after (dto.subscription newId requestId now) := by
  obtain ⟨-, rows, -⟩ := createSubscription_ok created
  refine ⟨(rows _).mpr (.inr rfl), fun other member differs => ?_⟩
  rcases (rows other).mp member with ⟨old, present, rfl⟩ | rfl
  · obtain ⟨closed, createdAt⟩ := expire_closed now old
    exact ⟨closed, createdAt ▸ older old present⟩
  · exact absurd rfl differs

theorem lapses_created (newId requestId : String) (now time : Int) (dto : CreateSubscriptionDto) :
    Lapses (dto.subscription newId requestId now) (addDays now (billingPlanCatalog dto.planCode).periodDays) time where
  period := rfl
  trial ends found := by
    unfold CreateSubscriptionDto.subscription at found
    split at found <;> simp_all
  grace := nofun
  windows := .inl ⟨rfl, rfl⟩

/-- Without a payment access only goes down, unless a look finds a subscription that was created
`restricted` in its grace period, or one that was created closed after its period. -/
theorem access_descends_iff {newId requestId : String} {now answeredAt : Int} {dto : CreateSubscriptionDto}
    {db after : SubscriptionsDb} {response : SubscriptionResponse} {times : List Int}
    (older : ∀ row ∈ db.rows, row.createdAt < now)
    (created : (createSubscription newId requestId now answeredAt dto).run db = .ok (response, after))
    (ordered : (now :: times).Pairwise (· ≤ ·)) :
    AccessDescends (response.answer :: lifecycleAnswers after times) ↔
      LooksKeep dto.statusOrDefault (addDays now (billingPlanCatalog dto.planCode).periodDays) times := by
  have lapses := lapses_created newId requestId now now dto
  have current := createSubscription_current older created
  obtain ⟨rfl, -⟩ := createSubscription_ok created
  have granted := (lapses_created newId requestId now answeredAt dto).accessMode
  have answers : (mapSubscription (dto.subscription newId requestId now)
        (buildOverview (dto.subscription newId requestId now) answeredAt)).answer :: lifecycleAnswers after times =
      (dto.statusOrDefault :: (looks (dto.subscription newId requestId now) times).map (·.1.status)).map
        fun status => ⟨status, grants status⟩ := by
    rw [lifecycleAnswers_current current, answers_eq_grants lapses ordered, List.map_cons, List.map_map]
    congr 1
    exact congrArg (LifecycleAnswer.mk dto.statusOrDefault) granted
  rw [AccessDescends, answers, List.pairwise_map]
  simp only [descends_iff_grants]
  exact (grants_descend_iff lapses ordered).trans (forall_prop_of_true rfl)

def canceledDto : CreateSubscriptionDto where
  planCode := .starter
  status := some .canceled
  billingPhoneNumber := none
  seatsAllocated := none
  metadata := []

def activeSubscription : SubscriptionEntity :=
  { canceledDto with status := some .active }.subscription "s1" "r1" 0

def activeDb : SubscriptionsDb := ⟨[activeSubscription], List.nodup_singleton _⟩

/-- An active subscription that is looked at in its period, in its grace period and long after it. -/
theorem active_access_descends :
    let dto := { canceledDto with status := some .active }
    ∃ response after, (createSubscription "s1" "r1" 0 0 dto).run KeyedTable.empty = .ok (response, after) ∧
      AccessDescends (response.answer :: lifecycleAnswers after [dayMs, 31 * dayMs, 40 * dayMs, 60 * dayMs]) := by
  intro dto
  obtain ⟨response, after, created⟩ : ∃ response after,
    (createSubscription "s1" "r1" 0 0 dto).run KeyedTable.empty = .ok (response, after) := ⟨_, _, rfl⟩
  have older : ∀ row ∈ (KeyedTable.empty : SubscriptionsDb).rows, row.createdAt < 0 :=
    fun _ member => absurd member List.not_mem_nil
  exact ⟨response, after, created, (access_descends_iff older created (by decide)).mpr trivial⟩

/-- A subscription that was created canceled has full access again a day after its period. -/
theorem canceled_subscription_reopens :
    ∃ response after, (createSubscription "s1" "r1" 0 0 canceledDto).run KeyedTable.empty = .ok (response, after) ∧
      response.answer = ⟨.canceled, .billingOnly⟩ ∧
      lifecycleAnswers after [31 * dayMs] = [⟨.pastDue, .full⟩] ∧
      ¬ AccessDescends (response.answer :: lifecycleAnswers after [31 * dayMs]) :=
  ⟨_, _, rfl, by decide +kernel, by decide +kernel, by decide +kernel⟩

end ShuleHub.Billing
