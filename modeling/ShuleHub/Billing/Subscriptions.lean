import ShuleHub.Lib.KeyedTable
import ShuleHub.Lib.Transaction
import ShuleHub.Runtime

/-! The plans, and the subscriptions of one tenant with the statements that change them. -/

namespace ShuleHub.Billing

open Transaction KeyedTable

inductive SubscriptionStatus where
  | trialing
  | active
  | pastDue
  | restricted
  | suspended
  | canceled
  | expired
deriving DecidableEq

def SubscriptionStatus.text : SubscriptionStatus → String
  | .trialing => "trialing"
  | .active => "active"
  | .pastDue => "past_due"
  | .restricted => "restricted"
  | .suspended => "suspended"
  | .canceled => "canceled"
  | .expired => "expired"

structure BillingPlanDefinition where
  code : String
  features : List String
  limits : JsMap String Json
  periodDays : Nat
  defaultStatus : SubscriptionStatus

inductive PlanCode where
  | trial
  | starter
  | growth
  | enterprise
deriving DecidableEq

theorem literal_of_isDecimal {text : String} (digits : JsText.isDecimal text = true) :
    text ≠ "" ∧ ∀ c ∈ text.toList, c.isDigit ∨ c ∈ ['-', '+', '.', 'e'] := by
  simp only [JsText.isDecimal, Bool.and_eq_true, List.all_eq_true, decide_eq_true_eq] at digits
  refine ⟨?_, fun c member => .inl (digits.2 c member)⟩
  rintro rfl
  exact digits.1 rfl

def literal (text : String) (digits : JsText.isDecimal text = true := by decide) : Json :=
  .num ⟨text, literal_of_isDecimal digits⟩

def billingPlanCatalog : PlanCode → BillingPlanDefinition
  | .trial =>
    { code := "trial"
      features := ["students", "billing.mpesa"]
      limits := [("students.max_active", literal "250"), ("usage.events.monthly", literal "10000")]
      periodDays := 14
      defaultStatus := .trialing }
  | .starter =>
    { code := "starter"
      features := ["students", "billing.mpesa"]
      limits := [("students.max_active", literal "1000"), ("usage.events.monthly", literal "50000")]
      periodDays := 30
      defaultStatus := .active }
  | .growth =>
    { code := "growth"
      features := ["students", "billing.mpesa"]
      limits := [("students.max_active", literal "5000"), ("usage.events.monthly", literal "250000")]
      periodDays := 30
      defaultStatus := .active }
  | .enterprise =>
    { code := "enterprise"
      features := ["*"]
      limits := []
      periodDays := 30
      defaultStatus := .active }

def planOrStarter (code : String) : BillingPlanDefinition :=
  (([PlanCode.trial, .starter, .growth, .enterprise].map billingPlanCatalog).find? fun plan =>
    plan.code = code).getD (billingPlanCatalog .starter)

theorem planOrStarter_periodDays (code : String) : 0 < (planOrStarter code).periodDays := by
  unfold planOrStarter
  cases found : ([PlanCode.trial, .starter, .growth, .enterprise].map billingPlanCatalog).find?
      fun plan => plan.code = code with
  | none => decide
  | some plan =>
    obtain ⟨code, -, rfl⟩ := List.mem_map.mp (List.mem_of_find?_eq_some found)
    cases code <;> decide

structure SubscriptionEntity where
  id : String
  planCode : String
  status : SubscriptionStatus
  billingPhoneNumber : Option String
  currencyCode : String
  features : List String
  limits : JsMap String Json
  seatsAllocated : Nat
  currentPeriodStart : Int
  currentPeriodEnd : Int
  trialEndsAt : Option Int
  gracePeriodEndsAt : Option Int
  restrictedAt : Option Int
  suspendedAt : Option Int
  suspensionReason : Option String
  activatedAt : Option Int
  canceledAt : Option Int
  lastInvoiceAt : Option Int
  metadata : Metadata
  createdAt : Int
deriving DecidableEq

abbrev SubscriptionsDb := KeyedTable SubscriptionEntity String SubscriptionEntity.id

def dayMs : Int := 24 * 60 * 60 * 1000

def addDays (value : Int) (days : Int) : Int := value + days * dayMs

theorem addDays_lt (start : Int) {days : Int} (positive : 0 < days) : start < addDays start days := by
  have day : 0 < dayMs := by decide
  have span : 0 < days * dayMs := Int.mul_pos positive day
  unfold addDays
  omega

namespace Subscriptions

variable {db after : SubscriptionsDb} {subscription : SubscriptionEntity} (id : String) (now : Int)

def updateSubscription (change : SubscriptionEntity → SubscriptionEntity)
    (kept : ∀ subscription, (change subscription).id = subscription.id) : Transaction SubscriptionsDb Exception Unit :=
  write fun db => db.update id change kept

def expire (subscription : SubscriptionEntity) : SubscriptionEntity :=
  match subscription.status with
  | .trialing => { subscription with status := .expired, canceledAt := some now }
  | .active | .pastDue | .restricted | .suspended => { subscription with status := .canceled, canceledAt := some now }
  | .canceled | .expired => subscription

theorem expire_id (now : Int) (subscription : SubscriptionEntity) : (expire now subscription).id = subscription.id := by
  unfold expire
  split <;> rfl

def expireCurrentSubscriptions : Transaction SubscriptionsDb Exception Unit :=
  write fun db => db.modify (expire now) (expire_id now)

def createSubscription (subscription : SubscriptionEntity) :
    Transaction SubscriptionsDb Exception SubscriptionEntity := do
  let db ← current
  match db.tryInsert subscription with
  | none => fail (.database "subscriptions_pkey")
  | some after =>
    write fun _ => after
    return subscription

@[grind =] def statusOrder : SubscriptionStatus → Nat
  | .active => 1
  | .trialing => 2
  | .pastDue => 3
  | .restricted => 4
  | .suspended => 5
  | .canceled | .expired => 6

def comesFirst (left right : SubscriptionEntity) : Prop :=
  statusOrder left.status < statusOrder right.status ∨
    statusOrder left.status = statusOrder right.status ∧ right.createdAt ≤ left.createdAt
deriving Decidable

def lockCurrentByTenant (db : SubscriptionsDb) : Option SubscriptionEntity :=
  (db.rows.insertionSort comesFirst).head?

instance : Std.Total comesFirst where
  total left right := by
    unfold comesFirst
    omega

instance : IsTrans SubscriptionEntity comesFirst where
  trans first second third := by
    unfold comesFirst
    omega

theorem lockCurrentByTenant_some
    (locked : lockCurrentByTenant db = some subscription) : subscription ∈ db.rows :=
  (List.mem_insertionSort _).mp (List.mem_of_head? locked)

theorem lockCurrentByTenant_of_first
    (member : subscription ∈ db.rows)
    (first : ∀ other ∈ db.rows, comesFirst other subscription → other = subscription) :
    lockCurrentByTenant db = some subscription := by
  have sorted := List.pairwise_insertionSort comesFirst db.rows
  have present := (List.mem_insertionSort comesFirst).mpr member
  unfold lockCurrentByTenant
  cases order : db.rows.insertionSort comesFirst with
  | nil => simp [order] at present
  | cons head rest =>
    rw [order] at sorted present
    have headMember : head ∈ db.rows := (List.mem_insertionSort comesFirst).mp (by simp [order])
    have earlier : head = subscription := by
      rcases List.mem_cons.mp present with same | later
      · exact same.symm
      · exact first head headMember (List.rel_of_pairwise_cons sorted later)
    rw [List.head?_cons, earlier]

theorem lockCurrentByTenant_comesFirst
    (locked : lockCurrentByTenant db = some subscription) :
    ∀ other ∈ db.rows, other ≠ subscription → comesFirst subscription other := by
  intro other member differs
  have sorted := List.pairwise_insertionSort comesFirst db.rows
  have present := (List.mem_insertionSort comesFirst).mpr member
  unfold lockCurrentByTenant at locked
  cases order : db.rows.insertionSort comesFirst with
  | nil => simp [order] at present
  | cons head rest =>
    rw [order] at sorted present locked
    obtain rfl : head = subscription := by simpa using locked
    rcases List.mem_cons.mp present with same | later
    · exact absurd same differs
    · exact List.rel_of_pairwise_cons sorted later

def isMutable (subscription : SubscriptionEntity) : Prop :=
  subscription.status ≠ .canceled ∧ subscription.status ≠ .expired
deriving Decidable

def SingleMutable (db : SubscriptionsDb) : Prop :=
  ∀ first ∈ db.rows, ∀ second ∈ db.rows, isMutable first → isMutable second → first.id = second.id
deriving Decidable

theorem statusOrder_mutable :
    statusOrder subscription.status < 6 ↔ isMutable subscription := by
  cases status : subscription.status <;> simp [statusOrder, isMutable, status]

theorem others_not_mutable (single : SingleMutable db)
    (locked : lockCurrentByTenant db = some subscription) :
    ∀ other ∈ db.rows, other.id ≠ subscription.id → ¬ isMutable other := by
  intro other member differs stays
  have first := lockCurrentByTenant_comesFirst locked other member fun same => differs (congrArg (·.id) same)
  have lower := statusOrder_mutable.mpr stays
  have own : isMutable subscription := by
    rw [← statusOrder_mutable]
    unfold comesFirst at first
    omega
  exact differs (single other member subscription (lockCurrentByTenant_some locked) stays own)

theorem lockCurrentByTenant_update
    (change : SubscriptionEntity → SubscriptionEntity) (kept : ∀ row, (change row).id = row.id)
    (single : SingleMutable db) (locked : lockCurrentByTenant db = some subscription)
    (stays : isMutable (change subscription)) :
    lockCurrentByTenant (db.update subscription.id change kept) = some (change subscription) ∧
      SingleMutable (db.update subscription.id change kept) := by
  have member := lockCurrentByTenant_some locked
  have closed : ∀ other ∈ (db.update subscription.id change kept).rows, isMutable other →
      other = change subscription := by
    intro other present status
    rcases mem_update.mp present with ⟨row, old, same, rfl⟩ | ⟨old, differs⟩
    · rw [eq_of_key old member same]
    · exact absurd status (others_not_mutable single locked other old differs)
  constructor
  · refine lockCurrentByTenant_of_first (mem_update.mpr (.inl ⟨_, member, rfl, rfl⟩)) ?_
    intro other present first
    refine closed other present (statusOrder_mutable.mp ?_)
    have lower := statusOrder_mutable.mpr stays
    unfold comesFirst at first
    omega
  · intro first firstMember second secondMember firstOpen secondOpen
    rw [closed first firstMember firstOpen, closed second secondMember secondOpen]

structure LifecycleWindow where
  status : SubscriptionStatus
  gracePeriodEndsAt : Option Int
  restrictedAt : Option Int
  suspendedAt : Option Int
  suspensionReason : Option String

def windowed (window : LifecycleWindow) (subscription : SubscriptionEntity) : SubscriptionEntity :=
  { subscription with
    status := window.status
    gracePeriodEndsAt := window.gracePeriodEndsAt <|> subscription.gracePeriodEndsAt
    restrictedAt := window.restrictedAt <|> subscription.restrictedAt
    suspendedAt := window.suspendedAt <|> subscription.suspendedAt
    suspensionReason := window.suspensionReason <|> subscription.suspensionReason }

def applyLifecycleWindow (window : LifecycleWindow) : Transaction SubscriptionsDb Exception Unit :=
  updateSubscription id (windowed window) fun _ => rfl

def renewed (periodStart periodEnd activatedAt : Int) (subscription : SubscriptionEntity) : SubscriptionEntity :=
  { subscription with
    status := .active
    currentPeriodStart := periodStart
    currentPeriodEnd := periodEnd
    trialEndsAt := none
    gracePeriodEndsAt := none
    restrictedAt := none
    suspendedAt := none
    suspensionReason := none
    activatedAt := some activatedAt
    canceledAt := none }

def restoreRenewedSubscription (periodStart periodEnd activatedAt : Int) :
    Transaction SubscriptionsDb Exception Unit :=
  updateSubscription id (renewed periodStart periodEnd activatedAt) fun _ => rfl

def invoiced (nextPeriodEnd : Option Int) (subscription : SubscriptionEntity) : SubscriptionEntity :=
  { subscription with
    lastInvoiceAt := some now
    currentPeriodEnd := nextPeriodEnd.getD subscription.currentPeriodEnd }

def markInvoiceIssued (nextPeriodEnd : Option Int) :
    Transaction SubscriptionsDb Exception Unit :=
  updateSubscription id (invoiced now nextPeriodEnd) fun _ => rfl

def KeepsPeriods (before after : SubscriptionsDb) : Prop :=
  ∀ row ∈ after.rows, ∃ old ∈ before.rows, old.id = row.id ∧ old.currentPeriodEnd = row.currentPeriodEnd

theorem KeepsPeriods.refl (db : SubscriptionsDb) : KeepsPeriods db db := fun row member => ⟨row, member, rfl, rfl⟩

theorem KeepsPeriods.trans {before middle : SubscriptionsDb} (first : KeepsPeriods before middle)
    (second : KeepsPeriods middle after) : KeepsPeriods before after := by
  intro row member
  obtain ⟨between, present, sameId, sameEnd⟩ := second row member
  obtain ⟨old, known, oldId, oldEnd⟩ := first between present
  exact ⟨old, known, oldId.trans sameId, oldEnd.trans sameEnd⟩

theorem keepsPeriods_markInvoiceIssued {id : String} {now : Int}
    (marked : (markInvoiceIssued id now none).run db = .ok ((), after)) : KeepsPeriods db after := by
  simp only [markInvoiceIssued, updateSubscription, run_write_ok] at marked
  subst marked
  intro row member
  rcases mem_update.mp member with ⟨old, present, -, rfl⟩ | ⟨present, -⟩
  · exact ⟨old, present, rfl, rfl⟩
  · exact ⟨row, present, rfl, rfl⟩

end Subscriptions

end ShuleHub.Billing
