import ShuleHub.Billing.Access
import ShuleHub.Lib.Runs

/-! Requests that resolve their access through the cache while another one changes the subscription. -/

namespace ShuleHub.Billing

open Transaction BillingLifecycle BillingAccess Runs Subscriptions

variable {access : BillingAccessContextState} {db after : SubscriptionsDb} {before : Option SubscriptionEntity}

/-- The change of the subscription: a new one, or the renewal that the payment of an invoice brings. -/
inductive SubscriptionChange where
  | create (newId requestId : String) (now answeredAt : Int) (dto : CreateSubscriptionDto)
  | renew (invoiceSubscriptionId : String) (now : Int)

variable {change : SubscriptionChange}

def SubscriptionChange.perform : SubscriptionChange → Transaction SubscriptionsDb Exception Unit
  | .create newId requestId now answeredAt dto => do
    let _ ← createSubscription newId requestId now answeredAt dto
    return ()
  | .renew invoiceSubscriptionId now => renewSubscription invoiceSubscriptionId now

inductive ResolveStage where
  | begun
  | missed
  | computed (access : BillingAccessContextState)
  | answered
deriving DecidableEq

structure ResolveCall where
  /-- It began after the change was both committed and invalidated. -/
  late : Bool
  stage : ResolveStage

variable {calls : List ResolveCall}

/-- Who holds the advisory lock of the tenant and the row of its subscription, with what it has
written and not committed. -/
inductive SubscriptionLock where
  | call (index : Nat) (after : SubscriptionsDb)
  | change (after : SubscriptionsDb)
deriving DecidableEq

structure ResolveAnswer where
  late : Bool
  access : BillingAccessContextState

structure AccessWorld where
  db : SubscriptionsDb
  cache : Option BillingAccessContextState
  lock : Option SubscriptionLock
  calls : List ResolveCall
  committed : Bool
  invalidated : Bool
  answers : List ResolveAnswer

variable {world : AccessWorld}

inductive AccessEvent where
  | begin (context : Option BillingAccessContextState)
  | readCache (index : Nat)
  | compute (index : Nat) (now : Int)
  | writeCache (index : Nat)
  /-- The transaction around a call ends: with the call itself, the response, or its connection. -/
  | release (index : Nat) (commits : Bool)
  | change
  | commit
  | invalidate
deriving DecidableEq

namespace AccessWorld

def start (db : SubscriptionsDb) (cache : Option BillingAccessContextState) : AccessWorld where
  db
  cache
  lock := none
  calls := []
  committed := false
  invalidated := false
  answers := []

def answer (world : AccessWorld) (index : Nat) (call : ResolveCall) (access : BillingAccessContextState) :
    AccessWorld :=
  { world with
    calls := world.calls.set index { call with stage := .answered }
    answers := world.answers ++ [⟨call.late, access⟩] }

def beginCall (world : AccessWorld) (context : Option BillingAccessContextState) : AccessWorld :=
  let late := world.committed && world.invalidated
  match context with
  | some access => { world with answers := world.answers ++ [⟨late, access⟩] }
  | none => { world with calls := world.calls ++ [⟨late, .begun⟩] }

def readCache (world : AccessWorld) (index : Nat) (call : ResolveCall) : AccessWorld :=
  match known none world.cache with
  | some access => world.answer index call access
  | none => { world with calls := world.calls.set index { call with stage := .missed } }

def compute (world : AccessWorld) (index : Nat) (call : ResolveCall) (now : Int) : AccessWorld :=
  match world.lock, (computeAccess now).run world.db with
  | none, .ok (access, after) =>
    { world with
      lock := some (.call index after)
      calls := world.calls.set index { call with stage := .computed access } }
  | _, _ => world

def writeCache (cacheEnabled : Bool) (world : AccessWorld) (index : Nat) (call : ResolveCall)
    (access : BillingAccessContextState) : AccessWorld :=
  { world with cache := stored cacheEnabled access world.cache }.answer index call access

def release (world : AccessWorld) (index : Nat) (commits : Bool) : AccessWorld :=
  match world.lock with
  | some (.call holder after) =>
    if holder = index then { world with lock := none, db := if commits then after else world.db } else world
  | _ => world

def performChange (change : SubscriptionChange) (world : AccessWorld) : AccessWorld :=
  match world.lock, world.committed, change.perform.run world.db with
  | none, false, .ok (_, after) => { world with lock := some (.change after) }
  | _, _, _ => world

def commitChange (world : AccessWorld) : AccessWorld :=
  match world.lock with
  | some (.change after) => { world with lock := none, db := after, committed := true }
  | _ => world

/-- Whether the change has been made, by a transaction that may still be open. -/
def changed (world : AccessWorld) : Bool :=
  world.committed ||
    match world.lock with
    | some (.change _) => true
    | _ => false

/-- `invalidateTenant` comes after the change, before or after its commit. -/
def invalidate (world : AccessWorld) : AccessWorld :=
  if world.changed then { world with cache := none, invalidated := true } else world

/-- A step that does not fit the stage of its call, or that has to wait for the lock, is no step. -/
def step (cacheEnabled : Bool) (change : SubscriptionChange) (world : AccessWorld) : AccessEvent → AccessWorld
  | .begin context => world.beginCall context
  | .readCache index =>
    match world.calls[index]? with
    | some call => if call.stage = .begun then world.readCache index call else world
    | none => world
  | .compute index now =>
    match world.calls[index]? with
    | some call => if call.stage = .missed then world.compute index call now else world
    | none => world
  | .writeCache index =>
    match world.calls[index]? with
    | some call =>
      match call.stage with
      | .computed access => writeCache cacheEnabled world index call access
      | _ => world
    | none => world
  | .release index commits => world.release index commits
  | .change => world.performChange change
  | .commit => world.commitChange
  | .invalidate => world.invalidate

end AccessWorld

def ComputedFrom (subscription : Option SubscriptionEntity) (access : BillingAccessContextState) : Prop :=
  access.subscriptionId = subscription.map (·.id) ∧
    access.currentPeriodEnd = subscription.map (·.currentPeriodEnd)
deriving Decidable

def NoStaleAnswers (before : Option SubscriptionEntity) (world : AccessWorld) : Prop :=
  ∀ answer ∈ world.answers, answer.late = true → ¬ ComputedFrom before answer.access
deriving Decidable

def HoldsLock (world : AccessWorld) (index : Nat) : Prop :=
  match world.lock with
  | some (.call holder _) => holder = index
  | _ => False

instance (world : AccessWorld) (index : Nat) : Decidable (HoldsLock world index) := by
  unfold HoldsLock
  split <;> infer_instance

/-- The call's request has resolved no access before, and a call that has computed the access of the
old subscription stores it inside its transaction, or before the cache is cleared. -/
@[grind =] def ResolvesApart (before : Option SubscriptionEntity) (world : AccessWorld) : AccessEvent → Prop
  | .begin context => context = none
  | .writeCache index =>
    match (world.calls[index]?).map ResolveCall.stage with
    | some (.computed access) =>
      ComputedFrom before access → HoldsLock world index ∨ world.invalidated = false
    | _ => True
  | _ => True

instance (before : Option SubscriptionEntity) (world : AccessWorld) (event : AccessEvent) :
    Decidable (ResolvesApart before world event) := by
  cases event <;> unfold ResolvesApart
  case writeCache => dsimp only; split <;> infer_instance
  all_goals infer_instance

def period (subscription : Option SubscriptionEntity) : Option (String × Int) :=
  subscription.map fun subscription => (subscription.id, subscription.currentPeriodEnd)

theorem computedFrom_period {first second : Option SubscriptionEntity}
    (one : ComputedFrom first access) (two : ComputedFrom second access) : period first = period second := by
  obtain ⟨id, ends⟩ := one
  obtain ⟨otherId, otherEnds⟩ := two
  rw [id] at otherId
  rw [ends] at otherEnds
  cases first <;> cases second <;> simp_all [period]

/-- The change is one: it creates a subscription later than the others, or renews the current one. -/
def Replaces (change : SubscriptionChange) (db : SubscriptionsDb) : Prop :=
  match change with
  | .create _ _ now _ _ => ∀ row ∈ db.rows, row.createdAt < now
  | .renew invoiceSubscriptionId _ => (Subscriptions.lockCurrentByTenant db).map (·.id) = some invoiceSubscriptionId

instance (change : SubscriptionChange) (db : SubscriptionsDb) : Decidable (Replaces change db) := by
  cases change <;> unfold Replaces <;> infer_instance

structure Unmoved (change : SubscriptionChange) (db after : SubscriptionsDb) : Prop where
  single : Subscriptions.SingleMutable after
  period : period (Subscriptions.lockCurrentByTenant after) = period (Subscriptions.lockCurrentByTenant db)
  replaces : Replaces change db → Replaces change after

theorem computeAccess_ok (change : SubscriptionChange) {now : Int} (single : Subscriptions.SingleMutable db)
    (computed : (computeAccess now).run db = .ok (access, after)) :
    Unmoved change db after ∧ ComputedFrom (lockCurrentByTenant db) access := by
  simp only [computeAccess, run_bind_ok, run_pure_ok] at computed
  obtain ⟨found, middle, looked, rfl, rfl⟩ := computed
  obtain ⟨stays, rfl, relocked, rows⟩ := ensureCurrentLifecycle_ok single looked
  have same : period (lockCurrentByTenant middle) = period (lockCurrentByTenant db) ∧
      (lockCurrentByTenant middle).map (·.id) = (lockCurrentByTenant db).map (·.id) := by
    rw [relocked]
    cases lockCurrentByTenant db with
    | none => exact ⟨rfl, rfl⟩
    | some subscription =>
      have terms := sameTerms_resolved subscription now
      exact ⟨by simp [period, terms.id, terms.periodEnd], congrArg some terms.id⟩
  refine ⟨⟨stays, same.1, ?_⟩, ?_⟩
  · cases change with
    | create newId requestId created answeredAt dto =>
      intro older row member
      obtain ⟨old, present, terms⟩ := rows row member
      exact terms.createdAt ▸ older old present
    | renew invoiceSubscriptionId paid => exact fun current => same.2.trans current
  · cases locked : lockCurrentByTenant db with
    | none => exact ⟨rfl, rfl⟩
    | some subscription =>
      have terms := sameTerms_resolved subscription now
      exact ⟨congrArg some terms.id, congrArg some terms.periodEnd⟩

theorem perform_replaces {result : Unit}
    (single : Subscriptions.SingleMutable db) (replaces : Replaces change db)
    (performed : change.perform.run db = .ok (result, after)) :
    Subscriptions.SingleMutable after ∧
      period (lockCurrentByTenant after) ≠ period (lockCurrentByTenant db) := by
  cases change with
  | create newId requestId now answeredAt dto =>
    simp only [SubscriptionChange.perform, run_bind_ok, run_pure_ok] at performed
    obtain ⟨response, table, created, -, rfl⟩ := performed
    have isCurrent := createSubscription_current replaces created
    obtain ⟨-, -, fresh⟩ := createSubscription_ok created
    constructor
    · intro first firstMember second secondMember firstOpen secondOpen
      have own : ∀ row ∈ table.rows, isMutable row → row.id = newId := by
        intro row member stays
        by_contra differs
        rcases (isCurrent.others row member differs).1 with closed | closed
        · exact stays.1 closed
        · exact stays.2 closed
      rw [own first firstMember firstOpen, own second secondMember secondOpen]
    · rw [isCurrent.locked]
      intro same
      obtain ⟨old, locked, equal⟩ := Option.map_eq_some_iff.mp same.symm
      exact fresh old (lockCurrentByTenant_some locked) (congrArg Prod.fst equal)
  | renew invoiceSubscriptionId now =>
    obtain ⟨subscription, locked, rfl⟩ := Option.map_eq_some_iff.mp replaces
    obtain ⟨renewed, ran, stays, relocked⟩ := renewSubscription_ok single locked
    rw [SubscriptionChange.perform, ran] at performed
    cases performed
    rw [if_pos rfl] at relocked
    refine ⟨stays, ?_⟩
    rw [relocked, locked]
    intro same
    have ends := congrArg Prod.snd (Option.some.inj same)
    exact absurd ends (currentPeriodEnd_lt_renewal subscription now).ne'

/-- What the holder of the lock has written fits the subscription it has locked. -/
def LockCovers (change : SubscriptionChange) (before : Option SubscriptionEntity) (world : AccessWorld) : Prop :=
  match world.lock with
  | none => True
  | some (.call index after) =>
    Unmoved change world.db after ∧
      ∀ call ∈ world.calls[index]?, ∀ access, call.stage = .computed access →
        ComputedFrom (Subscriptions.lockCurrentByTenant world.db) access
  | some (.change after) =>
    world.committed = false ∧ Subscriptions.SingleMutable after ∧
      period (Subscriptions.lockCurrentByTenant after) ≠ period before

theorem mem_getElem?_set {index other : Nat} {call found : ResolveCall}
    (member : found ∈ (calls.set index call)[other]?) : other = index ∧ found = call ∨ other ≠ index ∧ found ∈ calls[other]? := by
  rw [List.getElem?_set] at member
  split at member
  · next same =>
    split at member
    · exact .inl ⟨same.symm, (Option.mem_some.mp member).symm⟩
    · simp at member
  · next differs => exact .inr ⟨Ne.symm differs, member⟩

theorem LockCovers.of_calls (covers : LockCovers change before world)
    (kept : ∀ index : Nat, ∀ call ∈ calls[index]?, ∀ access, call.stage = .computed access →
      call ∈ world.calls[index]?) : LockCovers change before { world with calls } := by
  unfold LockCovers at covers ⊢
  split at covers
  · next unlocked => simp [unlocked]
  · next holder after locked =>
    simp only [locked]
    exact ⟨covers.1, fun call member access computed =>
      covers.2 call (kept holder call member access computed) access computed⟩
  · next after locked =>
    simp only [locked]
    exact covers

theorem changed_of_unlocked (unlocked : world.lock = none) :
    world.changed = world.committed := by
  simp [AccessWorld.changed, unlocked]

structure Fresh (change : SubscriptionChange) (before : Option SubscriptionEntity) (world : AccessWorld) : Prop where
  single : Subscriptions.SingleMutable world.db
  source : world.committed = false →
    period (Subscriptions.lockCurrentByTenant world.db) = period before ∧ Replaces change world.db
  replaced : world.committed = true → period (Subscriptions.lockCurrentByTenant world.db) ≠ period before
  lock : LockCovers change before world
  cleared : world.invalidated = true →
    world.changed = true ∧ ∀ access ∈ world.cache, ¬ ComputedFrom before access
  calls : ∀ call ∈ world.calls, call.late = true → world.committed = true ∧ world.invalidated = true ∧
    ∀ access, call.stage = .computed access → ¬ ComputedFrom before access
  answers : NoStaleAnswers before world

namespace Fresh

variable {change : SubscriptionChange} {before : Option SubscriptionEntity} {world : AccessWorld} {index : Nat}
  {call : ResolveCall} {access : BillingAccessContextState}

theorem not_computedFrom (fresh : Fresh change before world) (committed : world.committed = true)
    (source : ComputedFrom (lockCurrentByTenant world.db) access) : ¬ ComputedFrom before access :=
  fun stale => fresh.replaced committed (computedFrom_period source stale)

theorem set_stage {stage : ResolveStage} (fresh : Fresh change before world) (found : world.calls[index]? = some call)
    (empty : ∀ access, stage ≠ .computed access) :
    Fresh change before { world with calls := world.calls.set index { call with stage } } where
  single := fresh.single
  source := fresh.source
  replaced := fresh.replaced
  lock := by
    refine fresh.lock.of_calls fun other moved member access computed => ?_
    rcases mem_getElem?_set member with ⟨-, rfl⟩ | ⟨-, old⟩
    · exact absurd computed (empty access)
    · exact old
  cleared := fresh.cleared
  calls other member late := by
    rcases List.mem_or_eq_of_mem_set member with old | rfl
    · exact fresh.calls other old late
    · obtain ⟨committed, invalidated, -⟩ := fresh.calls call (List.mem_of_getElem? found) late
      exact ⟨committed, invalidated, fun access computed => absurd computed (empty access)⟩
  answers := fresh.answers

theorem answer (fresh : Fresh change before world) (found : world.calls[index]? = some call)
    (current : call.late = true → ¬ ComputedFrom before access) :
    Fresh change before (world.answer index call access) := by
  have moved : Fresh change before { world with calls := world.calls.set index { call with stage := .answered } } :=
    fresh.set_stage found (by simp)
  refine { moved with answers := fun answer member late => ?_ }
  rcases List.mem_append.mp member with old | new
  · exact fresh.answers answer old late
  · obtain rfl := List.mem_singleton.mp new
    exact current late

theorem beginCall (fresh : Fresh change before world) : Fresh change before (world.beginCall none) where
  single := fresh.single
  source := fresh.source
  replaced := fresh.replaced
  lock := by
    refine fresh.lock.of_calls fun other call member access computed => ?_
    rw [List.getElem?_append] at member
    split at member
    · exact member
    · have begun := List.mem_singleton.mp (List.mem_of_getElem? member)
      rw [begun] at computed
      cases computed
  cleared := fresh.cleared
  calls other member late := by
    rcases List.mem_append.mp member with old | new
    · exact fresh.calls other old late
    · obtain rfl := List.mem_singleton.mp new
      obtain ⟨committed, invalidated⟩ := Bool.and_eq_true_iff.mp late
      exact ⟨committed, invalidated, by simp⟩
  answers := fresh.answers

theorem readCache (fresh : Fresh change before world) (found : world.calls[index]? = some call) :
    Fresh change before (world.readCache index call) := by
  unfold AccessWorld.readCache
  split
  · next access hit =>
    refine fresh.answer found fun late => ?_
    obtain ⟨-, invalidated, -⟩ := fresh.calls call (List.mem_of_getElem? found) late
    have cached : world.cache = some access := (Option.filter_eq_some_iff.mp hit).1
    exact (fresh.cleared invalidated).2 access cached
  · exact fresh.set_stage found (by simp)

theorem compute (fresh : Fresh change before world) (found : world.calls[index]? = some call) (now : Int) :
    Fresh change before (world.compute index call now) := by
  unfold AccessWorld.compute
  split
  · next access after unlocked ran =>
    obtain ⟨unmoved, source⟩ := computeAccess_ok change fresh.single ran
    refine ⟨fresh.single, fresh.source, fresh.replaced, ?_, ?_, ?_, fresh.answers⟩
    · refine ⟨unmoved, fun moved member other computed => ?_⟩
      rcases mem_getElem?_set member with ⟨-, rfl⟩ | ⟨differs, -⟩
      · cases computed
        exact source
      · exact absurd rfl differs
    · intro invalidated
      obtain ⟨changed, cached⟩ := fresh.cleared invalidated
      rw [changed_of_unlocked unlocked] at changed
      exact ⟨by rw [AccessWorld.changed, changed, Bool.true_or], cached⟩
    · intro other member late
      rcases List.mem_or_eq_of_mem_set member with old | rfl
      · exact fresh.calls other old late
      · obtain ⟨committed, invalidated, -⟩ := fresh.calls call (List.mem_of_getElem? found) late
        refine ⟨committed, invalidated, fun other computed => ?_⟩
        cases computed
        exact fresh.not_computedFrom committed source
  · exact fresh

theorem writeCache {cacheEnabled : Bool} (fresh : Fresh change before world)
    (found : world.calls[index]? = some call) (computed : call.stage = .computed access)
    (apart : ComputedFrom before access → HoldsLock world index ∨ world.invalidated = false) :
    Fresh change before (AccessWorld.writeCache cacheEnabled world index call access) := by
  have notStale : world.invalidated = true → ¬ ComputedFrom before access := by
    intro invalidated stale
    rcases apart stale with holds | early
    · -- The change holds the lock until its commit, so this call has locked what the commit left.
      have covers := fresh.lock
      have changed := (fresh.cleared invalidated).1
      unfold HoldsLock at holds
      split at holds
      · next holder after locked =>
        simp only [LockCovers, locked] at covers
        simp only [AccessWorld.changed, locked, Bool.or_false] at changed
        exact fresh.not_computedFrom changed (covers.2 call (by rw [holds]; exact found) access computed) stale
      · exact holds
    · simp [invalidated] at early
  have written : Fresh change before { world with cache := stored cacheEnabled access world.cache } := by
    refine { fresh with cleared := fun invalidated => ?_ }
    obtain ⟨changed, cached⟩ := fresh.cleared invalidated
    refine ⟨changed, fun kept member => ?_⟩
    unfold stored at member
    split at member
    · exact cached kept member
    · cases member
      exact notStale invalidated
  exact written.answer found fun late => (fresh.calls call (List.mem_of_getElem? found) late).2.2 access computed

theorem release (fresh : Fresh change before world) (commits : Bool) :
    Fresh change before (world.release index commits) := by
  unfold AccessWorld.release
  split
  · next holder after locked =>
    split
    · have covers := fresh.lock
      simp only [LockCovers, locked] at covers
      obtain ⟨unmoved, -⟩ := covers
      have unlocked : Fresh change before { world with lock := none } := by
        refine { fresh with lock := trivial, cleared := fun invalidated => ?_ }
        obtain ⟨changed, cached⟩ := fresh.cleared invalidated
        simp only [AccessWorld.changed, locked] at changed
        exact ⟨changed, cached⟩
      cases commits with
      | false => exact unlocked
      | true =>
        refine { unlocked with single := unmoved.single, source := fun uncommitted => ?_, replaced := fun committed => ?_ }
        · obtain ⟨same, replaces⟩ := fresh.source uncommitted
          exact ⟨unmoved.period.trans same, unmoved.replaces replaces⟩
        · exact unmoved.period ▸ fresh.replaced committed
    · exact fresh
  · exact fresh

theorem performChange (fresh : Fresh change before world) : Fresh change before (world.performChange change) := by
  unfold AccessWorld.performChange
  split
  · next after unlocked uncommitted ran =>
    obtain ⟨same, replaces⟩ := fresh.source uncommitted
    obtain ⟨single, differs⟩ := perform_replaces fresh.single replaces ran
    rw [same] at differs
    refine { fresh with lock := ⟨uncommitted, single, differs⟩, cleared := fun invalidated => ?_ }
    exact ⟨by simp [AccessWorld.changed], (fresh.cleared invalidated).2⟩
  · exact fresh

theorem commitChange (fresh : Fresh change before world) : Fresh change before world.commitChange := by
  unfold AccessWorld.commitChange
  split
  · next after locked =>
    have covers := fresh.lock
    simp only [LockCovers, locked] at covers
    obtain ⟨uncommitted, single, differs⟩ := covers
    refine ⟨single, nofun, fun _ => differs, trivial, fun invalidated => ?_, fun call member late => ?_, fresh.answers⟩
    · exact ⟨by simp [AccessWorld.changed], (fresh.cleared invalidated).2⟩
    · have committed := (fresh.calls call member late).1
      simp [uncommitted] at committed
  · exact fresh

theorem invalidate (fresh : Fresh change before world) : Fresh change before world.invalidate := by
  unfold AccessWorld.invalidate
  split
  · next changed =>
    refine { fresh with cleared := fun _ => ⟨changed, by simp⟩, calls := fun call member late => ?_ }
    obtain ⟨committed, -, computed⟩ := fresh.calls call member late
    exact ⟨committed, rfl, computed⟩
  · exact fresh

end Fresh

theorem step_fresh {cacheEnabled : Bool}
    (world : AccessWorld) (event : AccessEvent) (fresh : Fresh change before world)
    (apart : ResolvesApart before world event) : Fresh change before (world.step cacheEnabled change event) := by
  cases event with
  | begin context =>
    cases apart
    exact fresh.beginCall
  | readCache index =>
    simp only [AccessWorld.step]
    split
    · next call found =>
      split
      · exact fresh.readCache found
      · exact fresh
    · exact fresh
  | compute index now =>
    simp only [AccessWorld.step]
    split
    · next call found =>
      split
      · exact fresh.compute found now
      · exact fresh
    · exact fresh
  | writeCache index =>
    simp only [AccessWorld.step]
    split
    · next call found =>
      split
      · next access computed =>
        simp only [ResolvesApart, found, Option.map_some, computed] at apart
        exact fresh.writeCache found computed apart
      · exact fresh
    · exact fresh
  | release index commits => exact fresh.release commits
  | change => exact fresh.performChange
  | commit => exact fresh.commitChange
  | invalidate => exact fresh.invalidate

/-- Once a change is committed and the cache is cleared, no call that begins then returns the access of
the subscription before it, when the calls resolve apart from one another. -/
theorem no_stale_answers {cacheEnabled : Bool} {change : SubscriptionChange} {db : SubscriptionsDb}
    {cache : Option BillingAccessContextState} {events : List AccessEvent}
    (single : Subscriptions.SingleMutable db) (replaces : Replaces change db)
    (apart : Meets (AccessWorld.step cacheEnabled change) (ResolvesApart (Subscriptions.lockCurrentByTenant db))
      (AccessWorld.start db cache) events) :
    Along (AccessWorld.step cacheEnabled change) (NoStaleAnswers (Subscriptions.lockCurrentByTenant db))
      (AccessWorld.start db cache) events := by
  have start : Fresh change (Subscriptions.lockCurrentByTenant db) (AccessWorld.start db cache) :=
    ⟨single, fun _ => ⟨rfl, replaces⟩, nofun, trivial, nofun,
      fun _ member => absurd member List.not_mem_nil, fun _ member => absurd member List.not_mem_nil⟩
  exact along_of_meets step_fresh (fun _ fresh => fresh.answers) start apart

def activeAccess : BillingAccessContextState :=
  buildAccessState (some (activeSubscription, buildOverview activeSubscription 1))

def suspendedReplacement : SubscriptionChange :=
  .create "s2" "r2" dayMs dayMs { canceledDto with status := some .suspended }

/-- One request fills the cache before the change; another one begins between the clearing of the cache
and the commit, and waits for the subscription. -/
theorem waiting_call_is_not_stale :
    Along (AccessWorld.step true suspendedReplacement)
      (NoStaleAnswers (Subscriptions.lockCurrentByTenant activeDb)) (AccessWorld.start activeDb none)
      [.begin none, .readCache 0, .compute 0 1, .writeCache 0, .release 0 true, .change, .invalidate, .begin none,
        .readCache 1, .compute 1 dayMs, .commit, .compute 1 dayMs, .writeCache 1, .release 1 true, .begin none,
        .readCache 2, .compute 2 dayMs, .writeCache 2] :=
  no_stale_answers (by decide +kernel) (by decide +kernel) (by decide +kernel)

/-- A request that resolved its access before the change answers with it again, and one whose transaction
ends before it stores what it has computed fills the cleared cache with it. -/
theorem stale_access_after_change :
    ¬ Along (AccessWorld.step true suspendedReplacement)
        (NoStaleAnswers (Subscriptions.lockCurrentByTenant activeDb)) (AccessWorld.start activeDb (some activeAccess))
        [.begin none, .readCache 0, .change, .invalidate, .commit, .begin (some activeAccess)] ∧
      ¬ Along (AccessWorld.step true suspendedReplacement)
        (NoStaleAnswers (Subscriptions.lockCurrentByTenant activeDb)) (AccessWorld.start activeDb none)
        [.begin none, .readCache 0, .compute 0 1, .release 0 true, .change, .commit, .invalidate, .writeCache 0,
          .begin none, .readCache 1] := by
  decide +kernel

end ShuleHub.Billing
