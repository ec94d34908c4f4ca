import ShuleHub.Lib.Runs
import Mathlib.Algebra.Order.Ring.Rat
import Mathlib.Data.List.Dedup

/-! The fraud alerts at the creation of payment intents: the counter of a phone number, which may miss its expiry, and the
newest intents of a tenant. -/

namespace ShuleHub.Security

open Runs

structure FraudSettings where
  fraudHighValueAmountMinor : Int
  fraudVelocityWindowSeconds : Nat
  fraudVelocityThreshold : ℚ
  fraudCrossAccountThreshold : ℚ
  fraudRepeatedAmountThreshold : ℚ

inductive FraudAlert where
  | highValueDetected
  | velocityDetected
  | phoneReusedAcrossAccounts
  | suspiciousPatternDetected
deriving DecidableEq

/-- A row of `payment_intents` with its phone number in plain text. -/
structure PaymentSignal where
  tenantId : String
  phoneNumber : String
  accountReference : String
  amountMinor : Int
  createdAt : Int
deriving DecidableEq

def PaymentSignal.key (signal : PaymentSignal) : String × String := (signal.tenantId, signal.phoneNumber)

/-- A counter without an expiry stays. -/
structure VelocityCounter where
  total : Nat
  expiresAt : Option Int
deriving DecidableEq

inductive CounterStore where
  | answers
  | incrFails
  | expireFails
deriving DecidableEq

structure IntentCreation where
  tenantId : String
  phoneNumber : String
  accountReference : String
  amountMinor : Int
  elapsed : Nat
  store : CounterStore

/-- The intents stand in the order of their creation. -/
structure PaymentWorld where
  now : Int
  intents : List PaymentSignal
  counters : String × String → Option VelocityCounter

def liveAt (now : Int) (counter : VelocityCounter) : Bool := counter.expiresAt.all (now < ·)

def incrementVelocity (window now : Int) (store : CounterStore) (counter : Option VelocityCounter) :
    Option Nat × Option VelocityCounter :=
  match store, counter.filter (liveAt now) with
  | .incrFails, _ => (none, counter)
  | _, some counter => (some (counter.total + 1), some { counter with total := counter.total + 1 })
  | .answers, none => (some 1, some ⟨1, some (now + window)⟩)
  | .expireFails, none => (none, some ⟨1, none⟩)

def createdSince (tenantId : String) (since : Int) (intents : List PaymentSignal) : List PaymentSignal :=
  intents.filter fun signal => signal.tenantId = tenantId ∧ since ≤ signal.createdAt

def loadRecentPaymentSignals (tenantId : String) (since : Int) (intents : List PaymentSignal) : List PaymentSignal :=
  (createdSince tenantId since intents).reverse.take 250

def accountsOf (phoneNumber : String) (signals : List PaymentSignal) : Nat :=
  ((signals.filter (·.phoneNumber = phoneNumber)).map (·.accountReference)).dedup.length

section Inspection

variable (settings : FraudSettings)

def FraudSettings.window : Int := settings.fraudVelocityWindowSeconds * 1000

def IntentCreation.signal (creation : IntentCreation) (world : PaymentWorld) : PaymentSignal :=
  ⟨creation.tenantId, creation.phoneNumber, creation.accountReference, creation.amountMinor, world.now + creation.elapsed⟩

def IntentCreation.counted (creation : IntentCreation) (world : PaymentWorld) : Option Nat × Option VelocityCounter :=
  incrementVelocity settings.window (world.now + creation.elapsed) creation.store
    (world.counters (creation.signal world).key)

def createIntent (world : PaymentWorld) (creation : IntentCreation) : PaymentWorld where
  now := world.now + creation.elapsed
  intents := world.intents ++ [creation.signal world]
  counters := Function.update world.counters (creation.signal world).key (creation.counted settings world).2

/-- The alerts of a creation, of which a store that fails lets none through but the first. -/
def inspectPaymentIntentCreation (world : PaymentWorld) (creation : IntentCreation) : List FraudAlert :=
  let after := createIntent settings world creation
  let high : List FraudAlert :=
    if settings.fraudHighValueAmountMinor ≤ creation.amountMinor then [.highValueDetected] else []
  match (creation.counted settings world).1 with
  | none => high
  | some velocityCount =>
    let recentSignals := loadRecentPaymentSignals creation.tenantId (after.now - settings.window) after.intents
    high ++ (if settings.fraudVelocityThreshold ≤ velocityCount then [.velocityDetected] else []) ++
      (if settings.fraudCrossAccountThreshold ≤ accountsOf creation.phoneNumber recentSignals then
        [.phoneReusedAcrossAccounts] else []) ++
      if settings.fraudRepeatedAmountThreshold ≤
          accountsOf creation.phoneNumber (recentSignals.filter (·.amountMinor = creation.amountMinor)) then
        [.suspiciousPatternDetected] else []

def countSince (key : String × String) (since : Int) (intents : List PaymentSignal) : Nat :=
  intents.countP fun signal => signal.key = key ∧ since ≤ signal.createdAt

/-- A phone number that the intents of the window use with enough accounts raises the alert, and the alert of its velocity
is raised only where the window has enough intents of it. -/
def RaisesRightly (world : PaymentWorld) (creation : IntentCreation) : Prop :=
  let after := createIntent settings world creation
  let since := after.now - settings.window
  (settings.fraudCrossAccountThreshold ≤
      accountsOf creation.phoneNumber (createdSince creation.tenantId since after.intents) →
    .phoneReusedAcrossAccounts ∈ inspectPaymentIntentCreation settings world creation) ∧
  (.velocityDetected ∈ inspectPaymentIntentCreation settings world creation →
    settings.fraudVelocityThreshold ≤ countSince (creation.signal world).key since after.intents)
deriving Decidable

/-- The store counts and lets the counter expire, and enough accounts of the window are among its newest intents. -/
def SeesAccounts (world : PaymentWorld) (creation : IntentCreation) : Prop :=
  let after := createIntent settings world creation
  let since := after.now - settings.window
  creation.store = .answers ∧ (settings.fraudCrossAccountThreshold ≤
      accountsOf creation.phoneNumber (createdSince creation.tenantId since after.intents) →
    settings.fraudCrossAccountThreshold ≤
      accountsOf creation.phoneNumber (loadRecentPaymentSignals creation.tenantId since after.intents))
deriving Decidable

def CountersBounded (world : PaymentWorld) : Prop :=
  ∀ key, ∀ counter ∈ world.counters key, ∃ expiresAt, counter.expiresAt = some expiresAt ∧
    expiresAt ≤ world.now + settings.window ∧ counter.total ≤ countSince key (expiresAt - settings.window) world.intents

variable {settings} {world : PaymentWorld} {creation : IntentCreation}

theorem countSince_append {key : String × String} {since : Int} {intents : List PaymentSignal} {signal : PaymentSignal} :
    countSince key since (intents ++ [signal]) =
      countSince key since intents + if signal.key = key ∧ since ≤ signal.createdAt then 1 else 0 := by
  simp [countSince, List.countP_append, List.countP_singleton]

theorem countSince_anti {key : String × String} {earlier later : Int} (le : earlier ≤ later)
    (intents : List PaymentSignal) : countSince key later intents ≤ countSince key earlier intents := by
  apply List.countP_mono_left
  intro signal _ counted
  obtain ⟨own, recent⟩ := of_decide_eq_true counted
  exact decide_eq_true ⟨own, le.trans recent⟩

/-- What is counted for a creation: a new counter, or one more of a counter that lives. -/
theorem counted_cases (settings : FraudSettings) (world : PaymentWorld) (answers : creation.store = .answers) :
    creation.counted settings world = (some 1, some ⟨1, some (world.now + creation.elapsed + settings.window)⟩) ∨
      ∃ counter ∈ world.counters (creation.signal world).key, liveAt (world.now + creation.elapsed) counter = true ∧
        creation.counted settings world = (some (counter.total + 1), some { counter with total := counter.total + 1 }) := by
  unfold IntentCreation.counted incrementVelocity
  rw [answers]
  cases live : (world.counters (creation.signal world).key).filter (liveAt (world.now + creation.elapsed)) with
  | none => exact .inl rfl
  | some counter =>
    obtain ⟨present, lives⟩ := Option.filter_eq_some_iff.mp live
    exact .inr ⟨counter, present, lives, rfl⟩

theorem countersBounded_step (bounded : CountersBounded settings world) (answers : creation.store = .answers) :
    CountersBounded settings (createIntent settings world creation) := by
  intro key counter found
  simp only [createIntent, Function.update_apply] at found ⊢
  split at found
  · next same =>
    subst same
    rcases counted_cases settings world answers with fresh | ⟨old, present, -, grown⟩
    · rw [fresh] at found
      cases found
      refine ⟨_, rfl, le_rfl, ?_⟩
      rw [countSince_append, if_pos ⟨rfl, by simp [IntentCreation.signal]⟩]
      exact Nat.le_add_left ..
    · obtain ⟨expiresAt, expires, soon, few⟩ := bounded _ old present
      rw [grown] at found
      cases found
      refine ⟨expiresAt, expires, by omega, ?_⟩
      rw [countSince_append, if_pos ⟨rfl, by simp only [IntentCreation.signal]; omega⟩]
      exact Nat.add_le_add_right few 1
  · obtain ⟨expiresAt, expires, soon, few⟩ := bounded key counter found
    refine ⟨expiresAt, expires, by omega, ?_⟩
    rw [countSince_append]
    exact few.trans (Nat.le_add_right ..)

theorem counted_le (bounded : CountersBounded settings world) (answers : creation.store = .answers) {count : Nat}
    (counted : (creation.counted settings world).1 = some count) : count ≤ countSince (creation.signal world).key
      (world.now + creation.elapsed - settings.window) (createIntent settings world creation).intents := by
  have window : 0 ≤ settings.window := by unfold FraudSettings.window; omega
  simp only [createIntent]
  rw [countSince_append, if_pos ⟨rfl, by simp only [IntentCreation.signal]; omega⟩]
  rcases counted_cases settings world answers with fresh | ⟨old, present, lives, grown⟩
  · rw [fresh] at counted
    cases counted
    exact Nat.le_add_left ..
  · obtain ⟨expiresAt, expires, -, few⟩ := bounded _ old present
    rw [grown] at counted
    cases counted
    rw [liveAt, expires] at lives
    have later : world.now + creation.elapsed < expiresAt := by simpa using lives
    have wider : countSince (creation.signal world).key (expiresAt - settings.window) world.intents ≤
        countSince (creation.signal world).key (world.now + creation.elapsed - settings.window) world.intents :=
      countSince_anti (by omega) world.intents
    exact Nat.add_le_add_right (few.trans wider) 1

theorem raises_rightly (bounded : CountersBounded settings world) (sees : SeesAccounts settings world creation) :
    RaisesRightly settings world creation := by
  obtain ⟨answers, among⟩ := sees
  obtain ⟨count, counted⟩ : ∃ count, (creation.counted settings world).1 = some count := by
    rcases counted_cases settings world answers with fresh | ⟨old, -, -, grown⟩
    · exact ⟨_, congrArg Prod.fst fresh⟩
    · exact ⟨_, congrArg Prod.fst grown⟩
  constructor
  · intro enough
    have seen := among enough
    simp only [inspectPaymentIntentCreation, counted, List.mem_append]
    exact .inl (.inr (by rw [if_pos seen]; exact List.mem_singleton_self _))
  · intro raised
    have reached : settings.fraudVelocityThreshold ≤ count := by
      simp only [inspectPaymentIntentCreation, counted, List.mem_append] at raised
      by_contra below
      rw [if_neg below] at raised
      grind
    exact reached.trans (by exact_mod_cast counted_le bounded answers counted)

end Inspection

def noPayments : PaymentWorld := ⟨0, [], fun _ => none⟩

def strictSettings : FraudSettings := ⟨5000000, 900, 2, 2, 3⟩

def feePayment (accountReference : String) (elapsed : Nat) (store : CounterStore) : IntentCreation :=
  ⟨"lakeside", "254700000001", accountReference, 100, elapsed, store⟩

end ShuleHub.Security
