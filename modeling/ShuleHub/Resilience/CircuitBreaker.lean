import ShuleHub.Lib.Runs
import Mathlib.Algebra.Order.Ring.Rat
import Mathlib.Data.Rat.Floor
import Mathlib.Logic.Function.Basic
import Mathlib.Tactic.Linarith

/-! The circuit breaker of the process: operations that overlap, each of which looks at its circuit when it starts and
writes it when it ends. -/

namespace ShuleHub.Resilience

inductive CircuitState where
  | closed
  | opened
  | halfOpen
deriving DecidableEq

structure CircuitBreakerConfig where
  failureThreshold : ℚ
  resetTimeoutMs : ℚ
  successThreshold : ℚ

variable (config : CircuitBreakerConfig)

structure CircuitBreakerState where
  state : CircuitState
  failureCount : Nat
  successCount : Nat
  lastFailureAt : Option Int
  lastStateChangeAt : Int

variable (circuit : CircuitBreakerState) (now : Int)

def defaultConfig : CircuitBreakerConfig where
  failureThreshold := 5
  resetTimeoutMs := 30000
  successThreshold := 2

structure CircuitOpenError where
  circuitName : String
  retryAfterMs : ℚ

def CircuitOpenError.retryAfterSeconds (error : CircuitOpenError) : Int := ⌈error.retryAfterMs / 1000⌉

def CircuitOpenError.message (error : CircuitOpenError) : String :=
  s!"Circuit \"{error.circuitName}\" is OPEN. Retry after {error.retryAfterSeconds}s."

def newCircuit : CircuitBreakerState where
  state := .closed
  failureCount := 0
  successCount := 0
  lastFailureAt := none
  lastStateChangeAt := now

def transitionTo (newState : CircuitState) (now : Int) : CircuitBreakerState :=
  { circuit with state := newState, lastStateChangeAt := now }

def beforeCall (name : String) (config : CircuitBreakerConfig) (circuit : CircuitBreakerState) (now : Int) :
    Except CircuitOpenError CircuitBreakerState :=
  if circuit.state = .opened then
    let elapsed := now - circuit.lastStateChangeAt
    if (elapsed : ℚ) < config.resetTimeoutMs then .error ⟨name, config.resetTimeoutMs - elapsed⟩
    else .ok (transitionTo circuit .halfOpen now)
  else .ok circuit

def onSuccess : CircuitBreakerState :=
  if circuit.state = .halfOpen then
    let counted := { circuit with successCount := circuit.successCount + 1 }
    if config.successThreshold ≤ counted.successCount then
      { transitionTo counted .closed now with failureCount := 0, successCount := 0 }
    else counted
  else { circuit with failureCount := 0 }

def onFailure : CircuitBreakerState :=
  let counted := { circuit with failureCount := circuit.failureCount + 1, lastFailureAt := some now }
  if counted.state = .halfOpen then { transitionTo counted .opened now with successCount := 0 }
  else if config.failureThreshold ≤ counted.failureCount then transitionTo counted .opened now
  else counted

/-- A circuit of the service. The fields after the first only remember what has happened: how often the circuit has
opened, when it last did, and how many operations that started since then have succeeded while it was half open. -/
structure Circuit where
  breaker : CircuitBreakerState
  openings : Nat
  openedAt : Int
  probeSuccesses : Nat

/-- An operation that has not ended, and how often its circuit had opened when it started. -/
structure Operation where
  name : String
  openings : Nat
deriving DecidableEq

structure CircuitWorld where
  clock : Int
  circuits : String → Option Circuit
  inFlight : List Operation

/-- Each event comes some time after the one before it. -/
inductive CircuitEvent where
  | execute (name : String) (elapsed : Nat)
  | complete (index : Nat) (succeeds : Bool) (elapsed : Nat)
deriving DecidableEq

def Circuit.created : Circuit := ⟨newCircuit now, 0, now, 0⟩

def Circuit.follow (circuit : Circuit) (breaker : CircuitBreakerState) (now : Int) : Circuit :=
  if breaker.state = circuit.breaker.state then { circuit with breaker }
  else
    match breaker.state with
    | .closed => { circuit with breaker }
    | .opened => { circuit with breaker, openings := circuit.openings + 1, openedAt := now }
    | .halfOpen => { circuit with breaker, probeSuccesses := 0 }

def Operation.isRecent (operation : Operation) (circuit : Circuit) : Prop := operation.openings = circuit.openings
deriving Decidable

def Circuit.credited (circuit : Circuit) (operation : Operation) : Circuit :=
  if circuit.breaker.state = .halfOpen ∧ operation.isRecent circuit then
    { circuit with probeSuccesses := circuit.probeSuccesses + 1 }
  else circuit

def Circuit.completed (circuit : Circuit) (operation : Operation) (succeeds : Bool)
    (now : Int) : Circuit :=
  if succeeds then (circuit.credited operation).follow (onSuccess config circuit.breaker now) now
  else circuit.follow (onFailure config circuit.breaker now) now

section Worlds

variable (configs : String → Option CircuitBreakerConfig) (world : CircuitWorld)

def configOf (name : String) : CircuitBreakerConfig := (configs name).getD defaultConfig

def CircuitWorld.circuitOf (name : String) (now : Int) : Circuit :=
  (world.circuits name).getD (Circuit.created now)

def step : CircuitEvent → CircuitWorld
  | .execute name elapsed =>
    let now := world.clock + elapsed
    let circuit := world.circuitOf name now
    match beforeCall name (configOf configs name) circuit.breaker now with
    | .error _ =>
      { clock := now, circuits := Function.update world.circuits name (some circuit), inFlight := world.inFlight }
    | .ok breaker =>
      { clock := now
        circuits := Function.update world.circuits name (some (circuit.follow breaker now))
        inFlight := world.inFlight ++ [⟨name, (circuit.follow breaker now).openings⟩] }
  | .complete index succeeds elapsed =>
    let now := world.clock + elapsed
    match world.inFlight[index]? with
    | none => { world with clock := now }
    | some operation =>
      let circuit := world.circuitOf operation.name now
      { clock := now
        circuits := Function.update world.circuits operation.name
          (some (circuit.completed (configOf configs operation.name) operation succeeds now))
        inFlight := world.inFlight.eraseIdx index }

def CircuitWorld.start (now : Int) : CircuitWorld := ⟨now, fun _ => none, []⟩

def recentOperations (inFlight : List Operation) (name : String) (circuit : Circuit) : List Operation :=
  inFlight.filter fun operation => operation.name = name ∧ operation.isRecent circuit

/-- What is promised of one circuit in one step. An operation is an old one if the circuit has opened since it started. -/
structure KeepsCircuit (config : CircuitBreakerConfig) (name : String) (before after : Circuit)
    (ended : Option Operation) (inFlight : List Operation) : Prop where
  singleProbe : after.breaker.state = .halfOpen → (recentOperations inFlight name after).length ≤ 1
  closesOnProbes : before.breaker.state = .halfOpen → after.breaker.state = .closed →
    config.successThreshold ≤ after.probeSuccesses
  oldDoNotClose : ∀ operation ∈ ended, operation.name = name → ¬ operation.isRecent before →
    after.breaker.state = .closed → before.breaker.state = .closed
  oldDoNotProlong : ∀ operation ∈ ended, operation.name = name → ¬ operation.isRecent before →
    before.breaker.state = .opened → after.breaker.state = .opened →
      after.breaker.lastStateChangeAt = before.breaker.lastStateChangeAt
  accepts : after.breaker.state = .opened → ∀ now : Int, after.openedAt + config.resetTimeoutMs ≤ now →
    ∃ admitted, beforeCall name config after.breaker now = .ok admitted

def CircuitWorld.ended : CircuitEvent → Option Operation
  | .execute _ _ => none
  | .complete index _ _ => world.inFlight[index]?

def KeepsCircuits (event : CircuitEvent) : Prop :=
  ∀ name after, (step configs world event).circuits name = some after →
    KeepsCircuit (configOf configs name) name (world.circuitOf name (step configs world event).clock) after
      (world.ended event) (step configs world event).inFlight

/-- The condition on one event: no operation starts on a half open circuit while another one that started since it last
opened is in flight, no older one succeeds on a half open circuit, and none fails on an open circuit whose failures have
reached the threshold. -/
def IsOrderly : CircuitEvent → Prop
  | .execute name _ =>
    ∀ circuit ∈ world.circuits name, circuit.breaker.state = .halfOpen →
      recentOperations world.inFlight name circuit = []
  | .complete index succeeds _ =>
    ∀ operation ∈ world.inFlight[index]?, ∀ circuit ∈ world.circuits operation.name,
      if succeeds then circuit.breaker.state = .halfOpen → operation.isRecent circuit
      else circuit.breaker.state = .opened →
        ¬ (configOf configs operation.name).failureThreshold ≤ (circuit.breaker.failureCount + 1 : Nat)

instance (world : CircuitWorld) : (event : CircuitEvent) → Decidable (IsOrderly configs world event)
  | .execute name _ => inferInstanceAs (Decidable (∀ circuit ∈ world.circuits name, _))
  | .complete index _ _ => inferInstanceAs (Decidable (∀ operation ∈ world.inFlight[index]?, _))

end Worlds

/-- What the fields of a circuit and the operations in flight have to do with each other. -/
structure Tended (inFlight : List Operation) (name : String) (circuit : Circuit) : Prop where
  opened : circuit.breaker.state = .opened →
    circuit.breaker.lastStateChangeAt = circuit.openedAt ∧ recentOperations inFlight name circuit = []
  halfOpen : circuit.breaker.state = .halfOpen →
    circuit.breaker.successCount = circuit.probeSuccesses ∧ (recentOperations inFlight name circuit).length ≤ 1
  uncounted : circuit.breaker.state ≠ .halfOpen → circuit.breaker.successCount = 0
  started : ∀ operation ∈ inFlight, operation.name = name → operation.openings ≤ circuit.openings

section Circuits

variable {config : CircuitBreakerConfig} {inFlight after : List Operation} {name : String} {circuit : Circuit}
  {operation : Operation} {now : Int} {breaker : CircuitBreakerState}

theorem follow_same (same : breaker.state = circuit.breaker.state) :
    circuit.follow breaker now = { circuit with breaker } := if_pos same

theorem Tended.of_sublist (tended : Tended inFlight name circuit) (fewer : List.Sublist after inFlight) :
    Tended after name circuit := by
  have recent : List.Sublist (recentOperations after name circuit) (recentOperations inFlight name circuit) :=
    fewer.filter _
  refine ⟨fun opened => ?_, fun halfOpen => ?_, tended.uncounted, fun operation member => ?_⟩
  · obtain ⟨since, none⟩ := tended.opened opened
    rw [none] at recent
    exact ⟨since, List.sublist_nil.mp recent⟩
  · obtain ⟨counted, single⟩ := tended.halfOpen halfOpen
    exact ⟨counted, recent.length_le.trans single⟩
  · exact tended.started operation (fewer.subset member)

theorem Tended.append_other (tended : Tended inFlight name circuit) (other : operation.name ≠ name) :
    Tended (inFlight ++ [operation]) name circuit := by
  have same : recentOperations (inFlight ++ [operation]) name circuit = recentOperations inFlight name circuit := by
    simp [recentOperations, other]
  refine ⟨by rw [same]; exact tended.opened, by rw [same]; exact tended.halfOpen, tended.uncounted, ?_⟩
  intro started member own
  rcases List.mem_append.mp member with old | new
  · exact tended.started started old own
  · rw [List.mem_singleton.mp new] at own
    exact absurd own other

theorem recent_append (inFlight : List Operation) (name : String) (circuit : Circuit) :
    recentOperations (inFlight ++ [⟨name, circuit.openings⟩]) name circuit =
      recentOperations inFlight name circuit ++ [⟨name, circuit.openings⟩] := by
  simp [recentOperations, Operation.isRecent]

theorem started_append (started : ∀ operation ∈ inFlight, operation.name = name → operation.openings ≤ circuit.openings) :
    ∀ operation ∈ inFlight ++ [⟨name, circuit.openings⟩], operation.name = name →
      operation.openings ≤ circuit.openings := by
  intro operation member own
  rcases List.mem_append.mp member with old | new
  · exact started operation old own
  · rw [List.mem_singleton.mp new]

theorem admit_of_opened (opened : circuit.breaker.state = .opened)
    (admitted : beforeCall name config circuit.breaker now = .ok breaker) :
    breaker = transitionTo circuit.breaker .halfOpen now := by
  rw [beforeCall, if_pos opened] at admitted
  simp only at admitted
  split at admitted
  · cases admitted
  · exact (Except.ok.inj admitted).symm

theorem admit_of_not_opened (usable : circuit.breaker.state ≠ .opened)
    (admitted : beforeCall name config circuit.breaker now = .ok breaker) : breaker = circuit.breaker := by
  rw [beforeCall, if_neg usable] at admitted
  exact (Except.ok.inj admitted).symm

theorem Tended.admitted (tended : Tended inFlight name circuit)
    (alone : circuit.breaker.state = .halfOpen → recentOperations inFlight name circuit = [])
    (admitted : beforeCall name config circuit.breaker now = .ok breaker) :
    Tended (inFlight ++ [⟨name, (circuit.follow breaker now).openings⟩]) name (circuit.follow breaker now) := by
  by_cases opened : circuit.breaker.state = .opened
  · obtain ⟨-, none⟩ := tended.opened opened
    have counted := tended.uncounted (by rw [opened]; decide)
    rw [admit_of_opened opened admitted]
    have followed : circuit.follow (transitionTo circuit.breaker .halfOpen now) now =
        { circuit with breaker := transitionTo circuit.breaker .halfOpen now, probeSuccesses := 0 } := by
      have moves : ¬ (transitionTo circuit.breaker .halfOpen now).state = circuit.breaker.state := by
        rw [opened]
        exact nofun
      rw [Circuit.follow, if_neg moves]
      rfl
    rw [followed]
    refine ⟨nofun, fun _ => ⟨counted, ?_⟩, fun other => absurd rfl other, started_append tended.started⟩
    have before : recentOperations inFlight name
        { circuit with breaker := transitionTo circuit.breaker .halfOpen now, probeSuccesses := 0 } = [] := none
    rw [recent_append, before]
    exact le_rfl
  · rw [admit_of_not_opened opened admitted, follow_same rfl]
    refine ⟨fun now => absurd now opened, fun halfOpen => ⟨(tended.halfOpen halfOpen).1, ?_⟩, tended.uncounted,
      started_append tended.started⟩
    have before : recentOperations inFlight name { circuit with breaker := circuit.breaker } = [] := alone halfOpen
    rw [recent_append, before]
    exact le_rfl

inductive Succeeded (config : CircuitBreakerConfig) (breaker after : CircuitBreakerState) : Prop where
  | closes (halfOpen : breaker.state = .halfOpen) (reached : config.successThreshold ≤ (breaker.successCount + 1 : Nat))
      (state : after.state = .closed) (uncounted : after.successCount = 0)
  | counts (halfOpen : breaker.state = .halfOpen) (state : after.state = .halfOpen)
      (counted : after.successCount = breaker.successCount + 1)
  | forgets (elsewhere : breaker.state ≠ .halfOpen) (forgotten : after = { breaker with failureCount := 0 })

theorem onSuccess_succeeded (config : CircuitBreakerConfig) (breaker : CircuitBreakerState) (now : Int) :
    Succeeded config breaker (onSuccess config breaker now) := by
  unfold onSuccess
  split
  · next halfOpen =>
    simp only
    split
    · next reached => exact .closes halfOpen reached rfl rfl
    · exact .counts halfOpen halfOpen rfl
  · next elsewhere => exact .forgets elsewhere rfl

inductive Failed (config : CircuitBreakerConfig) (breaker : CircuitBreakerState) (now : Int)
    (after : CircuitBreakerState) : Prop where
  | reopens (halfOpen : breaker.state = .halfOpen) (state : after.state = .opened) (since : after.lastStateChangeAt = now)
      (uncounted : after.successCount = 0)
  | opens (elsewhere : breaker.state ≠ .halfOpen)
      (reached : config.failureThreshold ≤ (breaker.failureCount + 1 : Nat)) (state : after.state = .opened)
      (since : after.lastStateChangeAt = now) (counted : after.successCount = breaker.successCount)
  | counts (elsewhere : breaker.state ≠ .halfOpen) (state : after.state = breaker.state)
      (since : after.lastStateChangeAt = breaker.lastStateChangeAt) (counted : after.successCount = breaker.successCount)

theorem onFailure_failed (config : CircuitBreakerConfig) (breaker : CircuitBreakerState) (now : Int) :
    Failed config breaker now (onFailure config breaker now) := by
  unfold onFailure
  simp only
  split
  · next halfOpen => exact .reopens halfOpen rfl rfl rfl
  · next elsewhere =>
    split
    · next reached => exact .opens elsewhere reached rfl rfl rfl
    · exact .counts elsewhere rfl rfl rfl

theorem completed_success (config : CircuitBreakerConfig) (circuit : Circuit) (operation : Operation) (now : Int) :
    circuit.completed config operation true now =
      { circuit.credited operation with breaker := onSuccess config circuit.breaker now } := by
  have state : (circuit.credited operation).breaker = circuit.breaker := by
    unfold Circuit.credited
    split <;> rfl
  have neverOpens : (onSuccess config circuit.breaker now).state = circuit.breaker.state ∨
      (onSuccess config circuit.breaker now).state = .closed := by
    cases onSuccess_succeeded config circuit.breaker now with
    | closes _ _ closed _ => exact .inr closed
    | counts halfOpen still _ => exact .inl (still.trans halfOpen.symm)
    | forgets _ forgotten =>
      rw [forgotten]
      exact .inl rfl
  unfold Circuit.completed
  rw [if_pos rfl]
  rcases neverOpens with same | closed
  · exact follow_same (same.trans (congrArg CircuitBreakerState.state state.symm))
  · unfold Circuit.follow
    split
    · rfl
    · simp only [closed]

theorem completed_failure_same (operation : Operation)
    (same : (onFailure config circuit.breaker now).state = circuit.breaker.state) :
    circuit.completed config operation false now = { circuit with breaker := onFailure config circuit.breaker now } := by
  unfold Circuit.completed
  rw [if_neg Bool.false_ne_true]
  exact follow_same same

theorem completed_failure_opened (operation : Operation)
    (opened : (onFailure config circuit.breaker now).state = .opened) (other : circuit.breaker.state ≠ .opened) :
    circuit.completed config operation false now =
      { circuit with
        breaker := onFailure config circuit.breaker now
        openings := circuit.openings + 1
        openedAt := now } := by
  unfold Circuit.completed
  rw [if_neg Bool.false_ne_true, Circuit.follow, if_neg (by rw [opened]; exact other.symm)]
  simp only [opened]

theorem tended_of_opening {next : Circuit} (tended : Tended inFlight name circuit)
    (opened : next.breaker.state = .opened) (since : next.breaker.lastStateChangeAt = next.openedAt)
    (uncounted : next.breaker.successCount = 0) (openings : next.openings = circuit.openings + 1) :
    Tended inFlight name next where
  opened _ := by
    refine ⟨since, List.filter_eq_nil_iff.mpr fun operation member => ?_⟩
    rw [decide_eq_true_eq]
    rintro ⟨own, recent⟩
    have earlier := tended.started operation member own
    have same : operation.openings = next.openings := recent
    omega
  halfOpen halfOpen := absurd (opened.symm.trans halfOpen) (by decide)
  uncounted _ := uncounted
  started operation member own := by
    have earlier := tended.started operation member own
    omega

theorem tended_of_same {next : CircuitBreakerState} (tended : Tended inFlight name circuit)
    (state : next.state = circuit.breaker.state) (since : next.lastStateChangeAt = circuit.breaker.lastStateChangeAt)
    (counted : next.successCount = circuit.breaker.successCount) :
    Tended inFlight name { circuit with breaker := next } where
  opened opened := by
    have before := tended.opened (state.symm.trans opened)
    exact ⟨since.trans before.1, before.2⟩
  halfOpen halfOpen := by
    have before := tended.halfOpen (state.symm.trans halfOpen)
    exact ⟨counted.trans before.1, before.2⟩
  uncounted elsewhere := counted.trans (tended.uncounted fun halfOpen => elsewhere (state.trans halfOpen))
  started := tended.started

theorem Tended.succeeded (tended : Tended inFlight name circuit)
    (orderly : circuit.breaker.state = .halfOpen → operation.isRecent circuit) :
    Tended inFlight name (circuit.completed config operation true now) := by
  rw [completed_success]
  cases onSuccess_succeeded config circuit.breaker now with
  | closes halfOpen _ closed uncounted =>
    refine ⟨fun opened => absurd (closed.symm.trans opened) (by decide),
      fun still => absurd (closed.symm.trans still) (by decide), fun _ => uncounted, ?_⟩
    rw [Circuit.credited, if_pos ⟨halfOpen, orderly halfOpen⟩]
    exact tended.started
  | counts halfOpen still counted =>
    obtain ⟨before, single⟩ := tended.halfOpen halfOpen
    rw [Circuit.credited, if_pos ⟨halfOpen, orderly halfOpen⟩]
    refine ⟨fun opened => absurd (still.symm.trans opened) (by decide), fun _ => ⟨?_, single⟩,
      fun elsewhere => absurd still elsewhere, tended.started⟩
    rw [counted, before]
  | forgets elsewhere forgotten =>
    rw [Circuit.credited, if_neg fun both => elsewhere both.1, forgotten]
    exact tended_of_same tended rfl rfl rfl

theorem Tended.failed (tended : Tended inFlight name circuit)
    (orderly : circuit.breaker.state = .opened →
      ¬ config.failureThreshold ≤ (circuit.breaker.failureCount + 1 : Nat)) :
    Tended inFlight name (circuit.completed config operation false now) := by
  cases onFailure_failed config circuit.breaker now with
  | reopens halfOpen opened since uncounted =>
    rw [completed_failure_opened operation opened (by rw [halfOpen]; decide)]
    exact tended_of_opening tended opened since uncounted rfl
  | opens elsewhere reached opened since counted =>
    have usable : circuit.breaker.state ≠ .opened := fun already => orderly already reached
    rw [completed_failure_opened operation opened usable]
    exact tended_of_opening tended opened since (counted.trans (tended.uncounted elsewhere)) rfl
  | counts elsewhere state since counted =>
    rw [completed_failure_same operation state]
    exact tended_of_same tended state since counted

theorem accepts_of_since (since : circuit.breaker.state = .opened → circuit.breaker.lastStateChangeAt = circuit.openedAt)
    (opened : circuit.breaker.state = .opened) (later : circuit.openedAt + config.resetTimeoutMs ≤ (now : ℚ)) :
    ∃ admitted, beforeCall name config circuit.breaker now = .ok admitted := by
  refine ⟨transitionTo circuit.breaker .halfOpen now, ?_⟩
  have waited : ¬ ((now - circuit.breaker.lastStateChangeAt : Int) : ℚ) < config.resetTimeoutMs := by
    rw [since opened, Int.cast_sub, not_lt]
    linarith
  rw [beforeCall, if_pos opened]
  simp only
  rw [if_neg waited]

theorem keepsCircuit_of_tended {before : Circuit} {ended : Option Operation} (tended : Tended inFlight name circuit)
    (closes : before.breaker.state = .halfOpen → circuit.breaker.state = .closed →
      config.successThreshold ≤ circuit.probeSuccesses)
    (old : ∀ operation, ended = some operation → ¬ operation.isRecent before →
      (circuit.breaker.state = .closed → before.breaker.state = .closed) ∧
        (before.breaker.state = .opened → circuit.breaker.state = .opened →
          circuit.breaker.lastStateChangeAt = before.breaker.lastStateChangeAt)) :
    KeepsCircuit config name before circuit ended inFlight where
  singleProbe halfOpen := (tended.halfOpen halfOpen).2
  closesOnProbes := closes
  oldDoNotClose operation member _ older := (old operation member older).1
  oldDoNotProlong operation member _ older := (old operation member older).2
  accepts opened _ later := accepts_of_since (fun opened => (tended.opened opened).1) opened later

theorem keepsCircuit_same {ended : Option Operation} (tended : Tended inFlight name circuit) :
    KeepsCircuit config name circuit circuit ended inFlight := by
  apply keepsCircuit_of_tended tended
  · intro halfOpen closed
    exact absurd (halfOpen.symm.trans closed) (by decide)
  · intro operation _ _
    exact ⟨id, fun _ _ => rfl⟩

theorem keepsCircuit_admitted
    (admitted : beforeCall name config circuit.breaker now = .ok breaker)
    (tended : Tended inFlight name (circuit.follow breaker now)) :
    KeepsCircuit config name circuit (circuit.follow breaker now) none inFlight := by
  apply keepsCircuit_of_tended tended
  · intro halfOpen closed
    rw [admit_of_not_opened (by rw [halfOpen]; decide) admitted, follow_same rfl] at closed
    exact absurd (halfOpen.symm.trans closed) (by decide)
  · exact nofun

theorem keepsCircuit_succeeded
    (before : circuit.breaker.state = .halfOpen → circuit.breaker.successCount = circuit.probeSuccesses)
    (orderly : circuit.breaker.state = .halfOpen → operation.isRecent circuit)
    (tended : Tended inFlight name (circuit.completed config operation true now)) :
    KeepsCircuit config name circuit (circuit.completed config operation true now) (some operation) inFlight := by
  apply keepsCircuit_of_tended tended
  · intro halfOpen closed
    rw [completed_success] at closed ⊢
    rw [Circuit.credited, if_pos ⟨halfOpen, orderly halfOpen⟩]
    cases onSuccess_succeeded config circuit.breaker now with
    | closes _ reached _ _ =>
      rw [before halfOpen] at reached
      exact reached
    | counts _ still _ => exact absurd (still.symm.trans closed) (by decide)
    | forgets elsewhere _ => exact absurd halfOpen elsewhere
  · intro ended same older
    obtain rfl := Option.some.inj same
    rw [completed_success]
    cases onSuccess_succeeded config circuit.breaker now with
    | closes halfOpen _ _ _ => exact absurd (orderly halfOpen) older
    | counts halfOpen _ _ => exact absurd (orderly halfOpen) older
    | forgets _ forgotten =>
      rw [forgotten]
      exact ⟨id, fun _ _ => rfl⟩

theorem keepsCircuit_failed
    (orderly : circuit.breaker.state = .opened →
      ¬ config.failureThreshold ≤ (circuit.breaker.failureCount + 1 : Nat))
    (tended : Tended inFlight name (circuit.completed config operation false now)) :
    KeepsCircuit config name circuit (circuit.completed config operation false now) (some operation) inFlight := by
  cases onFailure_failed config circuit.breaker now with
  | reopens halfOpen opened _ _ =>
    have next := completed_failure_opened operation opened (by rw [halfOpen]; decide)
    rw [next] at tended ⊢
    apply keepsCircuit_of_tended tended
    · intro _ closed
      exact absurd (opened.symm.trans closed) (by decide)
    · intro ended _ _
      exact ⟨fun closed => absurd (opened.symm.trans closed) (by decide),
        fun already => absurd (halfOpen.symm.trans already) (by decide)⟩
  | opens elsewhere reached opened _ _ =>
    have usable : circuit.breaker.state ≠ .opened := fun already => orderly already reached
    rw [completed_failure_opened operation opened usable] at tended ⊢
    apply keepsCircuit_of_tended tended
    · intro halfOpen _
      exact absurd halfOpen elsewhere
    · intro ended _ _
      exact ⟨fun closed => absurd (opened.symm.trans closed) (by decide), fun already => absurd already usable⟩
  | counts elsewhere state since _ =>
    rw [completed_failure_same operation state] at tended ⊢
    apply keepsCircuit_of_tended tended
    · intro halfOpen _
      exact absurd halfOpen elsewhere
    · intro ended _ _
      exact ⟨fun closed => state.symm.trans closed, fun _ _ => since⟩

end Circuits

structure Watched (world : CircuitWorld) : Prop where
  tended : ∀ name circuit, world.circuits name = some circuit → Tended world.inFlight name circuit
  known : ∀ operation ∈ world.inFlight, world.circuits operation.name ≠ none

section Steps

variable {configs : String → Option CircuitBreakerConfig} {world : CircuitWorld}
  {name : String} {circuit : Circuit} {clock : Int} {inFlight : List Operation}

theorem watched_start (now : Int) : Watched (CircuitWorld.start now) where
  tended _ _ found := nomatch found
  known _ member := absurd member List.not_mem_nil

theorem Watched.circuitOf (watched : Watched world) (name : String) (now : Int) :
    Tended world.inFlight name (world.circuitOf name now) := by
  unfold CircuitWorld.circuitOf
  cases found : world.circuits name with
  | some circuit => exact watched.tended name circuit found
  | none =>
    refine ⟨nofun, nofun, fun _ => rfl, fun operation member own => ?_⟩
    exact absurd (own ▸ found) (watched.known operation member)

theorem Watched.updated
    (watched : Watched world) (own : Tended inFlight name circuit)
    (others : ∀ other circuit, other ≠ name → Tended world.inFlight other circuit → Tended inFlight other circuit)
    (known : ∀ operation ∈ inFlight, operation ∈ world.inFlight ∨ operation.name = name) :
    Watched ⟨clock, Function.update world.circuits name (some circuit), inFlight⟩ where
  tended other found stored := by
    dsimp only at stored
    by_cases same : other = name
    · subst same
      rw [Function.update_self] at stored
      rw [← Option.some.inj stored]
      exact own
    · rw [Function.update_of_ne same] at stored
      exact others other found same (watched.tended other found stored)
  known operation member := by
    dsimp only
    by_cases same : operation.name = name
    · rw [same, Function.update_self]
      exact nofun
    · rw [Function.update_of_ne same]
      rcases known operation member with old | new
      · exact watched.known operation old
      · exact absurd new same

theorem keepsCircuits_updated
    {ended : Option Operation}
    (watched : Watched ⟨clock, Function.update world.circuits name (some circuit), inFlight⟩)
    (own : KeepsCircuit (configOf configs name) name (world.circuitOf name clock) circuit ended inFlight)
    {other : String} {after : Circuit} (found : Function.update world.circuits name (some circuit) other = some after) :
    KeepsCircuit (configOf configs other) other (world.circuitOf other clock) after ended inFlight := by
  have tended := watched.tended other after found
  by_cases same : other = name
  · subst same
    rw [Function.update_self] at found
    rw [← Option.some.inj found]
    exact own
  · rw [Function.update_of_ne same] at found
    have before : world.circuitOf other clock = after := by rw [CircuitWorld.circuitOf, found, Option.getD_some]
    rw [before]
    exact keepsCircuit_same tended

theorem step_keeps (event : CircuitEvent) (watched : Watched world) (orderly : IsOrderly configs world event) :
    Watched (step configs world event) ∧ KeepsCircuits configs world event := by
  cases event with
  | execute name elapsed =>
    have tended := watched.circuitOf name (world.clock + elapsed)
    have alone : (world.circuitOf name (world.clock + elapsed)).breaker.state = .halfOpen →
        recentOperations world.inFlight name (world.circuitOf name (world.clock + elapsed)) = [] := by
      unfold CircuitWorld.circuitOf
      cases found : world.circuits name with
      | none => exact nofun
      | some circuit => exact orderly circuit found
    unfold KeepsCircuits
    cases outcome : beforeCall name (configOf configs name) (world.circuitOf name (world.clock + elapsed)).breaker
      (world.clock + elapsed) with
    | error error =>
      simp only [step, outcome]
      have after : Watched ⟨world.clock + elapsed, _, world.inFlight⟩ :=
        watched.updated tended (fun _ _ _ kept => kept) fun _ => .inl
      refine ⟨after, fun other circuit found => ?_⟩
      exact keepsCircuits_updated after (keepsCircuit_same tended) found
    | ok breaker =>
      simp only [step, outcome]
      have admitted := tended.admitted alone outcome
      have after : Watched ⟨world.clock + elapsed, _, _⟩ := watched.updated admitted
        (fun other circuit differs kept => kept.append_other (Ne.symm differs)) fun operation member => by
          rcases List.mem_append.mp member with old | new
          · exact .inl old
          · rw [List.mem_singleton.mp new]
            exact .inr rfl
      refine ⟨after, fun other circuit found => ?_⟩
      exact keepsCircuits_updated after (keepsCircuit_admitted outcome admitted) found
  | complete index succeeds elapsed =>
    unfold KeepsCircuits
    cases found : world.inFlight[index]? with
    | none =>
      simp only [step, CircuitWorld.ended, found]
      refine ⟨⟨watched.tended, watched.known⟩, fun other circuit stored => ?_⟩
      have before : world.circuitOf other (world.clock + elapsed) = circuit := by
        rw [CircuitWorld.circuitOf, stored, Option.getD_some]
      rw [before]
      exact keepsCircuit_same (watched.tended other circuit stored)
    | some operation =>
      have tended := watched.circuitOf operation.name (world.clock + elapsed)
      have known := watched.known operation (List.mem_of_getElem? found)
      obtain ⟨circuit, stored⟩ := Option.ne_none_iff_exists'.mp known
      have present : world.circuitOf operation.name (world.clock + elapsed) = circuit := by
        rw [CircuitWorld.circuitOf, stored, Option.getD_some]
      have meets := orderly operation found circuit stored
      simp only [step, CircuitWorld.ended, found]
      rw [present] at tended ⊢
      have fewer : List.Sublist (world.inFlight.eraseIdx index) world.inFlight := List.eraseIdx_sublist _ _
      have completed : Tended (world.inFlight.eraseIdx index) operation.name
          (circuit.completed (configOf configs operation.name) operation succeeds (world.clock + elapsed)) := by
        cases succeeds with
        | true => exact (tended.of_sublist fewer).succeeded meets
        | false => exact (tended.of_sublist fewer).failed meets
      have after : Watched ⟨world.clock + elapsed, _, world.inFlight.eraseIdx index⟩ := watched.updated completed
        (fun _ _ _ kept => kept.of_sublist fewer) fun _ member => .inl (fewer.subset member)
      refine ⟨after, fun other next stored => ?_⟩
      apply keepsCircuits_updated after _ stored
      rw [present]
      cases succeeds with
      | true => exact keepsCircuit_succeeded (fun halfOpen => (tended.halfOpen halfOpen).1) meets completed
      | false => exact keepsCircuit_failed meets completed

end Steps

open Runs

end ShuleHub.Resilience
