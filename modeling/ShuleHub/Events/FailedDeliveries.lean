import ShuleHub.Events.QueueRuns

/-! How often the delivery of an event has failed by the time that it is discarded. -/

namespace ShuleHub.Events

open Processes Runs KeyedTable OutboxEvents

namespace OutboxWorld

variable (id : String)

def isFailing : ExecutionPhase → Bool
  | .failing _ => true
  | _ => false

def failing (execution : Execution) : Nat :=
  if execution.payload.outboxEventId = id ∧ isFailing execution.phase = true then 1 else 0

def named (events : List ClaimedOutboxEvent) : Nat := events.countP fun event => event.id = id

/-- How often a round in which `addBulk` has thrown is still to mark the event. -/
def toMark (round : DispatchRound) : Nat :=
  match round.phase with
  | .failing events _ => named id events
  | _ => 0

def unrecorded (world : OutboxWorld) : Nat :=
  load (failing id) world.executions + load (toMark id) world.rounds

/-- The deliveries of the event that fail in a step: by an enqueue that throws, or in an execution. -/
@[grind =] def failures (registry : String → List String) (config : EventsConfig) (id : String) (world : OutboxWorld)
    (event : OutboxStep) : Nat :=
  match event with
  | .enqueueFailed place _ _ =>
    match world.rounds[place]? with
    | some round => if round.phase = .claimed then named id round.events else 0
    | none => 0
  | .work _ _ _ =>
    load (failing id) (step registry config world event).executions - load (failing id) world.executions
  | _ => 0

def underway : OutboxEventStatus → Nat
  | .pending | .failed => 0
  | .processing | .published | .discarded => 1

/-- Each attempt of the event but the one that is under way has been a failed delivery, and so has each of those
after which it was discarded. -/
structure Tallied (config : EventsConfig) (id : String) (world : OutboxWorld) (failed : Nat) : Prop where
  counted : unrecorded id world ≤ failed
  attempts : ∀ stored ∈ world.events.rows, stored.id = id →
    stored.attemptCount + unrecorded id world ≤ failed + underway stored.status
  discarded : ∀ stored ∈ world.events.rows, stored.id = id → stored.status = .discarded → config.maxAttempts ≤ failed

def ClaimsNoneInProcessing (config : EventsConfig) (id : String) (world : OutboxWorld) : OutboxStep → Prop
  | .dispatch batchSize now =>
    ∀ event ∈ world.events.candidateEvents world.locked config.staleProcessingAfterMs batchSize now, event.id = id →
      event.status ≠ .processing
  | _ => True

section Tally

variable {registry : String → List String} {config : EventsConfig} {id : String} {world after : OutboxWorld}
  {failed more : Nat}

/-- An event after a step that marks nothing: a new one, or one whose attempts have grown no more than those under
way. -/
def Follows (before : OutboxEvents) (later : OutboxEvent) : Prop :=
  later.attemptCount = 0 ∧ later.status = .pending ∨
    ∃ stored ∈ before.rows, stored.id = later.id ∧
      later.attemptCount + underway stored.status ≤ stored.attemptCount + underway later.status ∧
      (later.status = .discarded → stored.status = .discarded)

theorem follows_self {before : OutboxEvents} {stored : OutboxEvent} (member : stored ∈ before.rows) :
    Follows before stored := .inr ⟨stored, member, rfl, le_rfl, fun held => held⟩

theorem Tallied.follow (tallied : Tallied config id world failed)
    (fewer : unrecorded id after ≤ unrecorded id world + more)
    (rows : ∀ later ∈ after.events.rows, later.id = id → Follows world.events later) :
    Tallied config id after (failed + more) := by
  have counted := tallied.counted
  constructor
  · omega
  · intro later member own
    rcases rows later member own with ⟨none, pending⟩ | ⟨stored, present, same, grown, -⟩
    · rw [none]
      omega
    · have before := tallied.attempts stored present (same.trans own)
      omega
  · intro later member own held
    rcases rows later member own with ⟨-, pending⟩ | ⟨stored, present, same, -, kept⟩
    · cases held.symm.trans pending
    · have before := tallied.discarded stored present (same.trans own) (kept held)
      omega

theorem Tallied.mark (tallied : Tallied config id world failed) (fewer : unrecorded id after < unrecorded id world)
    (tenantId target message : String) (now : Int)
    (marks : after.events = world.events.markFailed config tenantId target message now) :
    Tallied config id after failed := by
  have counted := tallied.counted
  have small (status : OutboxEventStatus) : underway status ≤ 1 := by cases status <;> decide
  constructor
  · omega
  · intro later member own
    rw [marks] at member
    obtain ⟨stored, present, rfl⟩ := mem_updateOf.mp member
    have same : stored.id = id := by split at own <;> exact own
    have before := tallied.attempts stored present same
    have few := small stored.status
    split
    · change stored.attemptCount + _ ≤ _
      omega
    · omega
  · intro later member own held
    rw [marks] at member
    obtain ⟨stored, present, rfl⟩ := mem_updateOf.mp member
    have same : stored.id = id := by split at own <;> exact own
    have before := tallied.attempts stored present same
    have few := small stored.status
    split at held
    · simp only [OutboxEvents.fail] at held
      split at held
      · omega
      · cases held
    · exact tallied.discarded stored present same held

theorem unrecorded_setRound {place : Nat} {round : DispatchRound} (found : world.rounds[place]? = some round)
    (events : OutboxEvents) (phase : RoundPhase) :
    unrecorded id (setRound { world with events } place round phase) + toMark id round =
      unrecorded id world + toMark id { round with phase } := by
  have loads := load_set (toMark id) found { round with phase }
  simp only [unrecorded, setRound]
  omega

theorem unrecorded_setPhase {place : Nat} {execution : Execution} (found : world.executions[place]? = some execution)
    (events : OutboxEvents) (phase : ExecutionPhase) :
    unrecorded id (setPhase { world with events } place execution phase) + failing id execution =
      unrecorded id world + failing id { execution with phase } := by
  have loads := load_set (failing id) found { execution with phase }
  simp only [unrecorded, setPhase]
  omega

theorem createEvent_follows {events : OutboxEvents} {newId : String} {now : Int} {input : PublishDomainEventInput}
    (created : world.events.createEvent newId now input = some events) :
    ∀ later ∈ events.rows, Follows world.events later := by
  intro later member
  unfold createEvent at created
  split at created
  · cases created
    obtain ⟨stored, present, rfl⟩ := mem_modify.mp member
    split <;> exact .inr ⟨stored, present, rfl, le_rfl, fun held => held⟩
  · obtain ⟨fresh, rfl⟩ := (tryInsert_eq_some _).mp created
    rcases mem_insert.mp member with old | rfl
    · exact follows_self old
    · exact .inl ⟨rfl, rfl⟩

theorem lockPendingBatch_follows {events : OutboxEvents} {batchSize : Nat} {now : Int}
    {batch : List ClaimedOutboxEvent}
    (claims : world.events.lockPendingBatch world.locked config.staleProcessingAfterMs batchSize now =
      some (events, batch))
    (fresh : ClaimsNoneInProcessing config id world (.dispatch batchSize now)) :
    ∀ later ∈ events.rows, later.id = id → Follows world.events later := by
  intro later member own
  unfold lockPendingBatch at claims
  split at claims
  · cases claims
  · cases claims
    obtain ⟨stored, present, rfl⟩ := mem_modify.mp member
    split
    · next taken =>
      obtain ⟨candidate, listed, same⟩ := List.mem_map.mp taken
      obtain ⟨candidatePresent, claimable, -⟩ := mem_candidateEvents listed
      cases eq_of_key candidatePresent present same
      have mine : stored.id = id := by split at own <;> exact own
      have idle : underway stored.status = 0 := by
        rcases claimable with ⟨status, -⟩ | ⟨status, -⟩ | ⟨status, -⟩
        · rw [status]
          rfl
        · rw [status]
          rfl
        · exact absurd status (fresh stored listed mine)
      refine .inr ⟨stored, present, rfl, ?_, nofun⟩
      rw [idle]
      exact le_rfl
    · exact follows_self present

theorem markPublished_follows (tenantId target : String) (now : Int) :
    ∀ later ∈ (world.events.markPublished tenantId target now).rows, Follows world.events later := by
  intro later member
  obtain ⟨stored, present, rfl⟩ := mem_markPublished.mp member
  split
  · refine .inr ⟨stored, present, rfl, ?_, nofun⟩
    have small : underway stored.status ≤ 1 := by cases stored.status <;> decide
    exact Nat.add_le_add_left small _
  · exact follows_self present

theorem markFailed_follows {tenantId target message : String} {now : Int} (other : target ≠ id) :
    ∀ later ∈ (world.events.markFailed config tenantId target message now).rows, later.id = id →
      Follows world.events later := by
  intro later member own
  obtain ⟨stored, present, rfl⟩ := mem_updateOf.mp member
  split
  · next named =>
    have mine : stored.id = id := by split at own <;> exact own
    exact absurd (named.2.symm.trans mine) other
  · exact follows_self present

theorem Tallied.marked (tallied : Tallied config id world failed) {tenantId target message : String} {now : Int}
    (marks : after.events = world.events.markFailed config tenantId target message now)
    (fewer : unrecorded id after + (if target = id then 1 else 0) = unrecorded id world) :
    Tallied config id after failed := by
  by_cases mine : target = id
  · rw [if_pos mine] at fewer
    exact tallied.mark (by omega) tenantId target message now marks
  · rw [if_neg mine] at fewer
    have follows := @markFailed_follows config id world tenantId target message now mine
    rw [← marks] at follows
    have still : Tallied config id after (failed + 0) := tallied.follow (by omega) follows
    exact still

theorem afterBulk_tallied (tallied : Tallied config id world failed) {place : Nat} {phase : DispatchRound → RoundPhase}
    (added : ∀ round, world.rounds[place]? = some round → round.phase = .claimed →
      toMark id { round with phase := phase round } ≤ more) :
    Tallied config id (afterBulk world place phase) (failed + more) := by
  have rows : ∀ later ∈ world.events.rows, later.id = id → Follows world.events later :=
    fun later member _ => follows_self member
  simp only [afterBulk, onRound]
  split
  · next round found =>
    split
    · next claimed =>
      refine tallied.follow ?_ rows
      have changed : unrecorded id (setRound world place round (phase round)) + toMark id round =
          unrecorded id world + toMark id { round with phase := phase round } :=
        unrecorded_setRound found world.events (phase round)
      have few := added round found claimed
      omega
    · exact tallied.follow (Nat.le_add_right _ _) rows
  · exact tallied.follow (Nat.le_add_right _ _) rows

theorem markNextFailed_tallied (tallied : Tallied config id world failed) {place : Nat} {round : DispatchRound}
    (found : world.rounds[place]? = some round) (now : Int) :
    Tallied config id (markNextFailed config world place now round) failed := by
  have rows : ∀ later ∈ world.events.rows, later.id = id → Follows world.events later :=
    fun later member _ => follows_self member
  unfold markNextFailed
  split
  · next event rest message phase =>
    split
    · exact tallied
    · apply @Tallied.marked config id world _ failed tallied event.tenantId event.id message now rfl
      have changed := @unrecorded_setRound id world place round found
        (world.events.markFailed config event.tenantId event.id message now) (.failing rest message)
      have before : toMark id round = named id (event :: rest) := by rw [toMark, phase]
      have counted : named id (event :: rest) = named id rest + if event.id = id then 1 else 0 := by
        simp [named, List.countP_cons]
      change _ = _ + named id rest at changed
      omega
  · next message phase =>
    have changed : unrecorded id (setRound world place round .failed) + toMark id round = unrecorded id world + 0 :=
      unrecorded_setRound found world.events .failed
    have still : Tallied config id (setRound world place round .failed) (failed + 0) :=
      tallied.follow (by omega) rows
    exact still
  · exact tallied

theorem work_follows {place : Nat} {execution : Execution} (now : Int) (outcome : Except String Unit)
    (marksNothing : outcome = .ok () → isFailing execution.phase = false) :
    ∀ later ∈ (work registry config world place now outcome execution).events.rows, Follows world.events later := by
  have same : ∀ later ∈ world.events.rows, Follows world.events later := fun later member => follows_self member
  unfold work
  split
  · unfold start
    split
    · exact same
    · split
      · exact same
      · split <;> exact same
  · exact same
  · simp only [handle]
    split <;> exact same
  · exact markPublished_follows _ _ now
  · exact same
  · next message phase =>
    have fails := marksNothing rfl
    rw [phase] at fails
    cases fails
  · exact same
  · exact same

theorem work_tallied (tallied : Tallied config id world failed) {place : Nat} {execution : Execution}
    (found : world.executions[place]? = some execution) (now : Int) (outcome : Except String Unit) :
    Tallied config id (work registry config world place now outcome execution)
      (failed + (load (failing id) (work registry config world place now outcome execution).executions -
        load (failing id) world.executions)) := by
  by_cases marks : outcome = .ok () ∧ isFailing execution.phase = true
  · obtain ⟨rfl, fails⟩ := marks
    cases phase : execution.phase with
    | failing message =>
      have ends : work registry config world place now (.ok ()) execution =
          failEvent config world place now execution message := by
        unfold work
        rw [phase]
      rw [ends]
      simp only [failEvent]
      split
      · rw [Nat.sub_self]
        exact tallied
      · have loads := load_set (failing id) found { execution with phase := .finished (some message) }
        have none : failing id { execution with phase := .finished (some message) } = 0 := by simp [failing, isFailing]
        have own : failing id execution = if execution.payload.outboxEventId = id then 1 else 0 := by
          simp [failing, isFailing, phase]
        have changed := @unrecorded_setPhase id world place execution found
          (world.events.markFailed config execution.payload.tenantId execution.payload.outboxEventId message now)
          (.finished (some message))
        have less : load (failing id) (world.executions.set place
            { execution with phase := .finished (some message) }) - load (failing id) world.executions = 0 := by omega
        simp only [setPhase] at changed ⊢
        rw [less]
        exact tallied.marked rfl (by omega)
    | starting => rw [phase] at fails; cases fails
    | handling event consumers written handled => rw [phase] at fails; cases fails
    | finished error => rw [phase] at fails; cases fails
  · apply tallied.follow
    · rw [unrecorded, unrecorded, work_rounds]
      omega
    · intro later member _
      apply work_follows now outcome _ later member
      intro succeeds
      cases fails : isFailing execution.phase with
      | false => rfl
      | true => exact absurd ⟨succeeds, fails⟩ marks

theorem tallied_step (tallied : Tallied config id world failed) (event : OutboxStep)
    (fresh : ClaimsNoneInProcessing config id world event) :
    Tallied config id (step registry config world event) (failed + failures registry config id world event) := by
  have rows : ∀ later ∈ world.events.rows, later.id = id → Follows world.events later :=
    fun later member _ => follows_self member
  cases event with
  | publish newId now input =>
    simp only [step]
    split
    · next created => exact tallied.follow (Nat.le_add_right _ _) fun later member _ => createEvent_follows created later member
    · exact tallied.follow (Nat.le_add_right _ _) rows
  | dispatch batchSize now =>
    simp only [step, dispatch]
    split
    · exact tallied.follow (Nat.le_add_right _ _) rows
    · next events claimed claims =>
      apply tallied.follow _ (lockPendingBatch_follows claims fresh)
      simp only [unrecorded, load_append]
      exact Nat.le_add_right _ _
  | enqueued place => exact afterBulk_tallied tallied fun _ _ _ => le_rfl
  | enqueueFailed place added message =>
    apply afterBulk_tallied tallied
    intro round found claimed
    simp only [failures, found, claimed, if_true]
    exact le_rfl
  | markFailed place now =>
    simp only [step, onRound]
    split
    · next round found => exact markNextFailed_tallied tallied found now
    · exact tallied
  | abandon place =>
    simp only [step, onRound]
    split
    · next round found =>
      refine tallied.follow ?_ rows
      have changed : unrecorded id (setRound world place round .failed) + toMark id round = unrecorded id world + 0 :=
        unrecorded_setRound found world.events .failed
      omega
    · exact tallied
  | deliver payload =>
    refine tallied.follow ?_ rows
    simp only [step, unrecorded, load_append]
    have idle : load (failing id) [⟨payload, .starting⟩] = 0 := by simp [load, failing, isFailing]
    omega
  | work place now outcome =>
    simp only [step, failures, onExecution]
    split
    · next execution found => exact work_tallied tallied found now outcome
    · rw [Nat.sub_self]
      exact tallied

end Tally

instance (config : EventsConfig) (id : String) (world : OutboxWorld) :
    DecidablePred (ClaimsNoneInProcessing config id world) := fun event => by
  unfold ClaimsNoneInProcessing
  split <;> infer_instance

end OutboxWorld

namespace QueueWorld

abbrev Counted := QueueWorld × Nat

def failures (registry : String → List String) (config : EventsConfig) (id : String) (world : QueueWorld) :
    QueueStep → Nat
  | .outbox event => OutboxWorld.failures registry config id world.outbox event
  | .start _ => 0

def countedStep (registry : String → List String) (config : EventsConfig) (id : String) (counted : Counted)
    (event : QueueStep) : Counted :=
  (step registry config counted.1 event, counted.2 + failures registry config id counted.1 event)

/-- The event is discarded only after as many failed deliveries as it has attempts. -/
def DiscardedAfterFailures (config : EventsConfig) (id : String) (counted : Counted) : Prop :=
  ∀ stored ∈ counted.1.outbox.events.rows, stored.id = id → stored.status = .discarded →
    config.maxAttempts ≤ counted.2
deriving Decidable

/-- The condition on one step: a round of the dispatcher takes the event only once it is known how its last delivery
has ended. -/
def ClaimsNoneInProcessing (config : EventsConfig) (id : String) (counted : Counted) : QueueStep → Prop
  | .outbox event => OutboxWorld.ClaimsNoneInProcessing config id counted.1.outbox event
  | .start _ => True

instance (config : EventsConfig) (id : String) (counted : Counted) :
    DecidablePred (ClaimsNoneInProcessing config id counted) := fun event => by
  unfold ClaimsNoneInProcessing
  split <;> infer_instance

theorem countedStep_tallied {registry : String → List String} {config : EventsConfig} {id : String}
    (counted : Counted) (event : QueueStep) (tallied : OutboxWorld.Tallied config id counted.1.outbox counted.2)
    (fresh : ClaimsNoneInProcessing config id counted event) :
    OutboxWorld.Tallied config id (countedStep registry config id counted event).1.outbox
      (countedStep registry config id counted event).2 := by
  cases event with
  | start target =>
    simp only [countedStep, step]
    split
    · next payload _ =>
      exact @OutboxWorld.tallied_step registry config id counted.1.outbox counted.2 tallied (.deliver payload) trivial
    · exact tallied
  | outbox event =>
    have next := @OutboxWorld.tallied_step registry config id counted.1.outbox counted.2 tallied event fresh
    cases event with
    | deliver payload => exact tallied
    | publish newId now input => exact next
    | dispatch batchSize now => exact next
    | enqueued place => exact next
    | enqueueFailed place added message => exact next
    | markFailed place now => exact next
    | abandon place => exact next
    | work place now outcome => exact next

end QueueWorld

theorem QueueWorld.discarded_after_failures (registry : String → List String) (config : EventsConfig) (id : String)
    (steps : List QueueStep)
    (fresh : Meets (countedStep registry config id) (ClaimsNoneInProcessing config id) (empty, 0) steps) :
    Along (countedStep registry config id) (DiscardedAfterFailures config id) (empty, 0) steps := by
  have nothing : OutboxWorld.Tallied config id empty.outbox 0 := by
    constructor
    · exact Nat.zero_le _
    · intro stored member
      exact absurd member List.not_mem_nil
    · intro stored member
      exact absurd member List.not_mem_nil
  have implied (counted : Counted) (tallied : OutboxWorld.Tallied config id counted.1.outbox counted.2) :
      DiscardedAfterFailures config id counted := tallied.discarded
  exact along_of_meets countedStep_tallied implied nothing fresh

namespace QueueWorld

theorem discarded_after_failures_published :
    Along (countedStep OutboxWorld.studentRegistry OutboxWorld.defaultConfig "event")
      (DiscardedAfterFailures OutboxWorld.defaultConfig "event") (empty, 0) publishedSteps := by
  apply discarded_after_failures
  decide +kernel

/-- Twenty-four rounds find the event in processing, since its job waits behind others; then its first execution
fails. -/
def backlogSteps : List QueueStep :=
  [.outbox (.publish "event" 0 OutboxWorld.studentCreated), .outbox (.dispatch 100 0), .outbox (.enqueued 0)] ++
    (List.range 24).flatMap (fun round =>
      [.outbox (.dispatch 100 (30000 * (round + 1))), .outbox (.enqueued (round + 1))]) ++
    [.start "event", .outbox (.work 0 720001 (.ok ())), .outbox (.work 0 720002 (.error "Connection terminated")),
      .outbox (.work 0 720003 (.ok ()))]

theorem backlog_discards_after_one_failure :
    let last := run (countedStep OutboxWorld.studentRegistry OutboxWorld.defaultConfig "event") (empty, 0) backlogSteps
    (last.2 = 1 ∧ last.1.outbox.events.rows.map (fun event => (event.id, event.status)) = [("event", .discarded)]) ∧
      ¬ Along (countedStep OutboxWorld.studentRegistry OutboxWorld.defaultConfig "event")
        (DiscardedAfterFailures OutboxWorld.defaultConfig "event") (empty, 0) backlogSteps := by
  intro last
  refine ⟨by decide +kernel, ?_⟩
  intro always
  have final : DiscardedAfterFailures OutboxWorld.defaultConfig "event" last := run_of_along always
  exact absurd final (by decide +kernel)

end QueueWorld

end ShuleHub.Events
