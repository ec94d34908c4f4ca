import ShuleHub.Lib.KeyedTable
import ShuleHub.Runtime

/-! The tables `outbox_events` and `event_consumer_runs`, and the statements that the dispatcher and the workers
send to them. -/

namespace ShuleHub.Events

open KeyedTable

inductive OutboxEventStatus where
  | pending
  | processing
  | published
  | failed
  | discarded
deriving DecidableEq

structure OutboxEvent where
  id : String
  tenantId : String
  eventKey : String
  eventName : String
  aggregateType : String
  aggregateId : String
  payload : Json
  headers : Metadata
  status : OutboxEventStatus
  attemptCount : Nat
  availableAt : Int
  publishedAt : Option Int
  lastError : Option String
  createdAt : Int
  updatedAt : Int
deriving DecidableEq

structure PublishDomainEventInput where
  tenantId : String
  eventKey : String
  eventName : String
  aggregateType : String
  aggregateId : String
  payload : Json
  headers : Metadata
  availableAt : Option Int

structure ClaimedOutboxEvent where
  id : String
  tenantId : String
  requestId : String
  traceId : String
  spanId : Option String
  userId : String
  role : String
  sessionId : Option String
deriving DecidableEq

inductive EventConsumerRunStatus where
  | processing
  | completed
  | failed
deriving DecidableEq

structure EventConsumerRun where
  tenantId : String
  outboxEventId : String
  eventKey : String
  consumerName : String
  status : EventConsumerRunStatus
  attemptCount : Nat
  lastError : Option String
  processedAt : Option Int
deriving DecidableEq

def EventConsumerRun.key (run : EventConsumerRun) : String × String := (run.outboxEventId, run.consumerName)

abbrev OutboxEvents := KeyedTable OutboxEvent String OutboxEvent.id

abbrev EventConsumerRuns := KeyedTable EventConsumerRun (String × String) EventConsumerRun.key

structure EventsConfig where
  staleProcessingAfterMs : Nat
  retryDelayMs : Nat
  maxAttempts : Nat

namespace OutboxEvents

variable (events : OutboxEvents)
  (tenantId outboxEventId : String) (before after : OutboxEvents) (now : Int) (event : OutboxEvent)

def findById : Option OutboxEvent :=
  (events.find outboxEventId).filter fun event => event.tenantId = tenantId

/-- `INSERT … ON CONFLICT (tenant_id, event_key) DO UPDATE`: an event that is published again keeps everything but
its headers. An identifier that is taken fails the statement. -/
def createEvent (id : String) (now : Int) (input : PublishDomainEventInput) :
    Option OutboxEvents :=
  match events.rows.find? fun event => event.tenantId = input.tenantId ∧ event.eventKey = input.eventKey with
  | some existing =>
    some (events.update existing.id (fun event => { event with headers := event.headers.merge input.headers })
      fun _ => rfl)
  | none =>
    events.tryInsert
      { id, tenantId := input.tenantId, eventKey := input.eventKey, eventName := input.eventName
        aggregateType := input.aggregateType, aggregateId := input.aggregateId, payload := input.payload
        headers := input.headers, status := .pending, attemptCount := 0
        availableAt := input.availableAt.getD now, publishedAt := none, lastError := none
        createdAt := now, updatedAt := now }

/-- The events that `app.claim_outbox_events` may claim: due ones, and those that have been in processing too
long. -/
def Claimable (staleProcessingAfterMs : Nat) (now : Int) (event : OutboxEvent) : Prop :=
  event.status = .pending ∧ event.availableAt ≤ now ∨ event.status = .failed ∧ event.availableAt ≤ now ∨
    event.status = .processing ∧ event.updatedAt ≤ now - staleProcessingAfterMs
deriving Decidable

def Before (first second : OutboxEvent) : Prop :=
  first.availableAt < second.availableAt ∨
    first.availableAt = second.availableAt ∧ first.createdAt ≤ second.createdAt
deriving Decidable

def candidateEvents (locked : String → Bool) (staleProcessingAfterMs batchSize : Nat)
    (now : Int) : List OutboxEvent :=
  let candidates := events.rows.filter fun event =>
    Claimable staleProcessingAfterMs now event ∧ locked event.id = false
  (candidates.insertionSort Before).take batchSize

def claim : OutboxEvent :=
  { event with status := .processing, attemptCount := event.attemptCount + 1, lastError := none, updatedAt := now }

def header (key : String) : Option String := (event.headers.text key).filter (· ≠ "")

def claimed : ClaimedOutboxEvent where
  id := event.id
  tenantId := event.tenantId
  requestId := (header event "request_id").getD ("outbox:" ++ event.id)
  traceId := ((header event "trace_id").or (header event "request_id")).getD ("outbox:" ++ event.id)
  spanId := header event "span_id"
  userId := (header event "user_id").getD "anonymous"
  role := (header event "role").getD "system"
  sessionId := header event "session_id"

def lockPendingBatch (locked : String → Bool) (staleProcessingAfterMs batchSize : Nat)
    (now : Int) : Option (OutboxEvents × List ClaimedOutboxEvent) :=
  if batchSize = 0 then none
  else
    let candidates := candidateEvents events locked staleProcessingAfterMs batchSize now
    some (events.modify
      (fun event => if event.id ∈ candidates.map OutboxEvent.id then claim now event else event)
      (fun event => by split <;> rfl), candidates.map claimed)

def updateOf (change : OutboxEvent → OutboxEvent)
    (kept : ∀ event, (change event).id = event.id) : OutboxEvents :=
  events.modify
    (fun event => if event.tenantId = tenantId ∧ event.id = outboxEventId then change event else event)
    fun event => by
      split
      · exact kept event
      · rfl

def publish : OutboxEvent :=
  { event with status := .published, publishedAt := some now, lastError := none, updatedAt := now }

def markPublished : OutboxEvents :=
  events.updateOf tenantId outboxEventId (publish now) fun _ => rfl

def fail (config : EventsConfig) (errorMessage : String) (now : Int) (event : OutboxEvent) : OutboxEvent :=
  { event with
    status := if config.maxAttempts ≤ event.attemptCount then .discarded else .failed
    availableAt := if config.maxAttempts ≤ event.attemptCount then now else now + config.retryDelayMs
    lastError := some errorMessage
    updatedAt := now }

/-- The statement does not look at the status that the event has. -/
def markFailed (config : EventsConfig) (tenantId outboxEventId errorMessage : String)
    (now : Int) : OutboxEvents :=
  events.updateOf tenantId outboxEventId (fail config errorMessage now) fun _ => rfl

theorem findById_eq_some {events : OutboxEvents} {tenantId outboxEventId : String} {event : OutboxEvent} :
    events.findById tenantId outboxEventId = some event ↔
      event ∈ events.rows ∧ event.id = outboxEventId ∧ event.tenantId = tenantId := by
  rw [findById, Option.filter_eq_some_iff, find_eq_some, decide_eq_true_eq, and_assoc]

/-- Every event is there with its tenant and its name, and none is published that was not. -/
structure Evolves : Prop where
  kept : ∀ event ∈ before.rows, ∃ later ∈ after.rows, later.id = event.id ∧ later.tenantId = event.tenantId ∧
    later.eventName = event.eventName
  published : ∀ later ∈ after.rows, later.status = .published → ∃ event ∈ before.rows, event.id = later.id ∧
    event.eventName = later.eventName ∧ event.status = .published

/-- Every event is there with its tenant, what is published stays so, and none is discarded that was not. -/
structure Advances : Prop where
  kept : ∀ event ∈ before.rows, ∃ later ∈ after.rows, later.id = event.id ∧ later.tenantId = event.tenantId ∧
    (event.status = .published → later.status = .published)
  discarded : ∀ later ∈ after.rows, later.status = .discarded → ∃ event ∈ before.rows, event.id = later.id ∧
    event.status = .discarded

def Stays : Prop :=
  ∀ event ∈ before.rows, event.status = .published →
    ∃ later ∈ after.rows, later.id = event.id ∧ later.status = .published
deriving Decidable

theorem Stays.refl (events : OutboxEvents) : Stays events events :=
  fun event member published => ⟨event, member, rfl, published⟩

theorem Advances.refl (events : OutboxEvents) : Advances events events :=
  ⟨fun event member => ⟨event, member, rfl, rfl, id⟩, fun event member discarded => ⟨event, member, rfl, discarded⟩⟩

theorem Advances.stays {before after : OutboxEvents} (advances : Advances before after) : Stays before after := by
  intro event member published
  obtain ⟨later, present, same, -, still⟩ := advances.kept event member
  exact ⟨later, present, same, still published⟩

section Changes

variable {events after : OutboxEvents} {change : OutboxEvent → OutboxEvent}
  {kept : ∀ event, (change event).id = event.id}
  {now : Int} {locked : String → Bool} {staleProcessingAfterMs batchSize : Nat} {event later : OutboxEvent}
  {tenantId outboxEventId : String}

theorem evolves_modify
    (same : ∀ event, (change event).tenantId = event.tenantId ∧ (change event).eventName = event.eventName)
    (unpublished : ∀ event, (change event).status = .published → event.status = .published) :
    Evolves events (events.modify change kept) := by
  constructor
  · intro event member
    exact ⟨change event, mem_modify.mpr ⟨event, member, rfl⟩, kept event, (same event).1, (same event).2⟩
  · intro later member published
    obtain ⟨event, present, rfl⟩ := mem_modify.mp member
    exact ⟨event, present, (kept event).symm, (same event).2.symm, unpublished event published⟩

theorem advances_modify (tenant : ∀ event, (change event).tenantId = event.tenantId)
    (published : ∀ event ∈ events.rows, event.status = .published → (change event).status = .published)
    (discarded : ∀ event, (change event).status = .discarded → event.status = .discarded) :
    Advances events (events.modify change kept) := by
  constructor
  · intro event member
    exact ⟨change event, mem_modify.mpr ⟨event, member, rfl⟩, kept event, tenant event,
      published event member⟩
  · intro later member held
    obtain ⟨event, present, rfl⟩ := mem_modify.mp member
    exact ⟨event, present, (kept event).symm, discarded event held⟩

theorem createEvent_cases {id : String} {input : PublishDomainEventInput}
    (created : events.createEvent id now input = some after) :
    Evolves events after ∧ Advances events after := by
  unfold createEvent at created
  split at created
  · cases created
    constructor
    · apply evolves_modify
      · intro event
        split <;> exact ⟨rfl, rfl⟩
      · intro event published
        split at published <;> exact published
    · apply advances_modify
      · intro event
        split <;> rfl
      · intro event _ published
        split <;> exact published
      · intro event discarded
        split at discarded <;> exact discarded
  · obtain ⟨fresh, rfl⟩ := (tryInsert_eq_some events).mp created
    constructor
    · constructor
      · intro event member
        exact ⟨event, mem_insert.mpr (.inl member), rfl, rfl, rfl⟩
      · intro later member published
        rcases mem_insert.mp member with present | rfl
        · exact ⟨later, present, rfl, rfl, published⟩
        · cases published
    · constructor
      · intro event member
        exact ⟨event, mem_insert.mpr (.inl member), rfl, rfl, fun published => published⟩
      · intro later member discarded
        rcases mem_insert.mp member with present | rfl
        · exact ⟨later, present, rfl, discarded⟩
        · cases discarded

theorem mem_candidateEvents (member : event ∈ candidateEvents events locked staleProcessingAfterMs batchSize now) :
    event ∈ events.rows ∧ Claimable staleProcessingAfterMs now event ∧ locked event.id = false := by
  have sorted := (List.mem_insertionSort _).mp (List.mem_of_mem_take member)
  obtain ⟨present, allowed⟩ := List.mem_filter.mp sorted
  exact ⟨present, of_decide_eq_true allowed⟩

theorem Claimable.unpublished
    (claimable : Claimable staleProcessingAfterMs now event) : event.status ≠ .published := by
  rintro published
  rcases claimable with ⟨status, -⟩ | ⟨status, -⟩ | ⟨status, -⟩ <;> cases published.symm.trans status

theorem lockPendingBatch_cases
    {events after : OutboxEvents} {batch : List ClaimedOutboxEvent}
    (claims : events.lockPendingBatch locked staleProcessingAfterMs batchSize now = some (after, batch)) :
    Evolves events after ∧ Advances events after := by
  unfold lockPendingBatch at claims
  split at claims
  · cases claims
  · cases claims
    constructor
    · apply evolves_modify
      · intro event
        split <;> exact ⟨rfl, rfl⟩
      · intro event published
        split at published
        · cases published
        · exact published
    · apply advances_modify
      · intro event
        split <;> rfl
      · intro event member published
        split
        · next taken =>
          obtain ⟨candidate, own, same⟩ := List.mem_map.mp taken
          obtain ⟨present, claimable, -⟩ := mem_candidateEvents own
          cases eq_of_key present member same
          exact absurd published claimable.unpublished
        · exact published
      · intro event discarded
        split at discarded
        · cases discarded
        · exact discarded

theorem mem_updateOf :
    later ∈ (events.updateOf tenantId outboxEventId change kept).rows ↔
      ∃ event ∈ events.rows,
        (if event.tenantId = tenantId ∧ event.id = outboxEventId then change event else event) = later :=
  mem_modify

theorem markFailed_evolves (config : EventsConfig) (tenantId outboxEventId message : String) (now : Int) :
    Evolves events (events.markFailed config tenantId outboxEventId message now) := by
  unfold markFailed updateOf
  apply evolves_modify
  · intro event
    split <;> exact ⟨rfl, rfl⟩
  · intro event published
    split at published
    · simp only [fail] at published
      split at published <;> cases published
    · exact published

theorem markFailed_stays {config : EventsConfig} {message : String} :
    Stays events (events.markFailed config tenantId outboxEventId message now) ↔
      ∀ event, events.findById tenantId outboxEventId = some event → event.status ≠ .published := by
  constructor
  · intro stays event found published
    obtain ⟨member, rfl, rfl⟩ := findById_eq_some.mp found
    obtain ⟨later, present, same, still⟩ := stays event member published
    obtain ⟨old, oldMember, rfl⟩ := mem_updateOf.mp present
    have own : old = event := by
      apply eq_of_key oldMember member
      split at same <;> exact same
    subst own
    simp only [and_self, if_pos, fail] at still
    split at still <;> cases still
  · intro unpublished event member published
    refine ⟨event, mem_updateOf.mpr ⟨event, member, if_neg ?_⟩, rfl, published⟩
    rintro ⟨tenant, named⟩
    exact unpublished event (findById_eq_some.mpr ⟨member, named, tenant⟩) published

theorem mem_markPublished :
    later ∈ (events.markPublished tenantId outboxEventId now).rows ↔
      ∃ event ∈ events.rows,
        (if event.tenantId = tenantId ∧ event.id = outboxEventId then publish now event else event) = later := by
  unfold markPublished
  exact mem_updateOf

theorem markPublished_advances (tenantId outboxEventId : String) (now : Int) :
    Advances events (events.markPublished tenantId outboxEventId now) := by
  unfold markPublished updateOf
  apply advances_modify
  · intro event
    split <;> rfl
  · intro event _ published
    split
    · rfl
    · exact published
  · intro event discarded
    split at discarded
    · cases discarded
    · exact discarded

end Changes

end OutboxEvents

namespace EventConsumerRuns

variable {runs : EventConsumerRuns}

def acquireRun (runs : EventConsumerRuns) (event : OutboxEvent) (consumerName : String) : EventConsumerRun :=
  (runs.find (event.id, consumerName)).getD
    { tenantId := event.tenantId, outboxEventId := event.id, eventKey := event.eventKey, consumerName
      status := .processing, attemptCount := 0, lastError := none, processedAt := none }

def markAttempt (run : EventConsumerRun) : EventConsumerRun :=
  { run with status := .processing, attemptCount := run.attemptCount + 1, lastError := none }

def markCompleted (run : EventConsumerRun) (now : Int) : EventConsumerRun :=
  { run with status := .completed, processedAt := some now, lastError := none }

def Completed (runs : EventConsumerRuns) (key : String × String) : Prop :=
  ∃ run ∈ runs.rows, run.key = key ∧ run.status = .completed

theorem completed_iff_find {key : String × String} :
    Completed runs key ↔ ∃ run, runs.find key = some run ∧ run.status = .completed := by
  simp only [Completed, find_eq_some, and_assoc]

theorem completed_put {run : EventConsumerRun} (done : run.status = .completed)
    {key : String × String} : Completed (runs.put run) key ↔ key = run.key ∨ Completed runs key := by
  rw [completed_iff_find, completed_iff_find, find_put]
  by_cases same : key = run.key
  · simp [same, done]
  · simp [same]

theorem acquireRun_key (runs : EventConsumerRuns) (event : OutboxEvent) (consumerName : String) :
    (runs.acquireRun event consumerName).key = (event.id, consumerName) := by
  unfold acquireRun
  cases found : runs.find (event.id, consumerName) with
  | none => rfl
  | some run => exact ((find_eq_some runs).mp found).2

theorem acquireRun_completed {event : OutboxEvent} {consumerName : String} :
    (runs.acquireRun event consumerName).status = .completed ↔ Completed runs (event.id, consumerName) := by
  rw [completed_iff_find, acquireRun]
  cases runs.find (event.id, consumerName) with
  | none => simp
  | some run => simp

end EventConsumerRuns

end ShuleHub.Events
