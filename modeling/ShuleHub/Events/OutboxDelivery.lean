import ShuleHub.Events.OutboxEvents
import ShuleHub.Lib.Processes
import ShuleHub.Lib.Runs

/-! The dispatcher rounds and the worker executions over the outbox, in every order, and what holds of the events
in every run. -/

namespace ShuleHub.Events

open Processes Runs KeyedTable OutboxEvents

structure DispatchOutboxEventJobPayload where
  outboxEventId : String
  tenantId : String
  requestId : String
  traceId : String
  parentSpanId : Option String
  userId : String
  role : String
  sessionId : Option String

def ClaimedOutboxEvent.job (event : ClaimedOutboxEvent) : DispatchOutboxEventJobPayload :=
  ⟨event.id, event.tenantId, event.requestId, event.traceId, event.spanId, event.userId, event.role, event.sessionId⟩

/-- Where an execution of `consume` is: before the row lock; in the transaction, with the consumers that are left,
the runs that it has written and the consumers that have handled the event; rolled back and about to mark the event
failed; at its end. -/
inductive ExecutionPhase where
  | starting
  | handling (event : OutboxEvent) (consumers : List String) (written : List EventConsumerRun) (handled : List String)
  | failing (message : String)
  | finished (error : Option String)
deriving DecidableEq

structure Execution where
  payload : DispatchOutboxEventJobPayload
  phase : ExecutionPhase

/-- Where a round of the dispatcher is: its claim is committed; `addBulk` has returned; `addBulk` has thrown and the
events that are left are to be marked failed; at its end. -/
inductive RoundPhase where
  | claimed
  | enqueued
  | failing (events : List ClaimedOutboxEvent) (message : String)
  | failed
deriving DecidableEq

/-- A round, with the number of executions that had begun when it claimed its events. -/
structure DispatchRound where
  events : List ClaimedOutboxEvent
  phase : RoundPhase
  since : Nat

/-- The tables, the rounds and the executions, and the committed effects of consumers, one entry each. -/
structure OutboxWorld where
  events : OutboxEvents
  runs : EventConsumerRuns
  rounds : List DispatchRound
  executions : List Execution
  effects : List (String × String)

inductive OutboxStep where
  | publish (id : String) (now : Int) (input : PublishDomainEventInput)
  | dispatch (batchSize : Nat) (now : Int)
  | enqueued (round : Nat)
  | enqueueFailed (round : Nat) (added : List String) (message : String)
  | markFailed (round : Nat) (now : Int)
  | abandon (round : Nat)
  | deliver (payload : DispatchOutboxEventJobPayload)
  | work (place : Nat) (now : Int) (outcome : Except String Unit)

namespace OutboxWorld

variable (registry : String → List String) (world : OutboxWorld) (config : EventsConfig) (place : Nat)

def empty : OutboxWorld := ⟨KeyedTable.empty, KeyedTable.empty, [], [], []⟩

def Holds (id : String) (execution : Execution) : Prop :=
  match execution.phase with
  | .handling event _ _ _ => event.id = id
  | _ => False

instance (id : String) : DecidablePred (Holds id) := fun execution => by
  unfold Holds
  split <;> infer_instance

def locked (id : String) : Bool := world.executions.any fun execution => Holds id execution

def view (runs : EventConsumerRuns) (written : List EventConsumerRun) : EventConsumerRuns :=
  written.foldl KeyedTable.put runs

def setRound (round : DispatchRound) (phase : RoundPhase) : OutboxWorld :=
  { world with rounds := world.rounds.set place { round with phase } }

def setPhase (execution : Execution) (phase : ExecutionPhase) : OutboxWorld :=
  { world with executions := world.executions.set place { execution with phase } }

def dispatch (world : OutboxWorld) (batchSize : Nat) (now : Int) : OutboxWorld :=
  match world.events.lockPendingBatch world.locked config.staleProcessingAfterMs batchSize now with
  | none => world
  | some (events, claimed) =>
    { world with events, rounds := world.rounds ++ [⟨claimed, .claimed, world.executions.length⟩] }

def markNextFailed (world : OutboxWorld) (place : Nat) (now : Int) (round : DispatchRound) :
    OutboxWorld :=
  match round.phase with
  | .failing (event :: rest) message =>
    if world.locked event.id then world
    else
      setRound { world with events := world.events.markFailed config event.tenantId event.id message now }
        place round (.failing rest message)
  | .failing [] _ => setRound world place round .failed
  | _ => world

def onRound (action : DispatchRound → OutboxWorld) : OutboxWorld :=
  match world.rounds[place]? with
  | some round => action round
  | none => world

def afterBulk (phase : DispatchRound → RoundPhase) : OutboxWorld :=
  onRound world place fun round => if round.phase = .claimed then setRound world place round (phase round) else world

def notFoundMessage (outboxEventId : String) : String := "Outbox event \"" ++ outboxEventId ++ "\" was not found"

/-- The transaction of `consume` takes the row lock, unless another one has it, and reads the event. -/
def start (execution : Execution) :
    OutboxWorld :=
  if world.locked execution.payload.outboxEventId then world
  else
    match world.events.findById execution.payload.tenantId execution.payload.outboxEventId with
    | none => setPhase world place execution (.failing (notFoundMessage execution.payload.outboxEventId))
    | some event =>
      if event.status = .published then setPhase world place execution (.finished none)
      else setPhase world place execution (.handling event (registry event.eventName) [] [])

def handle (now : Int) (execution : Execution) (event : OutboxEvent)
    (consumer : String) (rest : List String) (written : List EventConsumerRun) (handled : List String) :
    OutboxWorld :=
  let run := (view world.runs written).acquireRun event consumer
  if run.status = .completed then setPhase world place execution (.handling event rest written handled)
  else
    let completed := EventConsumerRuns.markCompleted (EventConsumerRuns.markAttempt run) now
    setPhase world place execution (.handling event rest (written ++ [completed]) (handled ++ [consumer]))

def commit (now : Int) (execution : Execution) (event : OutboxEvent)
    (written : List EventConsumerRun) (handled : List String) : OutboxWorld :=
  setPhase
    { world with
      events := world.events.markPublished event.tenantId event.id now
      runs := view world.runs written
      effects := world.effects ++ handled.map fun consumer => (event.id, consumer) }
    place execution (.finished none)

def failEvent (world : OutboxWorld) (place : Nat) (now : Int) (execution : Execution)
    (message : String) : OutboxWorld :=
  let payload := execution.payload
  if world.locked payload.outboxEventId then world
  else
    setPhase
      { world with
        events := world.events.markFailed config payload.tenantId payload.outboxEventId message now }
      place execution (.finished (some message))

def work (world : OutboxWorld) (place : Nat) (now : Int)
    (outcome : Except String Unit) (execution : Execution) : OutboxWorld :=
  match execution.phase, outcome with
  | .starting, .ok _ => start registry world place execution
  | .starting, .error message => setPhase world place execution (.failing message)
  | .handling event (consumer :: rest) written handled, .ok _ =>
    handle world place now execution event consumer rest written handled
  | .handling event [] written handled, .ok _ => commit world place now execution event written handled
  | .handling _ _ _ _, .error message => setPhase world place execution (.failing message)
  | .failing message, .ok _ => failEvent config world place now execution message
  | .failing _, .error message => setPhase world place execution (.finished (some message))
  | .finished _, _ => world

def onExecution (action : Execution → OutboxWorld) : OutboxWorld :=
  match world.executions[place]? with
  | some execution => action execution
  | none => world

@[grind =] def step (world : OutboxWorld) : OutboxStep → OutboxWorld
  | .publish id now input =>
    match world.events.createEvent id now input with
    | some events => { world with events }
    | none => world
  | .dispatch batchSize now => dispatch config world batchSize now
  | .enqueued place => afterBulk world place fun _ => .enqueued
  | .enqueueFailed place _ message => afterBulk world place fun round => .failing round.events message
  | .markFailed place now => onRound world place (markNextFailed config world place now)
  | .abandon place => onRound world place fun round => setRound world place round .failed
  | .deliver payload => { world with executions := world.executions ++ [⟨payload, .starting⟩] }
  | .work place now outcome => onExecution world place (work registry config world place now outcome)

/-- Every effect is there once, and an event is published only with a completed run of every consumer. -/
structure Sound : Prop where
  once : world.effects.Nodup
  completed : ∀ event ∈ world.events.rows, event.status = .published → ∀ consumer ∈ registry event.eventName,
    ∃ run ∈ world.runs.rows, run.key = (event.id, consumer) ∧ run.status = .completed

def PublishedStays (world : OutboxWorld)
    (event : OutboxStep) : Prop :=
  world.events.Stays (step registry config world event).events

@[grind =] def marks : OutboxStep → Option (String × String)
  | .markFailed place _ =>
    match world.rounds[place]? with
    | some ⟨_, .failing (event :: _) _, _⟩ => some (event.tenantId, event.id)
    | _ => none
  | .work place _ (.ok _) =>
    match world.executions[place]? with
    | some ⟨payload, .failing _⟩ => some (payload.tenantId, payload.outboxEventId)
    | _ => none
  | _ => none

/-- The condition on one step: an event that it marks failed is not published. -/
def MarksUnpublished (event : OutboxStep) : Prop :=
  ∀ tenantId id stored, marks world event = some (tenantId, id) → world.events.findById tenantId id = some stored →
    stored.status ≠ .published

def Unpublished (events : OutboxEvents) (event : OutboxEvent) : Prop :=
  ∃ stored ∈ events.rows, stored.id = event.id ∧ stored.tenantId = event.tenantId ∧
    stored.eventName = event.eventName ∧ stored.status ≠ .published

structure Handling (events : OutboxEvents) (runs : EventConsumerRuns)
    (event : OutboxEvent) (consumers : List String) (written : List EventConsumerRun) (handled : List String) :
    Prop where
  unpublished : Unpublished events event
  completed : ∀ run ∈ written, run.status = .completed
  keys : written.map EventConsumerRun.key = handled.map fun consumer => (event.id, consumer)
  distinct : handled.Nodup
  fresh : ∀ consumer ∈ handled, ¬ runs.Completed (event.id, consumer)
  settled : ∀ consumer ∈ registry event.eventName,
    consumer ∈ consumers ∨ consumer ∈ handled ∨ runs.Completed (event.id, consumer)

structure Inv : Prop where
  single : ∀ id, AtMostOne (Holds id) world.executions
  handling : ∀ (place : Nat) (execution : Execution) (event : OutboxEvent) (consumers : List String)
    (written : List EventConsumerRun) (handled : List String), world.executions[place]? = some execution →
    execution.phase = .handling event consumers written handled →
      Handling registry world.events world.runs event consumers written handled ∧
        event.id = execution.payload.outboxEventId ∧ event.tenantId = execution.payload.tenantId
  once : world.effects.Nodup
  effects : ∀ key ∈ world.effects, world.runs.Completed key
  completed : ∀ event ∈ world.events.rows, event.status = .published → ∀ consumer ∈ registry event.eventName,
    world.runs.Completed (event.id, consumer)

theorem Inv.sound {registry : String → List String} {world : OutboxWorld} (inv : Inv registry world) :
    Sound registry world := ⟨inv.once, inv.completed⟩

theorem empty_inv (registry : String → List String) : Inv registry empty := by
  constructor
  · intro id
    exact AtMostOne.nil
  · intro place execution event consumers written handled found
    simp [empty] at found
  · exact List.nodup_nil
  · intro key member
    exact absurd member List.not_mem_nil
  · intro event member
    exact absurd member List.not_mem_nil

section View

variable {runs : EventConsumerRuns} {written : List EventConsumerRun} {key : String × String}

theorem completed_view (completed : ∀ run ∈ written, run.status = .completed) :
    (view runs written).Completed key ↔ key ∈ written.map EventConsumerRun.key ∨ runs.Completed key := by
  induction written generalizing runs with
  | nil => simp [view]
  | cons run rest ih =>
    obtain ⟨own, others⟩ := List.forall_mem_cons.mp completed
    have later := @ih (runs.put run) others
    rw [EventConsumerRuns.completed_put own] at later
    rw [List.map_cons, List.mem_cons, or_assoc, or_left_comm]
    exact later

end View

theorem unpublished_of_evolves {before after : OutboxEvents} {event : OutboxEvent}
    (evolves : before.Evolves after) (unpublished : Unpublished before event) : Unpublished after event := by
  obtain ⟨stored, member, id, tenant, name, status⟩ := unpublished
  obtain ⟨later, present, sameId, sameTenant, sameName⟩ := evolves.kept stored member
  refine ⟨later, present, sameId.trans id, sameTenant.trans tenant, sameName.trans name, ?_⟩
  intro published
  obtain ⟨old, oldMember, same, -, held⟩ := evolves.published later present published
  cases eq_of_key oldMember member (same.trans sameId)
  exact status held

section Steps

variable {registry : String → List String} {world : OutboxWorld} {place : Nat} {execution : Execution}
  {id : String} {events : OutboxEvents} {event : OutboxEvent} {consumers handled : List String}
  {written : List EventConsumerRun} {runs : EventConsumerRuns}

theorem locked_iff :
    world.locked id = true ↔ ∃ (place : Nat) (execution : Execution), world.executions[place]? = some execution ∧
      Holds id execution := by
  simp only [locked, List.any_eq_true, decide_eq_true_eq, List.mem_iff_getElem?]
  constructor
  · rintro ⟨execution, ⟨place, found⟩, holds⟩
    exact ⟨place, execution, found, holds⟩
  · rintro ⟨place, execution, found, holds⟩
    exact ⟨execution, ⟨place, found⟩, holds⟩

theorem Inv.evolve (inv : Inv registry world) (evolves : world.events.Evolves events) :
    Inv registry { world with events } := by
  refine ⟨inv.single, ?_, inv.once, inv.effects, ?_⟩
  · intro place execution event consumers written handled found phase
    obtain ⟨handling, own⟩ := inv.handling place execution event consumers written handled found phase
    exact ⟨{ handling with unpublished := unpublished_of_evolves evolves handling.unpublished }, own⟩
  · intro later member published
    obtain ⟨event, present, same, name, held⟩ := evolves.published later member published
    rw [← same, ← name]
    exact inv.completed event present held

theorem Inv.rounds (inv : Inv registry world) (rounds : List DispatchRound) : Inv registry { world with rounds } :=
  ⟨inv.single, inv.handling, inv.once, inv.effects, inv.completed⟩

theorem Inv.unlock (inv : Inv registry world) {executions : List Execution}
    (earlier : ∀ (place : Nat) (execution : Execution) (id : String), executions[place]? = some execution →
      Holds id execution → world.executions[place]? = some execution) :
    Inv registry { world with executions } := by
  refine ⟨?_, ?_, inv.once, inv.effects, inv.completed⟩
  · intro id
    apply (inv.single id).of_before
    intro place execution found holds
    exact ⟨execution, earlier place execution id found holds, holds⟩
  · intro place execution event consumers written handled found phase
    have holds : Holds event.id execution := by simp only [Holds, phase]
    exact inv.handling place execution event consumers written handled (earlier place execution _ found holds) phase

theorem Inv.deliver (inv : Inv registry world) (payload : DispatchOutboxEventJobPayload) :
    Inv registry { world with executions := world.executions ++ [⟨payload, .starting⟩] } := by
  apply inv.unlock
  intro place execution id found holds
  rcases appended found with old | ⟨-, rfl⟩
  · exact old
  · exact holds.elim

theorem Inv.release (inv : Inv registry world) (execution : Execution) {phase : ExecutionPhase}
    (free : ∀ id, ¬ Holds id { execution with phase }) : Inv registry (setPhase world place execution phase) := by
  apply inv.unlock
  intro other process id found holds
  rcases replaced found with ⟨-, rfl⟩ | ⟨-, old⟩
  · exact absurd holds (free id)
  · exact old

theorem Inv.hold (inv : Inv registry world) (found : world.executions[place]? = some execution)
    (lock : Holds event.id execution ∨ world.locked event.id = false)
    (own : event.id = execution.payload.outboxEventId ∧ event.tenantId = execution.payload.tenantId)
    (handling : Handling registry world.events world.runs event consumers written handled) :
    Inv registry (setPhase world place execution (.handling event consumers written handled)) := by
  refine ⟨?_, ?_, inv.once, inv.effects, inv.completed⟩
  · intro id
    by_cases same : event.id = id
    · subst same
      apply AtMostOne.of_place
      intro other process processFound holds
      rcases replaced processFound with ⟨rfl, -⟩ | ⟨-, old⟩
      · rfl
      · rcases lock with lock | lock
        · exact inv.single event.id other place process execution old found holds lock
        · have taken := locked_iff.mpr ⟨other, process, old, holds⟩
          rw [lock] at taken
          cases taken
    · apply (inv.single id).of_before
      intro other process processFound holds
      rcases replaced processFound with ⟨-, rfl⟩ | ⟨-, old⟩
      · exact absurd holds same
      · exact ⟨process, old, holds⟩
  · intro other process otherEvent otherConsumers otherWritten otherHandled processFound phase
    rcases replaced processFound with ⟨-, rfl⟩ | ⟨-, old⟩
    · cases phase
      exact ⟨handling, own⟩
    · exact inv.handling other process otherEvent otherConsumers otherWritten otherHandled old phase

theorem Handling.completed_iff
    (handling : Handling registry events runs event consumers written handled) (consumer : String) :
    (view runs written).Completed (event.id, consumer) ↔
      consumer ∈ handled ∨ runs.Completed (event.id, consumer) := by
  rw [completed_view handling.completed, handling.keys]
  simp

theorem Handling.completed_other
    (handling : Handling registry events runs event consumers written handled) (differs : id ≠ event.id)
    (consumer : String) : (view runs written).Completed (id, consumer) ↔ runs.Completed (id, consumer) := by
  rw [completed_view handling.completed, handling.keys, or_iff_right]
  intro member
  obtain ⟨other, -, same⟩ := List.mem_map.mp member
  exact differs (congrArg Prod.fst same).symm

theorem start_inv (inv : Inv registry world) (found : world.executions[place]? = some execution) :
    Inv registry (start registry world place execution) := by
  unfold start
  split
  · exact inv
  · next free =>
    split
    · exact inv.release execution fun _ => id
    · next event read =>
      obtain ⟨member, sameId, tenant⟩ := findById_eq_some.mp read
      split
      · exact inv.release execution fun _ => id
      · next unpublished =>
        refine inv.hold found (.inr ?_) ⟨sameId, tenant⟩ ?_
        · rw [sameId]
          exact Bool.eq_false_iff.mpr free
        · constructor
          · exact ⟨event, member, rfl, rfl, rfl, unpublished⟩
          · exact fun _ member => absurd member List.not_mem_nil
          · rfl
          · exact List.nodup_nil
          · exact fun _ member => absurd member List.not_mem_nil
          · exact fun _ registered => .inl registered

theorem handle_inv (inv : Inv registry world) (found : world.executions[place]? = some execution) (now : Int) {consumer : String} {rest : List String} (phase : execution.phase = .handling event (consumer :: rest) written handled) :
    Inv registry (handle world place now execution event consumer rest written handled) := by
  obtain ⟨handling, own⟩ := inv.handling place execution event _ written handled found phase
  have lock : Holds event.id execution := by simp only [Holds, phase]
  have known : ((view world.runs written).acquireRun event consumer).status = .completed ↔
      consumer ∈ handled ∨ world.runs.Completed (event.id, consumer) :=
    EventConsumerRuns.acquireRun_completed.trans (handling.completed_iff consumer)
  simp only [handle]
  split
  · next done =>
    apply inv.hold found (.inl lock) own
    refine { handling with settled := ?_ }
    intro other registered
    rcases handling.settled other registered with left | settled
    · rcases List.mem_cons.mp left with rfl | later
      · exact .inr (known.mp done)
      · exact .inl later
    · exact .inr settled
  · next undone =>
    obtain ⟨unhandled, incomplete⟩ := not_or.mp (mt known.mpr undone)
    apply inv.hold found (.inl lock) own
    constructor
    · exact handling.unpublished
    · intro run member
      rcases List.mem_append.mp member with old | new
      · exact handling.completed run old
      · rw [List.mem_singleton.mp new]
        rfl
    · have last := (view world.runs written).acquireRun_key event consumer
      rw [List.map_append, List.map_append, handling.keys]
      exact congrArg _ (congrArg (fun key => [key]) last)
    · exact List.nodup_append.mpr
        ⟨handling.distinct, List.nodup_singleton _, fun old member new last same =>
          unhandled (List.mem_singleton.mp last ▸ same ▸ member)⟩
    · intro other member
      rcases List.mem_append.mp member with old | new
      · exact handling.fresh other old
      · rw [List.mem_singleton.mp new]
        exact incomplete
    · intro other registered
      rcases handling.settled other registered with left | old | done
      · rcases List.mem_cons.mp left with rfl | later
        · exact .inr (.inl (List.mem_append.mpr (.inr (List.mem_singleton.mpr rfl))))
        · exact .inl later
      · exact .inr (.inl (List.mem_append.mpr (.inl old)))
      · exact .inr (.inr done)

theorem commit_inv (inv : Inv registry world) (found : world.executions[place]? = some execution) (now : Int)
    (phase : execution.phase = .handling event [] written handled) :
    Inv registry (commit world place now execution event written handled) := by
  obtain ⟨handling, own⟩ := inv.handling place execution event [] written handled found phase
  have lock : Holds event.id execution := by simp only [Holds, phase]
  have kept : ∀ key, world.runs.Completed key → (view world.runs written).Completed key :=
    fun key done => (completed_view handling.completed).mpr (.inr done)
  have released : Inv registry (setPhase world place execution (.finished none)) := inv.release execution fun _ => id
  refine ⟨released.single, ?_, ?_, ?_, ?_⟩
  · intro other process otherEvent consumers otherWritten otherHandled processFound otherPhase
    obtain ⟨otherHandling, otherOwn⟩ :=
      released.handling other process otherEvent consumers otherWritten otherHandled processFound otherPhase
    have differs : otherEvent.id ≠ event.id := by
      intro same
      have holds : Holds event.id process := by simp only [Holds, otherPhase, same]
      rcases replaced processFound with ⟨-, rfl⟩ | ⟨elsewhere, old⟩
      · exact holds
      · exact elsewhere (inv.single event.id other place process execution old found holds lock).symm
    refine ⟨{ otherHandling with unpublished := ?_, fresh := ?_, settled := ?_ }, otherOwn⟩
    · obtain ⟨stored, member, sameId, same⟩ := otherHandling.unpublished
      refine ⟨stored, mem_markPublished.mpr ⟨stored, member, if_neg ?_⟩, sameId, same⟩
      rintro ⟨-, id⟩
      exact differs (sameId.symm.trans id)
    · intro consumer member
      exact mt (handling.completed_other differs consumer).mp (otherHandling.fresh consumer member)
    · intro consumer registered
      have same := handling.completed_other differs consumer
      exact (otherHandling.settled consumer registered).imp_right (Or.imp_right same.mpr)
  · apply List.nodup_append.mpr
    refine ⟨inv.once, handling.distinct.map fun _ _ same => congrArg Prod.snd same, ?_⟩
    rintro key old other new rfl
    obtain ⟨consumer, member, rfl⟩ := List.mem_map.mp new
    exact handling.fresh consumer member (inv.effects _ old)
  · intro key member
    rcases List.mem_append.mp member with old | new
    · exact kept key (inv.effects key old)
    · rw [← handling.keys] at new
      exact (completed_view handling.completed).mpr (.inl new)
  · intro later member published consumer registered
    obtain ⟨stored, present, rfl⟩ := mem_markPublished.mp member
    by_cases named : stored.tenantId = event.tenantId ∧ stored.id = event.id
    · rw [if_pos named] at registered ⊢
      obtain ⟨read, readMember, readId, -, readName, -⟩ := handling.unpublished
      have same : stored = read := eq_of_key present readMember (named.2.trans readId.symm)
      have name : stored.eventName = event.eventName := same ▸ readName
      have wanted : consumer ∈ registry event.eventName := name ▸ registered
      have done := (handling.completed_iff consumer).mpr ((handling.settled consumer wanted).resolve_left (by simp))
      rw [← named.2] at done
      exact done
    · rw [if_neg named] at published registered ⊢
      exact kept _ (inv.completed stored present published consumer registered)

theorem failEvent_inv (inv : Inv registry world) (config : EventsConfig) (now : Int) (message : String) :
    Inv registry (failEvent config world place now execution message) := by
  simp only [failEvent]
  split
  · exact inv
  · exact (inv.evolve (markFailed_evolves config _ _ message now)).release execution fun _ => id

theorem work_inv (inv : Inv registry world) (config : EventsConfig)
    (found : world.executions[place]? = some execution) (now : Int) (outcome : Except String Unit) :
    Inv registry (work registry config world place now outcome execution) := by
  unfold work
  split
  · exact start_inv inv found
  · exact inv.release execution fun _ => id
  · next phase => exact handle_inv inv found now phase
  · next phase => exact commit_inv inv found now phase
  · exact inv.release execution fun _ => id
  · exact failEvent_inv inv config now _
  · exact inv.release execution fun _ => id
  · exact inv

theorem onRound_inv (inv : Inv registry world) (place : Nat) {action : DispatchRound → OutboxWorld}
    (each : ∀ round, Inv registry (action round)) : Inv registry (onRound world place action) := by
  unfold onRound
  split
  · next round _ => exact each round
  · exact inv

theorem markNextFailed_inv (inv : Inv registry world) (config : EventsConfig) (place : Nat) (now : Int)
    (round : DispatchRound) : Inv registry (markNextFailed config world place now round) := by
  unfold markNextFailed
  split
  · split
    · exact inv
    · exact (inv.evolve (markFailed_evolves config _ _ _ now)).rounds _
  · exact inv.rounds _
  · exact inv

theorem dispatch_inv (inv : Inv registry world) (config : EventsConfig) (batchSize : Nat) (now : Int) :
    Inv registry (dispatch config world batchSize now) := by
  unfold dispatch
  split
  · exact inv
  · next claims => exact (inv.evolve (lockPendingBatch_cases claims).1).rounds _

theorem afterBulk_inv (inv : Inv registry world) (place : Nat) (phase : DispatchRound → RoundPhase) :
    Inv registry (afterBulk world place phase) := by
  apply onRound_inv inv
  intro round
  split
  · exact inv.rounds _
  · exact inv

theorem step_inv (inv : Inv registry world) (config : EventsConfig) (event : OutboxStep) :
    Inv registry (step registry config world event) := by
  cases event with
  | publish id now input =>
    simp only [step]
    split
    · next created => exact inv.evolve (createEvent_cases created).1
    · exact inv
  | dispatch batchSize now => exact dispatch_inv inv config batchSize now
  | enqueued place => exact afterBulk_inv inv place _
  | enqueueFailed place added message => exact afterBulk_inv inv place _
  | markFailed place now => exact onRound_inv inv place fun round => markNextFailed_inv inv config place now round
  | abandon place => exact onRound_inv inv place fun round => inv.rounds _
  | deliver payload => exact inv.deliver payload
  | work place now outcome =>
    simp only [step, onExecution]
    split
    · next found => exact work_inv inv config found now outcome
    · exact inv

theorem locked_unpublished (inv : Inv registry world) {tenantId : String} (locked : world.locked id = true)
    {stored : OutboxEvent} (found : world.events.findById tenantId id = some stored) :
    stored.status ≠ .published := by
  obtain ⟨place, ⟨payload, phase⟩, executionFound, holds⟩ := locked_iff.mp locked
  obtain ⟨member, sameId, -⟩ := findById_eq_some.mp found
  cases phase with
  | handling event consumers written handled =>
    obtain ⟨⟨⟨read, readMember, readId, -, -, unpublished⟩, -, -, -, -, -⟩, -⟩ :=
      inv.handling place _ event consumers written handled executionFound rfl
    have own : event.id = id := holds
    cases eq_of_key member readMember (sameId.trans (readId.trans own).symm)
    exact unpublished
  | starting => exact holds.elim
  | failing message => exact holds.elim
  | finished error => exact holds.elim

/-- A step that marks an event failed changes the events in this way only, or waits for the row lock; any other
advances them. -/
def Marks (config : EventsConfig) (world : OutboxWorld) (event : OutboxStep) (after : OutboxEvents) : Prop :=
  marks world event = none ∧ world.events.Advances after ∨
    ∃ tenantId id, marks world event = some (tenantId, id) ∧
      (world.locked id = true ∧ after = world.events ∨
        ∃ message now, after = world.events.markFailed config tenantId id message now)

theorem work_marks (config : EventsConfig) (found : world.executions[place]? = some execution) (now : Int)
    (outcome : Except String Unit) :
    Marks config world (.work place now outcome) (work registry config world place now outcome execution).events := by
  obtain ⟨payload, phase⟩ := execution
  cases phase with
  | starting =>
    refine .inl ⟨by cases outcome <;> simp [marks, found], ?_⟩
    cases outcome with
    | error message => exact .refl _
    | ok _ =>
      simp only [work, start]
      split
      · exact .refl _
      · split
        · exact .refl _
        · split <;> exact .refl _
  | handling event consumers written handled =>
    refine .inl ⟨by cases outcome <;> simp [marks, found], ?_⟩
    cases outcome with
    | error message => cases consumers <;> exact .refl _
    | ok _ =>
      cases consumers with
      | nil => exact markPublished_advances _ _ now
      | cons consumer rest =>
        simp only [work, handle]
        split <;> exact .refl _
  | failing message =>
    cases outcome with
    | error other => exact .inl ⟨by simp [marks], .refl _⟩
    | ok _ =>
      refine .inr ⟨payload.tenantId, payload.outboxEventId, by simp [marks, found], ?_⟩
      simp only [work, failEvent]
      split
      · next locked => exact .inl ⟨locked, rfl⟩
      · exact .inr ⟨message, now, rfl⟩
  | finished error => exact .inl ⟨by cases outcome <;> simp [marks, found], .refl _⟩

theorem markNextFailed_marks (config : EventsConfig) {round : DispatchRound}
    (found : world.rounds[place]? = some round) (now : Int) :
    Marks config world (.markFailed place now) (markNextFailed config world place now round).events := by
  obtain ⟨events, phase, since⟩ := round
  cases phase with
  | failing left message =>
    cases left with
    | nil => exact .inl ⟨by simp [marks, found], .refl _⟩
    | cons event rest =>
      refine .inr ⟨event.tenantId, event.id, by simp [marks, found], ?_⟩
      simp only [markNextFailed]
      split
      · next locked => exact .inl ⟨locked, rfl⟩
      · exact .inr ⟨message, now, rfl⟩
  | claimed => exact .inl ⟨by simp [marks, found], .refl _⟩
  | enqueued => exact .inl ⟨by simp [marks, found], .refl _⟩
  | failed => exact .inl ⟨by simp [marks, found], .refl _⟩

theorem afterBulk_events (world : OutboxWorld) (place : Nat) (phase : DispatchRound → RoundPhase) :
    (afterBulk world place phase).events = world.events := by
  simp only [afterBulk, onRound]
  split
  · split <;> rfl
  · rfl

theorem step_marks (registry : String → List String) (config : EventsConfig) (world : OutboxWorld)
    (event : OutboxStep) : Marks config world event (step registry config world event).events := by
  cases event with
  | publish id now input =>
    refine .inl ⟨rfl, ?_⟩
    simp only [step]
    split
    · next created => exact (createEvent_cases created).2
    · exact .refl _
  | dispatch batchSize now =>
    refine .inl ⟨rfl, ?_⟩
    simp only [step, dispatch]
    split
    · exact .refl _
    · next claims => exact (lockPendingBatch_cases claims).2
  | enqueued place =>
    refine .inl ⟨rfl, ?_⟩
    rw [step, afterBulk_events]
    exact .refl _
  | enqueueFailed place added message =>
    refine .inl ⟨rfl, ?_⟩
    rw [step, afterBulk_events]
    exact .refl _
  | markFailed place now =>
    simp only [step, onRound]
    split
    · next round found => exact markNextFailed_marks config found now
    · next absent => exact .inl ⟨by simp [marks, absent], .refl _⟩
  | abandon place =>
    refine .inl ⟨rfl, ?_⟩
    simp only [step, onRound]
    split <;> exact .refl _
  | deliver payload => exact .inl ⟨rfl, .refl _⟩
  | work place now outcome =>
    simp only [step, onExecution]
    split
    · next found => exact work_marks config found now outcome
    · next absent => exact .inl ⟨by cases outcome <;> simp [marks, absent], .refl _⟩

theorem publishedStays_iff (inv : Inv registry world) (config : EventsConfig) (event : OutboxStep) :
    PublishedStays registry config world event ↔ MarksUnpublished world event := by
  unfold PublishedStays MarksUnpublished
  rcases step_marks registry config world event with
    ⟨none, advances⟩ | ⟨tenantId, id, some, ⟨locked, same⟩ | ⟨message, now, same⟩⟩
  · simp [none, advances.stays]
  · rw [same]
    refine ⟨?_, fun _ => .refl _⟩
    intro _ otherTenant other stored marked found
    cases some.symm.trans marked
    exact locked_unpublished inv locked found
  · rw [same, markFailed_stays]
    constructor
    · intro unpublished otherTenant other stored marked found
      cases some.symm.trans marked
      exact unpublished stored found
    · intro unpublished stored found
      exact unpublished tenantId id stored some found

end Steps

/-- In every run each consumer takes effect at most once for an event, and what is published has completed runs of
all consumers; and what is published stays so exactly if no step marks a published event failed. -/
theorem delivery_is_sound_and_published_stays_iff (registry : String → List String) (config : EventsConfig)
    (steps : List OutboxStep) :
    (Along (step registry config) (Sound registry) empty steps ∧
        Meets (step registry config) (PublishedStays registry config) empty steps) ↔
      Meets (step registry config) MarksUnpublished empty steps := by
  have initial := empty_inv registry
  have sound : Along (step registry config) (Sound registry) empty steps :=
    along_of_preserves (fun _ event inv => step_inv inv config event) (fun _ inv => inv.sound) steps initial
  rw [and_iff_right sound]
  exact meets_iff_meets (fun _ event inv => publishedStays_iff inv config event)
    (fun _ event inv _ => step_inv inv config event) steps initial

instance (registry : String → List String) (config : EventsConfig) (world : OutboxWorld) (event : OutboxStep) :
    Decidable (PublishedStays registry config world event) :=
  inferInstanceAs (Decidable (OutboxEvents.Stays _ _))

def studentRegistry (eventName : String) : List String :=
  if eventName = "student.created" then ["student-created.audit"] else []

def defaultConfig : EventsConfig := ⟨30000, 5000, 25⟩

def studentCreated : PublishDomainEventInput :=
  ⟨"school", "student.created:1", "student.created", "student", "1", .null, [], none⟩

def studentJob : DispatchOutboxEventJobPayload :=
  ⟨"event", "school", "outbox:event", "outbox:event", none, "anonymous", "system", none⟩

/-- `addBulk` throws after it has added the job, and the job is done before the dispatcher marks the event failed. -/
def lateFailureSteps : List OutboxStep :=
  [.publish "event" 0 studentCreated, .dispatch 100 0, .deliver studentJob, .work 0 0 (.ok ()), .work 0 0 (.ok ()),
    .work 0 0 (.ok ()), .enqueueFailed 0 ["event"] "Connection is closed.", .markFailed 0 0]

theorem published_event_is_marked_failed :
    ¬ ∀ (registry : String → List String) (config : EventsConfig) (steps : List OutboxStep),
      Along (step registry config) (Sound registry) empty steps ∧
        Meets (step registry config) (PublishedStays registry config) empty steps := by
  intro always
  exact absurd (always studentRegistry defaultConfig lateFailureSteps).2 (by decide +kernel)

end OutboxWorld

end ShuleHub.Events
