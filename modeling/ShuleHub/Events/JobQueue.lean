import ShuleHub.Events.OutboxDelivery

/-! The events queue between the dispatcher and the workers: a job has the identifier of its event and one attempt,
an identifier that is there already is not added again, and jobs that have ended are kept. -/

namespace ShuleHub.Events

open Processes Runs OutboxEvents

inductive JobState where
  | waiting
  | active
  | completed
  | failed
deriving DecidableEq

structure EventJob where
  payload : DispatchOutboxEventJobPayload
  state : JobState

abbrev EventJobs := String → Option EventJob

structure QueueWorld where
  outbox : OutboxWorld
  jobs : EventJobs

inductive QueueStep where
  | outbox (event : OutboxStep)
  | start (id : String)

namespace EventJobs

variable (jobs : EventJobs)

def add (payload : DispatchOutboxEventJobPayload) : EventJobs :=
  match jobs payload.outboxEventId with
  | none => Function.update jobs payload.outboxEventId (some ⟨payload, .waiting⟩)
  | some _ => jobs

def addBulk (payloads : List DispatchOutboxEventJobPayload) : EventJobs := payloads.foldl add jobs

def setState (id : String) (state : JobState) : EventJobs :=
  Function.update jobs id ((jobs id).map fun job => { job with state })

end EventJobs

namespace QueueWorld

variable (world : QueueWorld)

def empty : QueueWorld := ⟨OutboxWorld.empty, fun _ => none⟩

def addRound (place : Nat) (added : ClaimedOutboxEvent → Bool) : EventJobs :=
  match world.outbox.rounds[place]? with
  | some round =>
    if round.phase = .claimed then world.jobs.addBulk ((round.events.filter added).map ClaimedOutboxEvent.job)
    else world.jobs
  | none => world.jobs

def settle (after : OutboxWorld) (place : Nat) : EventJobs :=
  match after.executions[place]? with
  | some ⟨payload, .finished none⟩ => world.jobs.setState payload.outboxEventId .completed
  | some ⟨payload, .finished (some _)⟩ => world.jobs.setState payload.outboxEventId .failed
  | _ => world.jobs

@[grind =] def jobsAfter (after : OutboxWorld) : OutboxStep → EventJobs
  | .enqueued place => addRound world place fun _ => true
  | .enqueueFailed place added _ => addRound world place fun event => added.contains event.id
  | .work place _ _ => settle world after place
  | _ => world.jobs

/-- A job is delivered when a worker takes it, and in no other way. -/
def step (registry : String → List String) (config : EventsConfig) (world : QueueWorld) : QueueStep → QueueWorld
  | .outbox (.deliver _) => world
  | .outbox event =>
    let after := OutboxWorld.step registry config world.outbox event
    ⟨after, jobsAfter world after event⟩
  | .start id =>
    match world.jobs id with
    | some ⟨payload, .waiting⟩ =>
      ⟨OutboxWorld.step registry config world.outbox (.deliver payload), world.jobs.setState id .active⟩
    | _ => world

def Executed (outbox : OutboxWorld) (since : Nat) (id : String) : Prop :=
  ∃ execution ∈ outbox.executions.drop since, execution.payload.outboxEventId = id

def Waiting (id : String) : Prop := (world.jobs id).map EventJob.state = some .waiting

/-- After every claim of the event for which `addBulk` has returned, an execution of the event has begun, or its job
waits for one. -/
def Retried (id : String) (world : QueueWorld) : Prop :=
  ∀ round ∈ world.outbox.rounds, round.phase = .enqueued → ∀ event ∈ round.events, event.id = id →
    Executed world.outbox round.since id ∨ Waiting world id

instance (id : String) : DecidablePred (Retried id) := fun world => by
  unfold Retried Executed Waiting
  infer_instance

def Succeeds : QueueStep → Prop
  | .outbox (.enqueueFailed _ _ _) => False
  | .outbox (.work _ _ (.error _)) => False
  | _ => True

def Published (outbox : OutboxWorld) (id : String) : Prop :=
  ∃ stored ∈ outbox.events.rows, stored.id = id ∧ stored.status = .published

def CanPublish (registry : String → List String) (config : EventsConfig) (id : String) (world : QueueWorld) : Prop :=
  ∃ steps : List QueueStep, (∀ event ∈ steps, Succeeds event) ∧
    Published (run (step registry config) world steps).outbox id

def Publishable (registry : String → List String) (config : EventsConfig) (id : String) (world : QueueWorld) : Prop :=
  (∃ stored ∈ world.outbox.events.rows, stored.id = id) → CanPublish registry config id world

/-- The condition on one step, for an event: when `addBulk` returns for a claim of it, its job was not there, or it
waits, or an execution has begun since the claim; no execution of it fails; and the dispatcher does not mark it
failed when it is published or when that discards it. -/
def Deliverable (config : EventsConfig) (id : String) (world : QueueWorld) : QueueStep → Prop
  | .outbox (.enqueued place) =>
    ∀ round, world.outbox.rounds[place]? = some round → round.phase = .claimed → ∀ event ∈ round.events,
      event.id = id → world.jobs id = none ∨ Waiting world id ∨ Executed world.outbox round.since id
  | .outbox (.work place _ (.error _)) =>
    ∀ execution, world.outbox.executions[place]? = some execution → execution.payload.outboxEventId = id →
      ∃ error, execution.phase = .finished error
  | .outbox (.markFailed place now) =>
    ∀ tenantId stored, world.outbox.marks (.markFailed place now) = some (tenantId, id) →
      world.outbox.events.findById tenantId id = some stored →
        stored.status ≠ .published ∧ stored.attemptCount < config.maxAttempts
  | _ => True

end QueueWorld

/-! What a step over the outbox does to one event, to the rounds and to the executions. -/

namespace OutboxWorld

variable {registry : String → List String} {config : EventsConfig} {world : OutboxWorld} {id : String} {place : Nat}
  {execution : Execution}
  {after : OutboxWorld} {events : OutboxEvents} {now : Int} {event : OutboxStep} {round : DispatchRound}

/-- The event of the identifier keeps its tenant, stays published if it is, and is not discarded. -/
structure Keeps (id : String) (before after : OutboxEvents) : Prop where
  kept : ∀ stored ∈ before.rows, stored.id = id → ∃ later ∈ after.rows, later.id = id ∧
    later.tenantId = stored.tenantId ∧ (stored.status = .published → later.status = .published)
  alive : (∀ stored ∈ before.rows, stored.id = id → stored.status ≠ .discarded) →
    ∀ later ∈ after.rows, later.id = id → later.status ≠ .discarded

theorem keeps_of_advances {before after : OutboxEvents} (advances : before.Advances after) :
    Keeps id before after := by
  constructor
  · intro stored member own
    obtain ⟨later, present, same, tenant, still⟩ := advances.kept stored member
    exact ⟨later, present, same.trans own, tenant, still⟩
  · intro alive later member own discarded
    obtain ⟨stored, present, same, held⟩ := advances.discarded later member discarded
    exact alive stored present (same.trans own) held

theorem keeps_markFailed {tenantId target message : String}
    (allowed : target = id → ∀ stored, events.findById tenantId id = some stored →
      stored.status ≠ .published ∧ stored.attemptCount < config.maxAttempts) :
    Keeps id events (events.markFailed config tenantId target message now) := by
  have later : ∀ stored ∈ events.rows, stored.id = id → ∀ named : stored.tenantId = tenantId ∧ stored.id = target,
      stored.status ≠ .published ∧ stored.attemptCount < config.maxAttempts := by
    intro stored member own named
    exact allowed (named.2.symm.trans own) stored (findById_eq_some.mpr ⟨member, own, named.1⟩)
  constructor
  · intro stored member own
    refine ⟨_, mem_updateOf.mpr ⟨stored, member, rfl⟩, ?_⟩
    split
    · next named => exact ⟨own, rfl, fun published => absurd published (later stored member own named).1⟩
    · exact ⟨own, rfl, fun published => published⟩
  · intro alive other member own discarded
    obtain ⟨stored, present, rfl⟩ := mem_updateOf.mp member
    by_cases named : stored.tenantId = tenantId ∧ stored.id = target
    · rw [if_pos named] at own discarded
      have few := (later stored present own named).2
      simp only [OutboxEvents.fail, if_neg (Nat.not_le.mpr few)] at discarded
      cases discarded
    · rw [if_neg named] at own discarded
      exact alive stored present own discarded

theorem step_keeps (event : OutboxStep)
    (allowed : ∀ tenantId stored, marks world event = some (tenantId, id) →
      world.events.findById tenantId id = some stored →
        stored.status ≠ .published ∧ stored.attemptCount < config.maxAttempts) :
    Keeps id world.events (step registry config world event).events := by
  rcases step_marks registry config world event with
    ⟨-, advances⟩ | ⟨tenantId, target, some, ⟨-, same⟩ | ⟨message, now, same⟩⟩
  · exact keeps_of_advances advances
  · rw [same]
    exact keeps_of_advances (.refl _)
  · rw [same]
    apply keeps_markFailed
    rintro rfl stored found
    exact allowed tenantId stored some found

theorem work_executions (now : Int) (outcome : Except String Unit)
    (found : world.executions[place]? = some execution) :
    ∃ phase, (work registry config world place now outcome execution).executions =
      world.executions.set place { execution with phase } := by
  have same : world.executions = world.executions.set place { execution with phase := execution.phase } := by
    obtain ⟨early, rfl⟩ := List.getElem?_eq_some_iff.mp found
    exact (List.set_getElem_self early).symm
  unfold work
  split
  · unfold start
    split
    · exact ⟨_, same⟩
    · split
      · exact ⟨_, rfl⟩
      · split <;> exact ⟨_, rfl⟩
  · exact ⟨_, rfl⟩
  · simp only [handle]
    split <;> exact ⟨_, rfl⟩
  · exact ⟨_, rfl⟩
  · exact ⟨_, rfl⟩
  · simp only [failEvent]
    split
    · exact ⟨_, same⟩
    · exact ⟨_, rfl⟩
  · exact ⟨_, rfl⟩
  · exact ⟨_, same⟩

theorem work_rounds (now : Int) (outcome : Except String Unit) :
    (work registry config world place now outcome execution).rounds = world.rounds := by
  unfold work
  split
  · unfold start
    split
    · rfl
    · split
      · rfl
      · split <;> rfl
  · rfl
  · simp only [handle]
    split <;> rfl
  · rfl
  · rfl
  · simp only [failEvent]
    split <;> rfl
  · rfl
  · rfl

/-- A round after a step: it was there, and has gone on, or it is a new one with claims of the events. -/
def Continues (world : OutboxWorld) (event : OutboxStep) (after : OutboxWorld) (round : DispatchRound) : Prop :=
  (∃ (place : Nat) (before : DispatchRound), world.rounds[place]? = some before ∧ before.events = round.events ∧
      before.since = round.since ∧ (round.phase = .enqueued → before.phase = .enqueued ∨
        before.phase = .claimed ∧ event = .enqueued place)) ∨
    round.phase = .claimed ∧ round.since = world.executions.length ∧
      ∀ claimed ∈ round.events, ∃ stored ∈ after.events.rows, stored.id = claimed.id ∧
        stored.tenantId = claimed.tenantId

theorem continues_of_mem
    (member : round ∈ world.rounds) : Continues world event after round := by
  obtain ⟨place, found⟩ := List.mem_iff_getElem?.mp member
  exact .inl ⟨place, round, found, rfl, rfl, .inl⟩

theorem continues_of_set {before : DispatchRound}
    {phase : RoundPhase} (found : world.rounds[place]? = some before) (member : round ∈ (setRound world place before phase).rounds)
    (enqueued : phase = .enqueued → before.phase = .claimed ∧ event = .enqueued place) :
    Continues world event after round := by
  obtain ⟨other, present⟩ := List.mem_iff_getElem?.mp member
  rcases replaced present with ⟨-, rfl⟩ | ⟨-, old⟩
  · exact .inl ⟨place, before, found, rfl, rfl, fun own => .inr (enqueued own)⟩
  · exact .inl ⟨other, round, old, rfl, rfl, .inl⟩

theorem afterBulk_continues
    {phase : DispatchRound → RoundPhase} (member : round ∈ (afterBulk world place phase).rounds)
    (enqueued : ∀ before, phase before = .enqueued → event = .enqueued place) :
    Continues world event after round := by
  simp only [afterBulk, onRound] at member
  split at member
  · next before found =>
    split at member
    · next claimed => exact continues_of_set found member fun own => ⟨claimed, enqueued before own⟩
    · exact continues_of_mem member
  · exact continues_of_mem member

theorem lockPendingBatch_claims {after : OutboxEvents} {locked : String → Bool}
    {staleProcessingAfterMs batchSize : Nat} {batch : List ClaimedOutboxEvent}
    (claims : events.lockPendingBatch locked staleProcessingAfterMs batchSize now = some (after, batch)) :
    ∀ claimed ∈ batch, ∃ stored ∈ after.rows, stored.id = claimed.id ∧ stored.tenantId = claimed.tenantId := by
  have evolves := (lockPendingBatch_cases claims).1
  unfold lockPendingBatch at claims
  split at claims
  · cases claims
  · cases claims
    intro claimed member
    obtain ⟨event, candidate, rfl⟩ := List.mem_map.mp member
    obtain ⟨present, -⟩ := mem_candidateEvents candidate
    obtain ⟨later, laterMember, same, tenant, -⟩ := evolves.kept event present
    exact ⟨later, laterMember, same, tenant⟩

theorem step_rounds (event : OutboxStep) :
    ∀ round ∈ (step registry config world event).rounds,
      Continues world event (step registry config world event) round := by
  intro round member
  cases event with
  | publish id now input =>
    apply continues_of_mem
    simp only [step] at member
    split at member <;> exact member
  | dispatch batchSize now =>
    simp only [step, dispatch] at member ⊢
    split at member
    · exact continues_of_mem member
    · next claims =>
      rcases List.mem_append.mp member with old | new
      · exact continues_of_mem old
      · cases List.mem_singleton.mp new
        exact .inr ⟨rfl, rfl, lockPendingBatch_claims claims⟩
  | enqueued place => exact afterBulk_continues member fun _ _ => rfl
  | enqueueFailed place added message => exact afterBulk_continues member (by simp)
  | markFailed place now =>
    simp only [step, onRound] at member
    split at member
    · next before found =>
      unfold markNextFailed at member
      split at member
      · split at member
        · exact continues_of_mem member
        · exact continues_of_set found member (by simp)
      · exact continues_of_set found member (by simp)
      · exact continues_of_mem member
    · exact continues_of_mem member
  | abandon place =>
    simp only [step, onRound] at member
    split at member
    · next before found => exact continues_of_set found member (by simp)
    · exact continues_of_mem member
  | deliver payload => exact continues_of_mem member
  | work place now outcome =>
    apply continues_of_mem
    simp only [step, onExecution] at member
    split at member
    · rwa [work_rounds] at member
    · exact member

end OutboxWorld

namespace EventJobs

variable {jobs : EventJobs} {id : String}

theorem addBulk_cases (jobs : EventJobs) (payloads : List DispatchOutboxEventJobPayload) (id : String) :
    jobs.addBulk payloads id = jobs id ∧ (jobs id = none → ∀ payload ∈ payloads, payload.outboxEventId ≠ id) ∨
      jobs id = none ∧ ∃ payload ∈ payloads, payload.outboxEventId = id ∧
        jobs.addBulk payloads id = some ⟨payload, .waiting⟩ := by
  induction payloads generalizing jobs with
  | nil => exact .inl ⟨rfl, fun _ _ member => absurd member List.not_mem_nil⟩
  | cons payload rest ih =>
    by_cases own : payload.outboxEventId = id
    · cases found : jobs id with
      | none =>
        have first : (jobs.add payload) id = some ⟨payload, .waiting⟩ := by
          simp only [add, own, found, Function.update_self]
        rcases ih (jobs.add payload) with ⟨same, -⟩ | ⟨absent, -⟩
        · exact .inr ⟨rfl, payload, List.mem_cons_self, own, same.trans first⟩
        · cases first.symm.trans absent
      | some job =>
        have kept : jobs.add payload = jobs := by simp only [add, own, found]
        rcases ih jobs with ⟨same, -⟩ | ⟨absent, -⟩
        · refine .inl ⟨?_, nofun⟩
          rw [addBulk, List.foldl_cons, kept]
          exact same.trans found
        · cases found.symm.trans absent
    · have kept : (jobs.add payload) id = jobs id := by
        cases found : jobs payload.outboxEventId with
        | none =>
          simp only [add, found]
          exact Function.update_of_ne (Ne.symm own) ..
        | some job => simp only [add, found]
      have tail := ih (jobs.add payload)
      rw [kept] at tail
      rcases tail with ⟨same, others⟩ | ⟨absent, later, member, sameId, added⟩
      · exact .inl ⟨same, fun absent => List.forall_mem_cons.mpr ⟨own, others absent⟩⟩
      · exact .inr ⟨absent, later, List.mem_cons_of_mem _ member, sameId, added⟩

def Keyed (jobs : EventJobs) : Prop := ∀ id job, jobs id = some job → job.payload.outboxEventId = id

theorem Keyed.addBulk (keyed : jobs.Keyed) (payloads : List DispatchOutboxEventJobPayload) :
    (jobs.addBulk payloads).Keyed := by
  intro id job found
  rcases addBulk_cases jobs payloads id with ⟨same, -⟩ | ⟨-, payload, -, own, added⟩
  · exact keyed id job (same.symm.trans found)
  · cases added.symm.trans found
    exact own

theorem Keyed.setState (keyed : jobs.Keyed) (id : String) (state : JobState) :
    (jobs.setState id state).Keyed := by
  intro other job found
  by_cases same : other = id
  · subst same
    rw [EventJobs.setState, Function.update_self] at found
    obtain ⟨before, own, rfl⟩ := Option.map_eq_some_iff.mp found
    exact keyed other before own
  · rw [EventJobs.setState, Function.update_of_ne same] at found
    exact keyed other job found

theorem setState_other {other : String} (differs : id ≠ other) (state : JobState) :
    jobs.setState other state id = jobs id := Function.update_of_ne differs ..

theorem setState_self {job : EventJob} (found : jobs id = some job)
    (state : JobState) : jobs.setState id state id = some { job with state } := by
  rw [setState, Function.update_self, found]
  rfl

end EventJobs

namespace QueueWorld

/-- The execution of a job goes on while the job is active, and has published the event when it is completed. -/
def Matches (outbox : OutboxWorld) (id : String) : JobState → ExecutionPhase → Prop
  | .active, .starting => True
  | .active, .handling _ _ _ _ => True
  | .completed, .finished none => Published outbox id
  | _, _ => False

def Known (outbox : OutboxWorld) (id tenantId : String) : Prop :=
  ∃ stored ∈ outbox.events.rows, stored.id = id ∧ stored.tenantId = tenantId

structure Inv (registry : String → List String) (id : String) (world : QueueWorld) : Prop where
  outbox : OutboxWorld.Inv registry world.outbox
  alive : ∀ stored ∈ world.outbox.events.rows, stored.id = id → stored.status ≠ .discarded
  rounds : ∀ round ∈ world.outbox.rounds, round.since ≤ world.outbox.executions.length ∧
    ∀ claimed ∈ round.events, claimed.id = id → Known world.outbox id claimed.tenantId
  keyed : world.jobs.Keyed
  jobs : ∀ job, world.jobs id = some job → Known world.outbox id job.payload.tenantId
  executions : ∀ (place : Nat) (execution : Execution), world.outbox.executions[place]? = some execution →
    execution.payload.outboxEventId = id →
      ∃ job, world.jobs id = some job ∧ job.payload = execution.payload ∧
        Matches world.outbox id job.state execution.phase
  started : ∀ job, world.jobs id = some job → job.state ≠ .waiting →
    ∃ (place : Nat) (execution : Execution), world.outbox.executions[place]? = some execution ∧
      execution.payload.outboxEventId = id
  single : AtMostOne (fun execution : Execution => execution.payload.outboxEventId = id) world.outbox.executions
  retried : Retried id world

theorem waiting_iff {world : QueueWorld} {id : String} :
    Waiting world id ↔ ∃ payload, world.jobs id = some ⟨payload, .waiting⟩ := by
  unfold Waiting
  constructor
  · intro waits
    obtain ⟨⟨payload, state⟩, found, rfl⟩ := Option.map_eq_some_iff.mp waits
    exact ⟨payload, found⟩
  · rintro ⟨payload, found⟩
    rw [found]
    rfl

section Keeps

variable {before after : OutboxWorld} {id : String}

theorem Known.keep {tenantId : String} (known : Known before id tenantId)
    (keeps : OutboxWorld.Keeps id before.events after.events) : Known after id tenantId := by
  obtain ⟨stored, member, own, tenant⟩ := known
  obtain ⟨later, present, same, sameTenant, -⟩ := keeps.kept stored member own
  exact ⟨later, present, same, sameTenant.trans tenant⟩

theorem Published.keep (published : Published before id)
    (keeps : OutboxWorld.Keeps id before.events after.events) : Published after id := by
  obtain ⟨stored, member, own, status⟩ := published
  obtain ⟨later, present, same, -, still⟩ := keeps.kept stored member own
  exact ⟨later, present, same, still status⟩

theorem Matches.keep {state : JobState} {phase : ExecutionPhase} (holds : Matches before id state phase)
    (keeps : OutboxWorld.Keeps id before.events after.events) : Matches after id state phase := by
  unfold Matches at holds ⊢
  split at holds
  · trivial
  · trivial
  · exact holds.keep keeps
  · exact holds.elim

end Keeps

theorem empty_inv (registry : String → List String) (id : String) : Inv registry id empty := by
  constructor
  · exact OutboxWorld.empty_inv registry
  · exact fun _ member => absurd member List.not_mem_nil
  · exact fun _ member => absurd member List.not_mem_nil
  · rintro _ _ ⟨⟩
  · rintro _ ⟨⟩
  · intro place execution found
    simp [empty, OutboxWorld.empty] at found
  · rintro _ ⟨⟩
  · exact AtMostOne.nil
  · exact fun _ member => absurd member List.not_mem_nil

section Steps

variable {registry : String → List String} {config : EventsConfig} {world : QueueWorld} {id : String}
  {outbox after : OutboxWorld} {jobs : EventJobs} {place : Nat} {event : OutboxStep} {execution : Execution}
  {phase : ExecutionPhase}

theorem Inv.fresh (inv : Inv registry id world) (absent : world.jobs id = none ∨ Waiting world id) :
    ∀ execution ∈ world.outbox.executions, execution.payload.outboxEventId ≠ id := by
  intro execution member own
  obtain ⟨place, found⟩ := List.mem_iff_getElem?.mp member
  obtain ⟨job, present, -, holds⟩ := inv.executions place execution found own
  rcases absent with absent | waits
  · cases absent.symm.trans present
  · obtain ⟨payload, waiting⟩ := waiting_iff.mp waits
    cases waiting.symm.trans present
    exact holds

def JobKept (id : String) (world : QueueWorld) (outbox : OutboxWorld) (jobs : EventJobs) : Prop :=
  jobs id = world.jobs id ∨
    world.jobs id = none ∧ ∃ payload, jobs id = some ⟨payload, .waiting⟩ ∧ Known outbox id payload.tenantId

theorem JobKept.waiting (kept : JobKept id world outbox jobs)
    (waits : Waiting world id) : Waiting ⟨outbox, jobs⟩ id := by
  rcases kept with same | ⟨absent, -⟩
  · exact (congrArg (Option.map EventJob.state) same).trans waits
  · obtain ⟨payload, found⟩ := waiting_iff.mp waits
    cases absent.symm.trans found

theorem addRound_kept (inv : Inv registry id world)
    (keeps : OutboxWorld.Keeps id world.outbox.events after.events) (place : Nat)
    (added : ClaimedOutboxEvent → Bool) : JobKept id world after (addRound world place added) := by
  unfold addRound
  split
  · next round found =>
    split
    · have claims := (inv.rounds round (List.mem_of_getElem? found)).2
      rcases EventJobs.addBulk_cases world.jobs ((round.events.filter added).map ClaimedOutboxEvent.job) id with
        ⟨same, -⟩ | ⟨absent, payload, member, own, put⟩
      · exact .inl same
      · obtain ⟨event, present, rfl⟩ := List.mem_map.mp member
        exact .inr ⟨absent, event.job, put, (claims event (List.mem_filter.mp present).1 own).keep keeps⟩
    · exact .inl rfl
  · exact .inl rfl

theorem addRound_waiting {round : DispatchRound}
    (found : world.outbox.rounds[place]? = some round) (claimed : round.phase = .claimed) {event : ClaimedOutboxEvent}
    (member : event ∈ round.events) (own : event.id = id) (absent : world.jobs id = none) :
    Waiting ⟨after, addRound world place fun _ => true⟩ id := by
  have all : (round.events.filter fun _ => true) = round.events := List.filter_true _
  simp only [addRound, found, if_pos claimed, all]
  rcases EventJobs.addBulk_cases world.jobs (round.events.map ClaimedOutboxEvent.job) id with
    ⟨-, others⟩ | ⟨-, payload, -, -, added⟩
  · exact absurd own (others absent event.job (List.mem_map.mpr ⟨event, member, rfl⟩))
  · exact waiting_iff.mpr ⟨payload, added⟩

theorem executed_iff {since : Nat} :
    Executed outbox since id ↔ ∃ (place : Nat) (execution : Execution), since ≤ place ∧
      outbox.executions[place]? = some execution ∧ execution.payload.outboxEventId = id := by
  constructor
  · rintro ⟨execution, member, own⟩
    obtain ⟨place, found⟩ := List.mem_iff_getElem?.mp member
    rw [List.getElem?_drop] at found
    exact ⟨since + place, execution, Nat.le_add_right _ _, found, own⟩
  · rintro ⟨place, execution, late, found, own⟩
    refine ⟨execution, List.mem_iff_getElem?.mpr ⟨place - since, ?_⟩, own⟩
    rw [List.getElem?_drop, Nat.add_sub_cancel' late]
    exact found

theorem Inv.roundsAfter (inv : Inv registry id world)
    (keeps : OutboxWorld.Keeps id world.outbox.events after.events)
    (length : after.executions.length = world.outbox.executions.length)
    (continues : ∀ round ∈ after.rounds, OutboxWorld.Continues world.outbox event after round) :
    ∀ round ∈ after.rounds, round.since ≤ after.executions.length ∧
      ∀ claimed ∈ round.events, claimed.id = id → Known after id claimed.tenantId := by
  intro round member
  rw [length]
  rcases continues round member with ⟨place, before, found, events, since, -⟩ | ⟨-, since, claims⟩
  · obtain ⟨early, claims⟩ := inv.rounds before (List.mem_of_getElem? found)
    rw [← events, ← since]
    exact ⟨early, fun claimed present own => (claims claimed present own).keep keeps⟩
  · refine ⟨since.le, ?_⟩
    intro claimed present own
    obtain ⟨stored, storedMember, same, tenant⟩ := claims claimed present
    exact ⟨stored, storedMember, same.trans own, tenant⟩

theorem Inv.idle (inv : Inv registry id world)
    (guarded : Deliverable config id world (.outbox event)) (own : OutboxWorld.Inv registry after)
    (keeps : OutboxWorld.Keeps id world.outbox.events after.events)
    (same : after.executions = world.outbox.executions)
    (continues : ∀ round ∈ after.rounds, OutboxWorld.Continues world.outbox event after round)
    (keyed : jobs.Keyed) (kept : JobKept id world after jobs)
    (added : ∀ place, event = .enqueued place → jobs = addRound world place fun _ => true) :
    Inv registry id ⟨after, jobs⟩ := by
  constructor
  · exact own
  · exact keeps.alive inv.alive
  · exact inv.roundsAfter keeps (congrArg List.length same) continues
  · exact keyed
  · intro job found
    rcases kept with old | ⟨-, payload, new, known⟩
    · exact (inv.jobs job (old.symm.trans found)).keep keeps
    · cases new.symm.trans found
      exact known
  · intro place execution found mine
    obtain ⟨job, present, payload, holds⟩ := inv.executions place execution (same ▸ found) mine
    rcases kept with old | ⟨absent, -⟩
    · exact ⟨job, old.trans present, payload, holds.keep keeps⟩
    · cases absent.symm.trans present
  · intro job found running
    have before : world.jobs id = some job := by
      rcases kept with old | ⟨-, payload, new, -⟩
      · exact old.symm.trans found
      · cases new.symm.trans found
        exact absurd rfl running
    simp only [same]
    exact inv.started job before running
  · simp only [same]
    exact inv.single
  · intro round member enqueued claimed present mine
    have executed : ∀ since, Executed world.outbox since id → Executed after since id := by
      intro since began
      unfold Executed
      rw [same]
      exact began
    rcases continues round member with ⟨place, before, found, events, since, phase⟩ | ⟨phase, -⟩
    · have earlier : claimed ∈ before.events := events ▸ present
      rw [← since]
      rcases phase enqueued with old | ⟨wasClaimed, rfl⟩
      · exact (inv.retried before (List.mem_of_getElem? found) old claimed earlier mine).imp
          (executed before.since) kept.waiting
      · rcases guarded before found wasClaimed claimed earlier mine with absent | waits | began
        · rw [added place rfl]
          exact .inr (addRound_waiting found wasClaimed earlier mine absent)
        · exact .inr (kept.waiting waits)
        · exact .inl (executed before.since began)
    · cases phase.symm.trans enqueued

theorem addRound_keyed (keyed : world.jobs.Keyed) (place : Nat) (added : ClaimedOutboxEvent → Bool) :
    (addRound world place added).Keyed := by
  unfold addRound
  split
  · split
    · exact keyed.addBulk _
    · exact keyed
  · exact keyed

theorem afterBulk_executions (outbox : OutboxWorld) (place : Nat) (phase : DispatchRound → RoundPhase) :
    (outbox.afterBulk place phase).executions = outbox.executions := by
  simp only [OutboxWorld.afterBulk, OutboxWorld.onRound]
  split
  · split <;> rfl
  · rfl

theorem Inv.workOther (inv : Inv registry id world)
    (found : world.outbox.executions[place]? = some execution) (other : execution.payload.outboxEventId ≠ id) (own : OutboxWorld.Inv registry after)
    (keeps : OutboxWorld.Keeps id world.outbox.events after.events) (rounds : after.rounds = world.outbox.rounds)
    (executions : after.executions = world.outbox.executions.set place { execution with phase })
    (keyed : jobs.Keyed) (kept : jobs id = world.jobs id) : Inv registry id ⟨after, jobs⟩ := by
  have earlier : ∀ (index : Nat) (process : Execution), after.executions[index]? = some process →
      process.payload.outboxEventId = id → world.outbox.executions[index]? = some process := by
    intro index process present mine
    rw [executions] at present
    rcases replaced present with ⟨-, rfl⟩ | ⟨-, old⟩
    · exact absurd mine other
    · exact old
  have later : ∀ (index : Nat) (process : Execution), world.outbox.executions[index]? = some process →
      process.payload.outboxEventId = id → after.executions[index]? = some process := by
    intro index process present mine
    have ne : place ≠ index := by
      rintro rfl
      cases found.symm.trans present
      exact other mine
    rw [executions, List.getElem?_set_ne ne]
    exact present
  constructor
  · exact own
  · exact keeps.alive inv.alive
  · have length : after.executions.length = world.outbox.executions.length := by rw [executions, List.length_set]
    have continues : ∀ round ∈ after.rounds,
        OutboxWorld.Continues world.outbox (.work place 0 (.ok ())) after round :=
      fun round member => OutboxWorld.continues_of_mem (rounds ▸ member)
    exact inv.roundsAfter keeps length continues
  · exact keyed
  · intro job present
    exact (inv.jobs job (kept.symm.trans present)).keep keeps
  · intro index process present mine
    obtain ⟨job, jobFound, payload, holds⟩ := inv.executions index process (earlier index process present mine) mine
    exact ⟨job, kept.trans jobFound, payload, holds.keep keeps⟩
  · intro job present running
    obtain ⟨index, process, processFound, mine⟩ := inv.started job (kept.symm.trans present) running
    exact ⟨index, process, later index process processFound mine, mine⟩
  · apply inv.single.of_before
    intro index process present mine
    exact ⟨process, earlier index process present mine, mine⟩
  · intro round member enqueued claimed present mine
    rcases inv.retried round (rounds ▸ member) enqueued claimed present mine with began | waits
    · obtain ⟨index, process, late, processFound, processOwn⟩ := executed_iff.mp began
      exact .inl (executed_iff.mpr ⟨index, process, late, later index process processFound processOwn, processOwn⟩)
    · exact .inr ((congrArg (Option.map EventJob.state) kept).trans waits)

def Proceeds (after : OutboxWorld) (id : String) (state : JobState) (phase : ExecutionPhase) : Prop :=
  state = .active ∧ Matches after id .active phase ∨ phase = .finished none ∧ Published after id

theorem start_proceeds
    (found : outbox.executions[place]? = some execution) (starting : execution.phase = .starting)
    (known : Known outbox execution.payload.outboxEventId execution.payload.tenantId) :
    ∃ phase, (outbox.start registry place execution).executions =
        outbox.executions.set place { execution with phase } ∧
      Proceeds (outbox.start registry place execution) execution.payload.outboxEventId .active phase := by
  unfold OutboxWorld.start
  split
  · refine ⟨.starting, ?_, .inl ⟨rfl, trivial⟩⟩
    obtain ⟨early, rfl⟩ := List.getElem?_eq_some_iff.mp found
    rw [← starting]
    exact (List.set_getElem_self early).symm
  · split
    · next absent =>
      obtain ⟨stored, member, own, tenant⟩ := known
      have present := findById_eq_some.mpr ⟨member, own, tenant⟩
      cases absent.symm.trans present
    · next event read =>
      obtain ⟨member, own, -⟩ := findById_eq_some.mp read
      split
      · next published => exact ⟨_, rfl, .inr ⟨rfl, event, member, own, published⟩⟩
      · exact ⟨_, rfl, .inl ⟨rfl, trivial⟩⟩

theorem commit_published (inv : OutboxWorld.Inv registry outbox) (found : outbox.executions[place]? = some execution) (now : Int) {event : OutboxEvent}
    {written : List EventConsumerRun} {handled : List String}
    (phase : execution.phase = .handling event [] written handled) :
    Published (outbox.commit place now execution event written handled) execution.payload.outboxEventId := by
  obtain ⟨handling, own, -⟩ := inv.handling place execution event [] written handled found phase
  obtain ⟨stored, member, sameId, tenant, -⟩ := handling.unpublished
  refine ⟨_, mem_markPublished.mpr ⟨stored, member, rfl⟩, ?_⟩
  rw [if_pos ⟨tenant, sameId⟩]
  exact ⟨sameId.trans own, rfl⟩

theorem work_proceeds (inv : OutboxWorld.Inv registry outbox) (found : outbox.executions[place]? = some execution)
    (known : Known outbox execution.payload.outboxEventId execution.payload.tenantId) {state : JobState}
    (holds : Matches outbox execution.payload.outboxEventId state execution.phase) (now : Int)
    {outcome : Except String Unit}
    (succeeds : ∀ message, outcome = .error message → ∃ error, execution.phase = .finished error) :
    ∃ phase, (outbox.work registry config place now outcome execution).executions =
        outbox.executions.set place { execution with phase } ∧
      Proceeds (outbox.work registry config place now outcome execution) execution.payload.outboxEventId state
        phase := by
  obtain ⟨payload, phase⟩ := execution
  cases phase with
  | starting =>
    cases state with
    | active =>
      cases outcome with
      | ok _ => exact start_proceeds found rfl known
      | error message => obtain ⟨error, ⟨⟩⟩ := succeeds message rfl
    | waiting => exact holds.elim
    | completed => exact holds.elim
    | failed => exact holds.elim
  | handling event consumers written handled =>
    cases state with
    | active =>
      cases outcome with
      | ok _ =>
        cases consumers with
        | nil => exact ⟨_, rfl, .inr ⟨rfl, commit_published inv found now rfl⟩⟩
        | cons consumer rest =>
          simp only [OutboxWorld.work, OutboxWorld.handle]
          split <;> exact ⟨_, rfl, .inl ⟨rfl, trivial⟩⟩
      | error message => obtain ⟨error, ⟨⟩⟩ := succeeds message rfl
    | waiting => exact holds.elim
    | completed => exact holds.elim
    | failed => exact holds.elim
  | failing message => cases state <;> exact holds.elim
  | finished error =>
    have same : outbox.executions = outbox.executions.set place ⟨payload, .finished error⟩ := by
      obtain ⟨early, equal⟩ := List.getElem?_eq_some_iff.mp found
      rw [← equal]
      exact (List.set_getElem_self early).symm
    have unchanged : outbox.work registry config place now outcome ⟨payload, .finished error⟩ = outbox := by
      cases outcome <;> rfl
    rw [unchanged]
    cases error with
    | none =>
      cases state with
      | completed => exact ⟨_, same, .inr ⟨rfl, holds⟩⟩
      | waiting => exact holds.elim
      | active => exact holds.elim
      | failed => exact holds.elim
    | some message => cases state <;> exact holds.elim

theorem settle_keyed (keyed : world.jobs.Keyed) (after : OutboxWorld) (place : Nat) :
    (settle world after place).Keyed := by
  unfold settle
  split
  · exact keyed.setState _ _
  · exact keyed.setState _ _
  · exact keyed

theorem settle_other
    (here : after.executions[place]? = some execution) (other : execution.payload.outboxEventId ≠ id) :
    settle world after place id = world.jobs id := by
  obtain ⟨payload, phase⟩ := execution
  unfold settle
  rw [here]
  cases phase with
  | finished error => cases error <;> exact EventJobs.setState_other (Ne.symm other) _
  | starting => rfl
  | handling event consumers written handled => rfl
  | failing message => rfl

theorem Inv.workOwn (inv : Inv registry id world)
    (found : world.outbox.executions[place]? = some execution) (mine : execution.payload.outboxEventId = id) (own : OutboxWorld.Inv registry after)
    (keeps : OutboxWorld.Keeps id world.outbox.events after.events) (rounds : after.rounds = world.outbox.rounds)
    (executions : after.executions = world.outbox.executions.set place { execution with phase }) {job : EventJob}
    (present : world.jobs id = some job) (payload : job.payload = execution.payload)
    (proceeds : Proceeds after id job.state phase) : Inv registry id ⟨after, settle world after place⟩ := by
  have here : after.executions[place]? = some { execution with phase } := by
    rw [executions, List.getElem?_set_self (List.getElem?_eq_some_iff.mp found).1]
  have settled : ∃ state, settle world after place id = some { job with state } ∧ Matches after id state phase ∧
      state ≠ .waiting := by
    rcases proceeds with ⟨active, holds⟩ | ⟨rfl, published⟩
    · refine ⟨.active, ?_, holds, nofun⟩
      have unchanged : settle world after place = world.jobs := by
        cases phase with
        | starting => simp only [settle, here]
        | handling event consumers written handled => simp only [settle, here]
        | failing message => exact holds.elim
        | finished error => cases error <;> exact holds.elim
      rw [unchanged, present, ← active]
    · refine ⟨.completed, ?_, published, nofun⟩
      simp only [settle, here, mine]
      exact EventJobs.setState_self present .completed
  obtain ⟨state, after_job, holds, running⟩ := settled
  have before : ∀ (index : Nat) (process : Execution), after.executions[index]? = some process →
      process.payload.outboxEventId = id → index = place ∧ process = { execution with phase } := by
    intro index process processFound processMine
    rw [executions] at processFound
    rcases replaced processFound with ⟨rfl, rfl⟩ | ⟨differs, old⟩
    · exact ⟨rfl, rfl⟩
    · exact absurd (inv.single place index execution process found old mine processMine) differs
  constructor
  · exact own
  · exact keeps.alive inv.alive
  · have length : after.executions.length = world.outbox.executions.length := by rw [executions, List.length_set]
    have continues : ∀ round ∈ after.rounds,
        OutboxWorld.Continues world.outbox (.work place 0 (.ok ())) after round :=
      fun round member => OutboxWorld.continues_of_mem (rounds ▸ member)
    exact inv.roundsAfter keeps length continues
  · exact settle_keyed inv.keyed after place
  · intro other otherFound
    cases after_job.symm.trans otherFound
    exact (inv.jobs job present).keep keeps
  · intro index process processFound processMine
    obtain ⟨rfl, rfl⟩ := before index process processFound processMine
    exact ⟨_, after_job, payload, holds⟩
  · exact fun _ _ _ => ⟨place, _, here, mine⟩
  · apply AtMostOne.of_place
    intro index process processFound processMine
    exact (before index process processFound processMine).1
  · intro round member enqueued claimed claimedMember claimedMine
    rcases inv.retried round (rounds ▸ member) enqueued claimed claimedMember claimedMine with began | waits
    · obtain ⟨index, process, late, processFound, processMine⟩ := executed_iff.mp began
      have same : index = place := inv.single index place process execution processFound found processMine mine
      exact .inl (executed_iff.mpr ⟨place, _, same ▸ late, here, mine⟩)
    · exact absurd mine (inv.fresh (.inr waits) execution (List.mem_of_getElem? found))

theorem Inv.start (inv : Inv registry id world) {target : String} {payload : DispatchOutboxEventJobPayload}
    (found : world.jobs target = some ⟨payload, .waiting⟩) :
    Inv registry id ⟨{ world.outbox with executions := world.outbox.executions ++ [⟨payload, .starting⟩] },
      world.jobs.setState target .active⟩ := by
  have key : payload.outboxEventId = target := inv.keyed target _ found
  have old : ∀ (index : Nat) (process : Execution), world.outbox.executions[index]? = some process →
      (world.outbox.executions ++ [⟨payload, .starting⟩])[index]? = some process := by
    intro index process present
    rw [List.getElem?_append_left (List.getElem?_eq_some_iff.mp present).1]
    exact present
  have last : (world.outbox.executions ++ [⟨payload, .starting⟩])[world.outbox.executions.length]? =
      some ⟨payload, .starting⟩ := List.getElem?_concat_length
  have rounds : ∀ round ∈ world.outbox.rounds,
      round.since ≤ (world.outbox.executions ++ [(⟨payload, .starting⟩ : Execution)]).length ∧
        ∀ claimed ∈ round.events, claimed.id = id → Known world.outbox id claimed.tenantId := by
    intro round member
    obtain ⟨since, claims⟩ := inv.rounds round member
    exact ⟨by rw [List.length_append]; exact Nat.le_add_right_of_le since, claims⟩
  have outbox : OutboxWorld.Inv registry
      { world.outbox with executions := world.outbox.executions ++ [⟨payload, .starting⟩] } :=
    inv.outbox.deliver payload
  by_cases same : target = id
  · subst same
    have fresh := inv.fresh (.inr (waiting_iff.mpr ⟨payload, found⟩))
    have active := EventJobs.setState_self found .active
    have only : ∀ (index : Nat) (process : Execution),
        (world.outbox.executions ++ [⟨payload, .starting⟩])[index]? = some process →
        process.payload.outboxEventId = target → index = world.outbox.executions.length ∧
          process = ⟨payload, .starting⟩ := by
      intro index process present mine
      rcases appended present with earlier | new
      · exact absurd mine (fresh process (List.mem_of_getElem? earlier))
      · exact new
    refine ⟨outbox, inv.alive, rounds, inv.keyed.setState _ _, ?_, ?_, ?_, ?_, ?_⟩
    · intro job present
      cases active.symm.trans present
      exact inv.jobs ⟨payload, .waiting⟩ found
    · intro index process present mine
      obtain ⟨-, rfl⟩ := only index process present mine
      exact ⟨_, active, rfl, trivial⟩
    · exact fun _ _ _ => ⟨_, _, last, key⟩
    · apply AtMostOne.of_place
      intro index process present mine
      exact (only index process present mine).1
    · intro round member enqueued claimed present mine
      exact .inl (executed_iff.mpr ⟨_, _, (inv.rounds round member).1, last, key⟩)
  · have kept : world.jobs.setState target .active id = world.jobs id :=
      EventJobs.setState_other (Ne.symm same) .active
    have earlier : ∀ (index : Nat) (process : Execution),
        (world.outbox.executions ++ [⟨payload, .starting⟩])[index]? = some process →
        process.payload.outboxEventId = id → world.outbox.executions[index]? = some process := by
      intro index process present mine
      rcases appended present with earlier | ⟨-, rfl⟩
      · exact earlier
      · exact absurd (key.symm.trans mine) same
    refine ⟨outbox, inv.alive, rounds, inv.keyed.setState _ _, ?_, ?_, ?_, ?_, ?_⟩
    · exact fun job present => inv.jobs job (kept.symm.trans present)
    · intro index process present mine
      obtain ⟨job, jobFound, rest⟩ := inv.executions index process (earlier index process present mine) mine
      exact ⟨job, kept.trans jobFound, rest⟩
    · intro job present running
      obtain ⟨index, process, processFound, mine⟩ := inv.started job (kept.symm.trans present) running
      exact ⟨index, process, old index process processFound, mine⟩
    · apply inv.single.of_before
      intro index process present mine
      exact ⟨process, earlier index process present mine, mine⟩
    · intro round member enqueued claimed present mine
      rcases inv.retried round member enqueued claimed present mine with began | waits
      · obtain ⟨index, process, late, processFound, processMine⟩ := executed_iff.mp began
        exact .inl (executed_iff.mpr ⟨index, process, late, old index process processFound, processMine⟩)
      · exact .inr ((congrArg (Option.map EventJob.state) kept).trans waits)

theorem work_inv (inv : Inv registry id world) (place : Nat) (now : Int) (outcome : Except String Unit)
    (guarded : Deliverable config id world (.outbox (.work place now outcome))) :
    Inv registry id (step registry config world (.outbox (.work place now outcome))) := by
  have own := OutboxWorld.step_inv inv.outbox config (.work place now outcome)
  cases found : world.outbox.executions[place]? with
  | none =>
    have unchanged : OutboxWorld.step registry config world.outbox (.work place now outcome) = world.outbox := by
      simp only [OutboxWorld.step, OutboxWorld.onExecution, found]
    have same : step registry config world (.outbox (.work place now outcome)) = world := by
      simp only [step, unchanged, jobsAfter, settle, found]
    rw [same]
    exact inv
  | some execution =>
    have worked : OutboxWorld.step registry config world.outbox (.work place now outcome) =
        world.outbox.work registry config place now outcome execution := by
      simp only [OutboxWorld.step, OutboxWorld.onExecution, found]
    have keeps : OutboxWorld.Keeps id world.outbox.events
        (OutboxWorld.step registry config world.outbox (.work place now outcome)).events := by
      apply OutboxWorld.step_keeps
      intro tenantId stored marked
      obtain ⟨payload, phase⟩ := execution
      cases outcome with
      | error message => cases marked
      | ok _ =>
        simp only [OutboxWorld.marks, found] at marked
        cases phase with
        | failing message =>
          cases marked
          obtain ⟨job, -, -, holds⟩ := inv.executions place _ found rfl
          cases state : job.state <;> rw [state] at holds <;> exact holds.elim
        | starting => cases marked
        | handling event consumers written handled => cases marked
        | finished error => cases marked
    rw [worked] at own keeps
    have rounds : (world.outbox.work registry config place now outcome execution).rounds = world.outbox.rounds :=
      OutboxWorld.work_rounds now outcome
    have stepped : step registry config world (.outbox (.work place now outcome)) =
        ⟨world.outbox.work registry config place now outcome execution,
          settle world (world.outbox.work registry config place now outcome execution) place⟩ := by
      simp only [step, worked, jobsAfter]
    rw [stepped]
    by_cases mine : execution.payload.outboxEventId = id
    · obtain ⟨job, present, payload, holds⟩ := inv.executions place execution found mine
      have known : Known world.outbox execution.payload.outboxEventId execution.payload.tenantId := by
        rw [mine, ← payload]
        exact inv.jobs job present
      have succeeds : ∀ message, outcome = .error message → ∃ error, execution.phase = .finished error := by
        rintro message rfl
        exact guarded execution found mine
      rw [← mine] at holds
      obtain ⟨phase, executions, proceeds⟩ := work_proceeds inv.outbox found known holds now succeeds
      rw [mine] at proceeds
      exact inv.workOwn found mine own keeps rounds executions present payload proceeds
    · obtain ⟨phase, executions⟩ : ∃ phase,
          (world.outbox.work registry config place now outcome execution).executions =
            world.outbox.executions.set place { execution with phase } :=
        OutboxWorld.work_executions now outcome found
      have here : (world.outbox.work registry config place now outcome execution).executions[place]? =
          some { execution with phase } := by
        rw [executions, List.getElem?_set_self (List.getElem?_eq_some_iff.mp found).1]
      exact inv.workOther found mine own keeps rounds executions (settle_keyed inv.keyed _ place)
        (settle_other here mine)

theorem step_inv (inv : Inv registry id world) (event : QueueStep) (guarded : Deliverable config id world event) :
    Inv registry id (step registry config world event) := by
  cases event with
  | start target =>
    simp only [step]
    split
    · next found => exact inv.start found
    · exact inv
  | outbox event =>
    have own := OutboxWorld.step_inv inv.outbox config event
    have continues : ∀ round ∈ (OutboxWorld.step registry config world.outbox event).rounds,
        OutboxWorld.Continues world.outbox event (OutboxWorld.step registry config world.outbox event) round :=
      OutboxWorld.step_rounds event
    have unmarked : world.outbox.marks event = none → OutboxWorld.Keeps id world.outbox.events
        (OutboxWorld.step registry config world.outbox event).events := by
      intro none
      apply OutboxWorld.step_keeps
      intro tenantId stored marked
      cases none.symm.trans marked
    cases event with
    | deliver payload => exact inv
    | work place now outcome => exact work_inv inv place now outcome guarded
    | publish eventId now input =>
      refine inv.idle guarded own (unmarked rfl) ?_ continues inv.keyed (.inl rfl) (by simp)
      simp only [OutboxWorld.step]
      split <;> rfl
    | dispatch batchSize now =>
      refine inv.idle guarded own (unmarked rfl) ?_ continues inv.keyed (.inl rfl) (by simp)
      simp only [OutboxWorld.step, OutboxWorld.dispatch]
      split <;> rfl
    | enqueued place =>
      refine inv.idle guarded own (unmarked rfl) (afterBulk_executions _ place _) continues
        (addRound_keyed inv.keyed place _) (addRound_kept inv (unmarked rfl) place _) ?_
      rintro other ⟨⟩
      rfl
    | enqueueFailed place added message =>
      exact inv.idle guarded own (unmarked rfl) (afterBulk_executions _ place _) continues
        (addRound_keyed inv.keyed place _) (addRound_kept inv (unmarked rfl) place _) (by simp)
    | abandon place =>
      refine inv.idle guarded own (unmarked rfl) ?_ continues inv.keyed (.inl rfl) (by simp)
      simp only [OutboxWorld.step, OutboxWorld.onRound]
      split <;> rfl
    | markFailed place now =>
      refine inv.idle guarded own (OutboxWorld.step_keeps _ guarded) ?_ continues inv.keyed (.inl rfl) (by simp)
      simp only [OutboxWorld.step, OutboxWorld.onRound]
      split
      · unfold OutboxWorld.markNextFailed
        split
        · split <;> rfl
        · rfl
        · rfl
      · rfl

end Steps

end QueueWorld

end ShuleHub.Events
