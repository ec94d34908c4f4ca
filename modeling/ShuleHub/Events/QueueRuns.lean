import ShuleHub.Events.JobQueue

/-! What the queue promises for the events: every claim is followed by an execution, and every event can be
published, as long as no job that has begun is added again. -/

namespace ShuleHub.Events

open Processes Runs OutboxEvents

namespace QueueWorld

section Progress

variable {registry : String → List String} {config : EventsConfig} {world : QueueWorld} {id : String} {place : Nat}
  {execution : Execution} {event : OutboxEvent}

theorem CanPublish.of_published (published : Published world.outbox id) : CanPublish registry config id world :=
  ⟨[], fun _ member => absurd member List.not_mem_nil, published⟩

theorem CanPublish.of_step {event : QueueStep} (succeeds : Succeeds event)
    (later : CanPublish registry config id (step registry config world event)) :
    CanPublish registry config id world := by
  obtain ⟨steps, each, published⟩ := later
  exact ⟨event :: steps, List.forall_mem_cons.mpr ⟨succeeds, each⟩, published⟩

theorem step_work (found : world.outbox.executions[place]? = some execution) (now : Int)
    (outcome : Except String Unit) :
    (step registry config world (.outbox (.work place now outcome))).outbox =
      world.outbox.work registry config place now outcome execution := by
  simp only [step, OutboxWorld.step, OutboxWorld.onExecution, found]

theorem setPhase_here {outbox : OutboxWorld} (found : outbox.executions[place]? = some execution)
    (phase : ExecutionPhase) :
    (outbox.setPhase place execution phase).executions[place]? = some { execution with phase } := by
  simp only [OutboxWorld.setPhase]
  rw [List.getElem?_set_self (List.getElem?_eq_some_iff.mp found).1]

theorem canPublish_handling (inv : Inv registry id world) (found : world.outbox.executions[place]? = some execution)
    (mine : execution.payload.outboxEventId = id) {consumers : List String}
    {written : List EventConsumerRun} {handled : List String}
    (phase : execution.phase = .handling event consumers written handled) : CanPublish registry config id world := by
  induction consumers generalizing world execution written handled with
  | nil =>
    have succeeds : Succeeds (.outbox (.work place 0 (.ok ()))) := trivial
    apply CanPublish.of_step succeeds
    apply CanPublish.of_published
    have worked : world.outbox.work registry config place 0 (.ok ()) execution =
        world.outbox.commit place 0 execution event written handled := by
      simp only [OutboxWorld.work, phase]
    rw [step_work found, worked, ← mine]
    exact commit_published inv.outbox found 0 phase
  | cons consumer rest ih =>
    have succeeds : Succeeds (.outbox (.work place 0 (.ok ()))) := trivial
    apply CanPublish.of_step succeeds
    have later : Inv registry id (step registry config world (.outbox (.work place 0 (.ok ())))) :=
      step_inv inv _ trivial
    have worked : world.outbox.work registry config place 0 (.ok ()) execution =
        world.outbox.handle place 0 execution event consumer rest written handled := by
      simp only [OutboxWorld.work, phase]
    have next : ∃ written' handled', (world.outbox.handle place 0 execution event consumer rest written
        handled).executions[place]? = some { execution with phase := .handling event rest written' handled' } := by
      simp only [OutboxWorld.handle]
      split <;> exact ⟨_, _, setPhase_here found _⟩
    obtain ⟨_, _, here⟩ := next
    rw [← worked, ← step_work found] at here
    exact ih later here mine rfl

theorem canPublish_active (inv : Inv registry id world) {job : EventJob} (found : world.jobs id = some job)
    (active : job.state = .active) : CanPublish registry config id world := by
  obtain ⟨place, execution, present, mine⟩ := inv.started job found (by rw [active]; exact nofun)
  obtain ⟨own, ownFound, payload, holds⟩ := inv.executions place execution present mine
  cases found.symm.trans ownFound
  rw [active] at holds
  cases phase : execution.phase with
  | handling event consumers written handled => exact canPublish_handling inv present mine phase
  | failing message =>
    rw [phase] at holds
    exact holds.elim
  | finished error =>
    rw [phase] at holds
    exact holds.elim
  | starting =>
    have free : ¬ world.outbox.locked execution.payload.outboxEventId = true := by
      intro locked
      obtain ⟨other, process, processFound, lock⟩ := OutboxWorld.locked_iff.mp locked
      obtain ⟨processPayload, processPhase⟩ := process
      cases processPhase with
      | handling event consumers written handled =>
        have same := (inv.outbox.handling other _ event consumers written handled processFound rfl).2.1
        have other_mine : processPayload.outboxEventId = id := same.symm.trans (lock.trans mine)
        cases inv.single other place _ execution processFound present other_mine mine
        cases present.symm.trans processFound
        cases phase
      | starting => exact lock
      | failing message => exact lock
      | finished error => exact lock
    obtain ⟨stored, member, storedId, tenant⟩ := inv.jobs job found
    rw [payload] at tenant
    have read := findById_eq_some.mpr ⟨member, storedId.trans mine.symm, tenant⟩
    by_cases published : stored.status = .published
    · exact .of_published ⟨stored, member, storedId, published⟩
    · have succeeds : Succeeds (.outbox (.work place 0 (.ok ()))) := trivial
      apply CanPublish.of_step succeeds
      have later : Inv registry id (step registry config world (.outbox (.work place 0 (.ok ())))) :=
        step_inv inv _ trivial
      have worked : world.outbox.work registry config place 0 (.ok ()) execution =
          world.outbox.setPhase place execution (.handling stored (registry stored.eventName) [] []) := by
        simp only [OutboxWorld.work, phase, OutboxWorld.start, if_neg free, read, if_neg published]
      have here := setPhase_here present (.handling stored (registry stored.eventName) [] [])
      rw [← worked, ← step_work present] at here
      exact canPublish_handling later here mine rfl

theorem canPublish_waiting (inv : Inv registry id world) (waits : Waiting world id) :
    CanPublish registry config id world := by
  obtain ⟨payload, found⟩ := waiting_iff.mp waits
  have succeeds : Succeeds (.start id) := trivial
  apply CanPublish.of_step succeeds
  have later : Inv registry id (step registry config world (.start id)) := step_inv inv _ trivial
  have active : (step registry config world (.start id)).jobs id = some ⟨payload, .active⟩ := by
    simp only [step, found]
    exact EventJobs.setState_self found .active
  exact canPublish_active later active rfl

theorem lockPendingBatch_all {events : OutboxEvents} {locked : String → Bool} {staleProcessingAfterMs : Nat}
    {now : Int} (member : event ∈ events.rows)
    (claimable : OutboxEvents.Claimable staleProcessingAfterMs now event) (free : locked event.id = false) :
    ∃ after batch,
      events.lockPendingBatch locked staleProcessingAfterMs events.rows.length now = some (after, batch) ∧
        claimed event ∈ batch := by
  have some_row : events.rows.length ≠ 0 := (List.length_pos_of_mem member).ne'
  refine ⟨_, _, if_neg some_row, List.mem_map_of_mem ?_⟩
  have allowed : event ∈ events.rows.filter fun event =>
      OutboxEvents.Claimable staleProcessingAfterMs now event ∧ locked event.id = false :=
    List.mem_filter.mpr ⟨member, decide_eq_true ⟨claimable, free⟩⟩
  rw [candidateEvents, List.take_of_length_le]
  · exact (List.mem_insertionSort _).mpr allowed
  · rw [List.length_insertionSort]
    exact List.length_filter_le ..

theorem claimable_later (unpublished : event.status ≠ .published)
    (alive : event.status ≠ .discarded) (staleProcessingAfterMs : Nat) :
    OutboxEvents.Claimable staleProcessingAfterMs
      (max event.availableAt (event.updatedAt + staleProcessingAfterMs)) event := by
  have due : event.availableAt ≤ max event.availableAt (event.updatedAt + staleProcessingAfterMs) := le_max_left ..
  have stale : event.updatedAt + staleProcessingAfterMs ≤
      max event.availableAt (event.updatedAt + staleProcessingAfterMs) := le_max_right ..
  unfold OutboxEvents.Claimable
  cases status : event.status with
  | pending => exact .inl ⟨rfl, due⟩
  | failed => exact .inr (.inl ⟨rfl, due⟩)
  | processing => exact .inr (.inr ⟨rfl, by omega⟩)
  | published => exact absurd status unpublished
  | discarded => exact absurd status alive

theorem canPublish_absent (inv : Inv registry id world) (absent : world.jobs id = none)
    (member : event ∈ world.outbox.events.rows) (mine : event.id = id) : CanPublish registry config id world := by
  by_cases published : event.status = .published
  · exact .of_published ⟨event, member, mine, published⟩
  · have free : world.outbox.locked event.id = false := by
      rw [Bool.eq_false_iff]
      intro locked
      obtain ⟨place, process, found, lock⟩ := OutboxWorld.locked_iff.mp locked
      obtain ⟨payload, phase⟩ := process
      cases phase with
      | handling read consumers written handled =>
        have same := (inv.outbox.handling place _ read consumers written handled found rfl).2.1
        exact inv.fresh (.inl absent) _ (List.mem_of_getElem? found) (same.symm.trans (lock.trans mine))
      | starting => exact lock
      | failing message => exact lock
      | finished error => exact lock
    have claimable := claimable_later published (inv.alive event member mine) config.staleProcessingAfterMs
    obtain ⟨events, batch, claims, claimed⟩ := lockPendingBatch_all member claimable free
    have dispatches : Succeeds (.outbox (.dispatch world.outbox.events.rows.length
        (max event.availableAt (event.updatedAt + config.staleProcessingAfterMs)))) := trivial
    apply CanPublish.of_step dispatches
    have dispatched : Inv registry id (step registry config world (.outbox (.dispatch world.outbox.events.rows.length
        (max event.availableAt (event.updatedAt + config.staleProcessingAfterMs))))) := step_inv inv _ trivial
    have state : step registry config world (.outbox (.dispatch world.outbox.events.rows.length
        (max event.availableAt (event.updatedAt + config.staleProcessingAfterMs)))) =
        ⟨{ world.outbox with
            events, rounds := world.outbox.rounds ++ [⟨batch, .claimed, world.outbox.executions.length⟩] },
          world.jobs⟩ := by
      simp only [step, OutboxWorld.step, OutboxWorld.dispatch, claims, jobsAfter]
    rw [state] at dispatched ⊢
    have enqueues : Succeeds (.outbox (.enqueued world.outbox.rounds.length)) := trivial
    apply CanPublish.of_step enqueues
    apply canPublish_waiting
    · exact step_inv dispatched _ fun _ _ _ _ _ _ => .inl absent
    · exact addRound_waiting List.getElem?_concat_length rfl claimed mine absent

theorem Inv.publishable (inv : Inv registry id world) : Publishable registry config id world := by
  rintro ⟨event, member, mine⟩
  cases found : world.jobs id with
  | none => exact canPublish_absent inv found member mine
  | some job =>
    obtain ⟨payload, state⟩ := job
    cases state with
    | waiting => exact canPublish_waiting inv (waiting_iff.mpr ⟨payload, found⟩)
    | active => exact canPublish_active inv found rfl
    | completed =>
      obtain ⟨place, execution, present, own⟩ := inv.started _ found nofun
      obtain ⟨job, jobFound, -, holds⟩ := inv.executions place execution present own
      cases found.symm.trans jobFound
      cases phase : execution.phase with
      | finished error =>
        rw [phase] at holds
        cases error with
        | none => exact .of_published holds
        | some message => exact holds.elim
      | starting => rw [phase] at holds; exact holds.elim
      | handling read consumers written handled => rw [phase] at holds; exact holds.elim
      | failing message => rw [phase] at holds; exact holds.elim
    | failed =>
      obtain ⟨place, execution, present, own⟩ := inv.started _ found nofun
      obtain ⟨job, jobFound, -, holds⟩ := inv.executions place execution present own
      cases found.symm.trans jobFound
      exact holds.elim

end Progress

/-- Every claim of an event that the dispatcher hands to the queue is followed by an execution, and the event can be
published, in every state of a run whose steps meet the condition. -/
theorem claims_are_executed_of_deliverable (registry : String → List String) (config : EventsConfig) (id : String)
    (steps : List QueueStep) (deliverable : Meets (step registry config) (Deliverable config id) empty steps) :
    Along (step registry config) (fun world => Retried id world ∧ Publishable registry config id world) empty
      steps := by
  have promised : ∀ world, Inv registry id world → Retried id world ∧ Publishable registry config id world :=
    fun _ inv => ⟨inv.retried, inv.publishable⟩
  have preserved (world : QueueWorld) (event : QueueStep) (inv : Inv registry id world)
      (guarded : Deliverable config id world event) : Inv registry id (step registry config world event) :=
    step_inv inv event guarded
  exact along_of_meets preserved promised (empty_inv registry id) deliverable

def publishedSteps : List QueueStep :=
  [.outbox (.publish "event" 0 OutboxWorld.studentCreated), .outbox (.dispatch 100 0), .outbox (.enqueued 0),
    .start "event", .outbox (.work 0 0 (.ok ())), .outbox (.work 0 0 (.ok ())), .outbox (.work 0 0 (.ok ()))]

theorem claims_are_executed_of_deliverable_published :
    Along (step OutboxWorld.studentRegistry OutboxWorld.defaultConfig)
      (fun world => Retried "event" world ∧
        Publishable OutboxWorld.studentRegistry OutboxWorld.defaultConfig "event" world) empty publishedSteps := by
  apply claims_are_executed_of_deliverable
  refine ⟨trivial, trivial, ?_, trivial, trivial, trivial, trivial, trivial⟩
  intro round found claimed event member own
  exact .inl rfl

def fails : QueueStep → Bool
  | .outbox (.work _ _ (.error _)) => true
  | _ => false

/-- The consumer fails once; the next round claims the event, and the queue ignores its job. -/
def retriedSteps : List QueueStep :=
  [.outbox (.publish "event" 0 OutboxWorld.studentCreated), .outbox (.dispatch 100 0), .outbox (.enqueued 0),
    .start "event", .outbox (.work 0 0 (.ok ())), .outbox (.work 0 0 (.error "Connection terminated")),
    .outbox (.work 0 0 (.ok ())), .outbox (.dispatch 100 5000), .outbox (.enqueued 1)]

theorem failed_event_is_not_executed_again :
    ¬ ∀ (registry : String → List String) (config : EventsConfig) (id : String) (steps : List QueueStep),
      steps.countP fails < config.maxAttempts →
        Along (step registry config) (fun world => Retried id world ∧ Publishable registry config id world)
          empty steps := by
  intro always
  have retried := (run_of_along (always OutboxWorld.studentRegistry OutboxWorld.defaultConfig "event" retriedSteps
    (by decide))).1
  exact absurd retried (by decide +kernel)

end QueueWorld

end ShuleHub.Events
