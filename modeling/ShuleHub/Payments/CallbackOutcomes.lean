import ShuleHub.Payments.CallbackDelivery

/-! Which deliveries are accepted, and what an accepted delivery leaves in the log and in the queue. -/

namespace ShuleHub.Payments

open Transaction TenantFinance KeyedTable Outcome

def Storable (runtime : CallbackRuntime) (db : CallbackDb) (log : CallbackLogEntity) : Prop :=
  ¬ isBlank log.deliveryId ∧ ¬ isBlank log.requestFingerprint ∧ runtime.accepts log = true ∧
    ∀ other ∈ db.callbackLogs.rows, other.id ≠ log.id
deriving Decidable

def QueueTakes (reply : QueueReply) (jobs : KeyedTable PaymentJob String (·.id)) (jobId : String) : Prop :=
  match reply with
  | .answers => True
  | .getJobFails _ => False
  | .addFails message raced =>
    (jobs.find jobId).isSome = true ∨ isDuplicateJobError message = true ∧ raced.isSome = true
  | .getStateFails _ => False

instance (reply : QueueReply) (jobs : KeyedTable PaymentJob String (·.id)) (jobId : String) :
    Decidable (QueueTakes reply jobs jobId) := by
  unfold QueueTakes
  split <;> infer_instance

def Replays (world : CallbackWorld) (tenantId deliveryId : String) : Prop :=
  buildReplayKey tenantId deliveryId ∈ world.replayKeys
deriving Decidable

/-- The replay store answers, and so does the queue if it is asked. -/
def Answered (request : CallbackRequest) (world : CallbackWorld) (tenantId deliveryId : String)
    (parsed : ParsedCallbackPayload) : Prop :=
  request.replayStoreFailure = none ∧ (¬ Replays world tenantId deliveryId →
    QueueTakes request.queueReply world.jobs (buildJobId tenantId parsed.checkoutRequestId))

structure Marks (statuses : List CallbackLogStatus) (change : CallbackLogEntity → CallbackLogEntity) : Prop where
  kept : ∀ log, (change log).id = log.id
  sameTenant : ∀ log, (change log).tenantId = log.tenantId
  marked : ∀ log, (change log).processingStatus ∈ statuses

theorem marks_queue (now : Int) (queueJobId : String) : Marks [.queued, .processed] (queue now queueJobId) :=
  ⟨fun _ => rfl, fun _ => rfl, fun _ => List.mem_cons_self⟩

theorem marks_settle (now : Int) {status : CallbackLogStatus} {statuses : List CallbackLogStatus}
    (listed : status ∈ statuses) (failureReason : Option String) : Marks statuses (settle now status failureReason) :=
  ⟨fun _ => rfl, fun _ => rfl, fun _ => listed⟩

section Log

variable {runtime : CallbackRuntime} {db after : CallbackDb} {log : CallbackLogEntity}

theorem insertLog_ok : insertLog runtime log db = .ok after ↔
    Storable runtime db log ∧ ∃ fresh : ∀ other ∈ db.callbackLogs.rows, other.id ≠ log.id,
      after = { db with callbackLogs := db.callbackLogs.insert log fresh } := by
  unfold insertLog Storable
  simp only [bind_ok, failIf_ok]
  constructor
  · rintro ⟨_, delivery, _, fingerprint, _, accepted, inserted⟩
    split at inserted
    · cases inserted
    · next callbackLogs added =>
      obtain ⟨fresh, rfl⟩ := (tryInsert_eq_some _).mp added
      rw [pure_ok] at inserted
      exact ⟨⟨delivery, fingerprint, by simpa using accepted, fresh⟩, fresh, inserted.symm⟩
  · rintro ⟨⟨delivery, fingerprint, accepted, _⟩, fresh, rfl⟩
    have added := (tryInsert_eq_some db.callbackLogs).mpr ⟨fresh, rfl⟩
    refine ⟨(), delivery, (), fingerprint, (), by simp [accepted], ?_⟩
    rw [added]
    rfl

theorem updateLog_rows {statuses : List CallbackLogStatus} {change : CallbackLogEntity → CallbackLogEntity}
    (marks : Marks statuses change) (fresh : ∀ other ∈ db.callbackLogs.rows, other.id ≠ log.id) :
    ((({ db with callbackLogs := db.callbackLogs.insert log fresh } : CallbackDb).updateLog log.tenantId log.id change
      marks.kept).callbackLogs).rows = db.callbackLogs.rows ++ [change log] := by
  have own : ofTenant log.tenantId change log = change log := if_pos rfl
  have rows := rows_update_insert (ofTenant_id log.tenantId marks.kept) fresh
  rw [own] at rows
  exact rows

end Log

section Queue

variable {reply : QueueReply} {now : Int} {tenantId callbackLogId : String} {checkoutRequestId : Json}
  {world after : CallbackWorld}

theorem enqueuePayment_run :
    (QueueTakes reply world.jobs (buildJobId tenantId checkoutRequestId) ∧ ∃ jobs result,
      (enqueuePayment reply now tenantId checkoutRequestId callbackLogId).run world = ({ world with jobs }, .ok result) ∧
        (jobs.find (buildJobId tenantId checkoutRequestId)).isSome = true) ∨
    (¬ QueueTakes reply world.jobs (buildJobId tenantId checkoutRequestId) ∧ ∃ after error,
      (enqueuePayment reply now tenantId checkoutRequestId callbackLogId).run world = (after, .error error)) := by
  have here (jobs : KeyedTable PaymentJob String (·.id)) (job : PaymentJob)
      (own : job.id = buildJobId tenantId checkoutRequestId) :
      ((jobs.put job).find (buildJobId tenantId checkoutRequestId)).isSome = true := by
    rw [find_put, if_pos own.symm]
    rfl
  cases found : world.jobs.find (buildJobId tenantId checkoutRequestId) with
  | some existingJob =>
    have present : (world.jobs.find (buildJobId tenantId checkoutRequestId)).isSome = true := by rw [found]; rfl
    cases reply with
    | answers =>
      refine .inl ⟨trivial, ?_⟩
      simp only [enqueuePayment, getJob, mapQueueResult, Effect.run_bind, Effect.run_current, Effect.run_pure, found]
      exact ⟨world.jobs, _, rfl, present⟩
    | getJobFails message => exact .inr ⟨id, world, .internal message, rfl⟩
    | addFails message raced =>
      refine .inl ⟨.inl present, ?_⟩
      simp only [enqueuePayment, getJob, mapQueueResult, Effect.run_bind, Effect.run_current, Effect.run_pure, found]
      exact ⟨world.jobs, _, rfl, present⟩
    | getStateFails message =>
      refine .inr ⟨id, world, .internal message, ?_⟩
      simp only [enqueuePayment, getJob, mapQueueResult, Effect.run_bind, Effect.run_current, Effect.run_pure,
        Effect.run_fail, found]
  | none =>
    cases reply with
    | answers =>
      refine .inl ⟨trivial, ?_⟩
      simp only [enqueuePayment, getJob, addJob, mapQueueResult, Effect.run_bind, Effect.run_attempt,
        Effect.run_current, Effect.run_write, Effect.run_pure, found]
      exact ⟨_, _, rfl, here world.jobs _ rfl⟩
    | getJobFails message => exact .inr ⟨id, world, .internal message, rfl⟩
    | addFails message raced =>
      have reported : (Exception.internal message).message = message := rfl
      cases raced with
      | some state =>
        by_cases recognised : isDuplicateJobError message = true
        · refine .inl ⟨.inr ⟨recognised, rfl⟩, ?_⟩
          simp only [enqueuePayment, getJob, addJob, mapQueueResult, Effect.run_bind, Effect.run_attempt,
            Effect.run_current, Effect.run_write, Effect.run_pure, Effect.run_fail, found, reported, recognised,
            if_true, find_put]
          exact ⟨_, _, rfl, here world.jobs _ rfl⟩
        · have refused : ¬ QueueTakes (.addFails message (some state)) world.jobs
              (buildJobId tenantId checkoutRequestId) := by
            rintro (earlier | ⟨duplicate, _⟩)
            · rw [found] at earlier
              cases earlier
            · exact recognised duplicate
          refine .inr ⟨refused, ?_⟩
          simp only [enqueuePayment, getJob, addJob, Effect.run_bind, Effect.run_attempt, Effect.run_current,
            Effect.run_write, Effect.run_pure, Effect.run_fail, found, reported, recognised]
          exact ⟨_, _, rfl⟩
      | none =>
        have refused : ¬ QueueTakes (.addFails message none) world.jobs (buildJobId tenantId checkoutRequestId) := by
          rintro (earlier | ⟨_, other⟩)
          · rw [found] at earlier
            cases earlier
          · cases other
        refine .inr ⟨refused, ?_⟩
        simp only [enqueuePayment, getJob, addJob, Effect.run_bind, Effect.run_attempt, Effect.run_current,
          Effect.run_pure, Effect.run_fail, found, reported]
        split
        · simp only [Effect.run_bind, Effect.run_current, Effect.run_pure, Effect.run_fail, found]
          exact ⟨_, _, rfl⟩
        · exact ⟨_, _, rfl⟩
    | getStateFails message =>
      refine .inr ⟨id, ?_⟩
      simp only [enqueuePayment, getJob, addJob, mapQueueResult, Effect.run_bind, Effect.run_attempt,
        Effect.run_current, Effect.run_write, Effect.run_pure, Effect.run_fail, found]
      exact ⟨_, _, rfl⟩

theorem enqueuePayment_ok {result : EnqueuePaymentJobResult}
    (ran : (enqueuePayment reply now tenantId checkoutRequestId callbackLogId).run world = (after, .ok result)) :
    QueueTakes reply world.jobs (buildJobId tenantId checkoutRequestId) ∧ after = { world with jobs := after.jobs } ∧
      (after.jobs.find (buildJobId tenantId checkoutRequestId)).isSome = true := by
  rcases @enqueuePayment_run reply now tenantId callbackLogId checkoutRequestId world with
    ⟨takes, jobs, answer, same, present⟩ | ⟨_, _, _, failed⟩
  · rw [same] at ran
    cases ran
    exact ⟨takes, rfl, present⟩
  · rw [failed] at ran
    cases ran

variable (now callbackLogId) in
theorem enqueuePayment_of_takes (takes : QueueTakes reply world.jobs (buildJobId tenantId checkoutRequestId)) :
    ∃ after result,
      (enqueuePayment reply now tenantId checkoutRequestId callbackLogId).run world = (after, .ok result) := by
  rcases @enqueuePayment_run reply now tenantId callbackLogId checkoutRequestId world with
    ⟨_, jobs, answer, same, _⟩ | ⟨refused, _⟩
  · exact ⟨_, answer, same⟩
  · exact absurd takes refused

end Queue

section Request

variable {runtime : CallbackRuntime} {request : CallbackRequest} {tenantId deliveryId : String}
  {parsed : ParsedCallbackPayload} {world after : CallbackWorld} {response : MpesaCallbackResponse}
  {done : Unit} {inspection : CallbackVerificationResult} {resolved : ResolvedCallbackTenant}

theorem enqueueCallback_ok (ran : (enqueueCallback request tenantId parsed).run world = (after, .ok response)) :
    QueueTakes request.queueReply world.jobs (buildJobId tenantId parsed.checkoutRequestId) ∧
      (after.jobs.find (buildJobId tenantId parsed.checkoutRequestId)).isSome = true ∧
      ∃ change, ∃ marks : Marks [.queued, .processed] change,
        after.db = world.db.updateLog tenantId request.newLogId change marks.kept := by
  rw [enqueueCallback, Effect.run_bind, Effect.run_attempt] at ran
  cases enqueued : (enqueuePayment request.queueReply request.now tenantId parsed.checkoutRequestId
      request.newLogId).run world with
  | mk middle outcome =>
    rw [enqueued] at ran
    cases outcome with
    | error error =>
      simp only [Effect.run_bind_ok, Effect.run_fail, Prod.mk.injEq, reduceCtorEq, and_false, exists_false] at ran
    | ok result =>
      obtain ⟨takes, same, present⟩ := enqueuePayment_ok enqueued
      simp only [Effect.run_bind_ok, Effect.run_pure_ok] at ran
      obtain ⟨_, marked, ran, rfl, rfl⟩ := ran
      have database : middle.db = world.db := by rw [same]
      split at ran
      · obtain rfl := Effect.run_write_ok.mp ran
        rw [database]
        exact ⟨takes, present, _, marks_settle request.now (by simp) none, rfl⟩
      · obtain rfl := Effect.run_write_ok.mp ran
        rw [database]
        exact ⟨takes, present, _, marks_queue request.now result.jobId, rfl⟩

theorem enqueueCallback_of_takes
    (takes : QueueTakes request.queueReply world.jobs (buildJobId tenantId parsed.checkoutRequestId)) :
    ∃ after response, (enqueueCallback request tenantId parsed).run world = (after, .ok response) := by
  obtain ⟨middle, result, enqueued⟩ := enqueuePayment_of_takes request.now request.newLogId takes
  rw [enqueueCallback, Effect.run_bind, Effect.run_attempt, enqueued]
  by_cases completed : result.deduplicated = true ∧ result.state = .completed
  · exact ⟨_, _, by simp only [if_pos completed]; rfl⟩
  · exact ⟨_, _, by simp only [if_neg completed]; rfl⟩

def acceptedStatuses (world : CallbackWorld) (tenantId deliveryId : String) : List CallbackLogStatus :=
  if Replays world tenantId deliveryId then [.replayed] else [.queued, .processed]

structure Filed (request : CallbackRequest) (tenantId deliveryId : String) (parsed : ParsedCallbackPayload)
    (world after : CallbackWorld) : Prop where
  queued : ¬ Replays world tenantId deliveryId →
    (after.jobs.find (buildJobId tenantId parsed.checkoutRequestId)).isSome = true
  untouched : Replays world tenantId deliveryId → after.jobs = world.jobs
  marked : ∃ change, ∃ marks : Marks (acceptedStatuses world tenantId deliveryId) change,
    after.db = world.db.updateLog tenantId request.newLogId change marks.kept

theorem registerDelivery_run (store : request.replayStoreFailure = none) :
    (registerDelivery request tenantId deliveryId).run world =
      if Replays world tenantId deliveryId then (world, .ok false)
      else ({ world with replayKeys := world.replayKeys ++ [buildReplayKey tenantId deliveryId] }, .ok true) := by
  rw [registerDelivery, store, Effect.run_bind, Effect.run_current]
  by_cases replays : Replays world tenantId deliveryId
  · rw [if_pos replays]
    exact congrArg (fun action => Effect.run action world) (if_pos replays)
  · rw [if_neg replays]
    exact congrArg (fun action => Effect.run action world) (if_neg replays)

theorem registerDelivery_failed {message : String} (store : request.replayStoreFailure = some message) :
    (registerDelivery request tenantId deliveryId).run world = (world, .error (.internal message)) := by
  rw [registerDelivery, store]
  rfl

theorem acceptCallback_ok (ran : (acceptCallback request tenantId deliveryId parsed).run world = (after, .ok response)) :
    Answered request world tenantId deliveryId parsed ∧ Filed request tenantId deliveryId parsed world after := by
  rw [acceptCallback] at ran
  cases store : request.replayStoreFailure with
  | some message =>
    rw [Effect.run_bind_of_error (registerDelivery_failed store)] at ran
    cases ran
  | none =>
    rw [Effect.run_bind, registerDelivery_run store] at ran
    by_cases replays : Replays world tenantId deliveryId
    · rw [if_pos replays] at ran
      cases ran
      have marks : Marks (acceptedStatuses world tenantId deliveryId) (settle request.now .replayed none) :=
        marks_settle request.now (by simp [acceptedStatuses, replays]) none
      exact ⟨⟨store, fun fresh => absurd replays fresh⟩, fun fresh => absurd replays fresh, fun _ => rfl, _, marks, rfl⟩
    · rw [if_neg replays] at ran
      obtain ⟨takes, present, change, marks, database⟩ := enqueueCallback_ok ran
      have marks' : Marks (acceptedStatuses world tenantId deliveryId) change := by
        rw [acceptedStatuses, if_neg replays]
        exact marks
      exact ⟨⟨store, fun _ => takes⟩, fun _ => present, fun known => absurd known replays, change, marks', database⟩

theorem acceptCallback_of_answered (answered : Answered request world tenantId deliveryId parsed) :
    ∃ after response, (acceptCallback request tenantId deliveryId parsed).run world = (after, .ok response) := by
  rw [acceptCallback, Effect.run_bind, registerDelivery_run answered.1]
  by_cases replays : Replays world tenantId deliveryId
  · rw [if_pos replays]
    exact ⟨_, _, rfl⟩
  · rw [if_neg replays]
    exact enqueueCallback_of_takes (answered.2 replays)

theorem orReject_ok {A : Type} {check : Except Exception A} {value : A} :
    (orReject request tenantId check).run world = (after, .ok value) ↔ check = .ok value ∧ world = after := by
  cases check with
  | ok found => simp only [orReject, Effect.run_pure_ok, Except.ok.injEq]
  | error error =>
    simp only [orReject, Effect.run_bind_ok, Effect.run_fail, Prod.mk.injEq, reduceCtorEq, and_false, exists_false,
      false_and]

theorem createLog_ok {log : CallbackLogEntity} :
    (createLog runtime log).run world = (after, .ok done) ↔
      ∃ db, insertLog runtime log world.db = .ok db ∧ { world with db } = after := by
  simp only [createLog, Effect.run_bind_ok, Effect.run_current, Effect.run_lift_ok, Effect.run_write_ok,
    Prod.mk.injEq, Except.ok.injEq]
  constructor
  · rintro ⟨_, _, ⟨rfl, rfl⟩, db, _, ⟨inserted, rfl⟩, rfl⟩
    exact ⟨db, inserted, rfl⟩
  · rintro ⟨db, inserted, rfl⟩
    exact ⟨_, _, ⟨rfl, rfl⟩, db, _, ⟨inserted, rfl⟩, rfl⟩

def Owned (runtime : CallbackRuntime) (request : CallbackRequest) (db : CallbackDb) (tenantId : String)
    (parsed : ParsedCallbackPayload) : Prop :=
  request.integrationId = none → assertCallbackBelongsToTenant runtime db tenantId request.body parsed = .ok ()

theorem assertOwnership_ok : (assertOwnership runtime request tenantId parsed).run world = (after, .ok done) ↔
    Owned runtime request world.db tenantId parsed ∧ world = after := by
  unfold assertOwnership Owned
  cases request.integrationId with
  | some integrationId => simp only [Effect.run_pure_ok, reduceCtorEq, false_implies, true_and]
  | none =>
    simp only [Effect.run_bind_ok, Effect.run_current, orReject_ok, Prod.mk.injEq, Except.ok.injEq, true_implies]
    constructor
    · rintro ⟨_, _, ⟨rfl, rfl⟩, owned, rfl⟩
      exact ⟨owned, rfl⟩
    · rintro ⟨owned, rfl⟩
      exact ⟨_, _, ⟨rfl, rfl⟩, owned, rfl⟩

theorem verifyCallback_ok {now : Int} {rawBody : String} {headers : IncomingHttpHeaders}
    {result : CallbackVerificationResult} {signatures : SignatureRuntime}
    (verified : verifyCallback signatures now rawBody headers inspection = .ok result) : result = inspection := by
  unfold verifyCallback at verified
  split at verified
  · cases verified
  split at verified
  · cases verified
  split at verified
  · cases verified
  simp only [bind_ok, pure_ok] at verified
  obtain ⟨_, _, _, _, _, _, _, _, rfl⟩ := verified
  rfl

/-- A delivery that nothing in the handler turns away, once it has a tenant. -/
structure Admitted (runtime : CallbackRuntime) (request : CallbackRequest) (world : CallbackWorld)
    (resolved : ResolvedCallbackTenant) (inspection : CallbackVerificationResult) (parsed : ParsedCallbackPayload) :
    Prop where
  inspected : inspectCallback runtime.toSignatureRuntime (getRawBody request) request.headers = .ok inspection
  parses : parseCallbackPayload request.body = .ok parsed
  verified : verifyCallback runtime.toSignatureRuntime request.now (getRawBody request) request.headers inspection =
    .ok inspection
  storable : Storable runtime world.db (receivedLog runtime request inspection (some parsed) true resolved)
  owned : Owned runtime request world.db resolved.tenantId parsed
  answered : Answered request world resolved.tenantId inspection.deliveryId parsed

structure Delivered (request : CallbackRequest) (world after : CallbackWorld) (tenantId deliveryId : String)
    (parsed : ParsedCallbackPayload) : Prop where
  logged : ∃ log, after.db.callbackLogs.rows = world.db.callbackLogs.rows ++ [log] ∧ log.id = request.newLogId ∧
    log.tenantId = tenantId ∧ log.processingStatus ∈ acceptedStatuses world tenantId deliveryId
  queued : ¬ Replays world tenantId deliveryId →
    (after.jobs.find (buildJobId tenantId parsed.checkoutRequestId)).isSome = true
  untouched : Replays world tenantId deliveryId → after.jobs = world.jobs

theorem handleCallbackInternal_ok (ran : (handleCallbackInternal runtime request).run world = (after, .ok response)) :
    ∃ resolved inspection parsed,
      resolveCallbackTenant runtime world.db request.body (some parsed) request.contextTenantId request.integrationId =
          .ok resolved ∧
        Admitted runtime request world resolved inspection parsed ∧
        Delivered request world after resolved.tenantId inspection.deliveryId parsed := by
  simp only [handleCallbackInternal, Effect.run_bind_ok, Effect.run_lift_ok, Effect.run_current, createLog_ok,
    orReject_ok, assertOwnership_ok, Prod.mk.injEq, Except.ok.injEq] at ran
  obtain ⟨inspection, _, ⟨inspected, rfl⟩, _, _, ⟨rfl, rfl⟩, resolved, _, ⟨resolves, rfl⟩, _, _, ⟨db, inserted, rfl⟩,
    parsed, _, ⟨parses, rfl⟩, verification, _, ⟨verified, rfl⟩, _, _, ⟨owned, rfl⟩, ran⟩ := ran
  have parses := mapError_ok.mp parses
  obtain rfl := verifyCallback_ok verified
  rw [parses] at resolves inserted
  rw [verified] at inserted
  obtain ⟨storable, fresh, rfl⟩ := insertLog_ok.mp inserted
  obtain ⟨answered, filed⟩ := acceptCallback_ok ran
  obtain ⟨change, marks, database⟩ := filed.marked
  let log := receivedLog runtime request verification (some parsed) true resolved
  have rows : after.db.callbackLogs.rows = world.db.callbackLogs.rows ++ [change log] := by
    rw [database]
    exact updateLog_rows marks fresh
  exact ⟨resolved, verification, parsed, resolves, ⟨inspected, parses, verified, storable, owned, answered⟩,
    ⟨change log, rows, marks.kept log, marks.sameTenant log, marks.marked log⟩, filed.queued, filed.untouched⟩

theorem handleCallbackInternal_of_admitted
    (resolves : resolveCallbackTenant runtime world.db request.body (some parsed) request.contextTenantId
      request.integrationId = .ok resolved) (admitted : Admitted runtime request world resolved inspection parsed) :
    ∃ after response, (handleCallbackInternal runtime request).run world = (after, .ok response) := by
  let log := receivedLog runtime request inspection (some parsed) true resolved
  let db : CallbackDb := { world.db with callbackLogs := world.db.callbackLogs.insert log admitted.storable.2.2.2 }
  have answered : Answered request { world with db } resolved.tenantId inspection.deliveryId parsed := admitted.answered
  obtain ⟨after, response, accepted⟩ := acceptCallback_of_answered answered
  refine ⟨after, response, ?_⟩
  simp only [handleCallbackInternal, Effect.run_bind_ok, Effect.run_lift_ok, Effect.run_current, createLog_ok,
    orReject_ok, assertOwnership_ok, Prod.mk.injEq, Except.ok.injEq]
  have inserted : insertLog runtime log world.db = .ok db :=
    insertLog_ok.mpr ⟨admitted.storable, admitted.storable.2.2.2, rfl⟩
  refine ⟨inspection, world, ⟨admitted.inspected, rfl⟩, world, world, ⟨rfl, rfl⟩, resolved, world, ⟨?_, rfl⟩, (),
    { world with db }, ⟨db, ?_, rfl⟩, parsed, _, ⟨mapError_ok.mpr admitted.parses, rfl⟩, inspection, _,
    ⟨admitted.verified, rfl⟩, (), _, ⟨admitted.owned, rfl⟩, accepted⟩
  · rw [admitted.parses]
    exact resolves
  · rw [admitted.parses, admitted.verified]
    exact inserted

theorem delivered_of_admitted
    (resolves : resolveCallbackTenant runtime world.db request.body (some parsed) request.contextTenantId
      request.integrationId = .ok resolved) (admitted : Admitted runtime request world resolved inspection parsed) :
    ∃ after response, (handleCallbackInternal runtime request).run world = (after, .ok response) ∧
      Delivered request world after resolved.tenantId inspection.deliveryId parsed := by
  obtain ⟨after, response, ran⟩ := handleCallbackInternal_of_admitted resolves admitted
  obtain ⟨resolved', inspection', parsed', resolves', admitted', delivered⟩ := handleCallbackInternal_ok ran
  have sameInspection := admitted'.inspected.symm.trans admitted.inspected
  have sameParsed := admitted'.parses.symm.trans admitted.parses
  cases sameInspection
  cases sameParsed
  cases resolves'.symm.trans resolves
  exact ⟨after, response, ran, delivered⟩

theorem deliver_of_ok (ran : (handleCallbackInternal runtime request).run world = (after, .ok response)) :
    deliver runtime request world = (after, .ok response) := by
  rw [deliver, ran]
  rfl

theorem deliver_of_error {error : Exception}
    (ran : (handleCallbackInternal runtime request).run world = (after, .error error)) :
    deliver runtime request world = ({ after with db := world.db }, .error error) := by
  rw [deliver, ran]
  cases error <;> rfl

theorem run_of_deliver_ok (delivered : (deliver runtime request world).2.isOk = true) :
    ∃ after response, (handleCallbackInternal runtime request).run world = (after, .ok response) := by
  cases ran : (handleCallbackInternal runtime request).run world with
  | mk after outcome =>
    cases outcome with
    | ok response => exact ⟨after, response, rfl⟩
    | error error =>
      rw [deliver_of_error ran] at delivered
      cases delivered

end Request

end ShuleHub.Payments
