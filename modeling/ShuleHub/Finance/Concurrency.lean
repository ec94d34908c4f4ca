import ShuleHub.Lib.Locking
import ShuleHub.Finance.Books

/-! Concurrent calls of `postTransaction`: the order in which each of them locks and reads, and the
serial run that any interleaving of them amounts to. -/

namespace ShuleHub.Finance

open Transaction Idempotency Locking

variable {context : CallContext} {input : PostFinancialTransactionInput} {reference description : String}
  {db after : FinanceDb} {response : PostedFinancialTransaction} (runtime : Runtime)

structure PostingRequest where
  context : CallContext
  input : PostFinancialTransactionInput

variable (request : PostingRequest)

inductive PostingLock where
  /-- `pg_advisory_xact_lock` on the tenant and the reference. -/
  | reference (reference : String)
  /-- The key row, which an uncommitted insert locks as `SELECT ... FOR UPDATE` does. -/
  | idempotencyKey (idempotencyKey : String)
  | idempotencyId (id : String)
deriving DecidableEq

abbrev KeyRecord := IdempotencyRecord PostedFinancialTransaction

variable {record : KeyRecord}

inductive PostingView where
  | begun
  | holdsReference (reference description : String)
  | holdsKey (reference description : String) (record : KeyRecord)
  | knowsReference (reference description : String) (record : KeyRecord)
      (existing : Option FinancialTransactionEntity)
  | failed (error : Exception)

def postingTexts (input : PostFinancialTransactionInput) : Except Exception (String × String) := do
  let reference ← requireNonEmptyText input.reference "reference"
  let description ← requireNonEmptyText input.description "description"
  return (reference, description)

def postingKeyLock : Except Exception IdempotencyRequestLock := do
  let idempotencyKey ← requireNonEmptyText request.input.idempotencyKey "idempotency_key"
  let requestHash ← buildIdempotencyHash runtime request.input
  return requestLock runtime request.context idempotencyKey requestHash

def lockedRecord (db : FinanceDb) : Except Exception KeyRecord :=
  ((lockIdempotencyKey runtime request.context request.input).run db).map Prod.fst

def postingStage : PostingView → FinanceDb → PostingView
  | .begun, _ =>
    match postingTexts request.input with
    | .ok (reference, description) => .holdsReference reference description
    | .error error => .failed error
  | .holdsReference reference description, db =>
    match lockedRecord runtime request db with
    | .ok record => .holdsKey reference description record
    | .error error => .failed error
  | .holdsKey reference description record, db =>
    .knowsReference reference description record (findByReference db reference)
  | view, _ => view

section Stages

variable {runtime : Runtime} {request : PostingRequest} {db : FinanceDb} {reference description : String}

theorem postingStage_begun : postingStage runtime request .begun db =
    match postingTexts request.input with
    | .ok (reference, description) => .holdsReference reference description
    | .error error => .failed error := rfl

theorem postingStage_holdsReference :
    postingStage runtime request (.holdsReference reference description) db =
      match lockedRecord runtime request db with
      | .ok record => .holdsKey reference description record
      | .error error => .failed error := rfl

theorem postingStage_holdsKey (record : KeyRecord) :
    postingStage runtime request (.holdsKey reference description record) db =
      .knowsReference reference description record (findByReference db reference) := rfl

theorem postingStage_knowsReference (record : KeyRecord) (existing : Option FinancialTransactionEntity) :
    postingStage runtime request (.knowsReference reference description record existing) db =
      .knowsReference reference description record existing := rfl

theorem postingStage_failed (error : Exception) :
    postingStage runtime request (.failed error) db = .failed error := rfl

end Stages

/-- The row locks on accounts are left out: no call changes an account, so they only delay. -/
def postingLocks (stages : Nat) : List PostingLock :=
  match postingTexts request.input with
  | .error _ => []
  | .ok (reference, _) =>
    if stages = 0 then []
    else if stages = 1 then [.reference reference]
    else
      match postingKeyLock runtime request with
      | .error _ => [.reference reference]
      | .ok lock =>
        [.reference reference, .idempotencyKey lock.idempotencyKey,
          .idempotencyId request.context.newIdempotencyId]

/-- A call that finds its key completed answers without looking for the reference. -/
@[grind =] def postingReady : PostingView → Bool
  | .begun => false
  | .holdsReference _ _ => false
  | .holdsKey _ _ record => record.status = .completed && record.responseBody.isSome
  | .knowsReference _ _ _ _ => true
  | .failed _ => true

/-- The rest of the call on what it has read, and its commit: only now is the key row that it wrote
seen by others. -/
def settlePosting (reference description : String)
    (record : KeyRecord) (existing : Option FinancialTransactionEntity) :
    Transaction FinanceDb Exception PostedFinancialTransaction := do
  onKeys (write (putRecord record))
  answerLocked runtime request.context request.input reference description record fun _ => existing

def postingSettle (view : PostingView) (db : FinanceDb) :
    FinanceDb × Except Exception PostedFinancialTransaction :=
  match view with
  | .begun | .holdsReference _ _ => (db, .error (.internal "unfinished"))
  | .holdsKey reference description record =>
    attempt (settlePosting runtime request reference description record none) db
  | .knowsReference reference description record existing =>
    attempt (settlePosting runtime request reference description record existing) db
  | .failed error => (db, .error error)

def postingProtocol : Protocol FinanceDb PostingRequest PostingLock PostingView
    (Except Exception PostedFinancialTransaction) where
  start _ := .begun
  stage request _ view db := postingStage runtime request view db
  held request stages _ := postingLocks runtime request stages
  ready _ _ view := postingReady view
  settle request view db := postingSettle runtime request view db

def postAtomically (db : FinanceDb) :
    FinanceDb × Except Exception PostedFinancialTransaction :=
  attempt (postTransaction runtime request.context request.input) db

section Protocol

variable (runtime : Runtime) (request : PostingRequest) (stages : Nat) (view : PostingView) (db : FinanceDb)

theorem postingProtocol_stage :
    (postingProtocol runtime).stage request stages view db = postingStage runtime request view db := by
  simp only [postingProtocol]

theorem postingProtocol_held :
    (postingProtocol runtime).held request stages view = postingLocks runtime request stages := by
  simp only [postingProtocol]

theorem postingProtocol_ready : (postingProtocol runtime).ready request stages view = postingReady view := by
  simp only [postingProtocol]

theorem postingProtocol_settle :
    (postingProtocol runtime).settle request view db = postingSettle runtime request view db := by
  simp only [postingProtocol]

end Protocol

def DistinctKeys (db : FinanceDb) : Prop := (db.idempotencyKeys.map (·.id)).Nodup

variable {runtime request}

theorem lockIdempotencyKey_run (runtime : Runtime) (request : PostingRequest) (db : FinanceDb) :
    (lockIdempotencyKey runtime request.context request.input).run db =
      match postingKeyLock runtime request with
      | .error error => .error error
      | .ok lock => (onKeys (lockRequest request.context.now request.context.newIdempotencyId lock)).run db := by
  unfold lockIdempotencyKey postingKeyLock
  rw [run_bind, run_lift]
  cases requireNonEmptyText request.input.idempotencyKey "idempotency_key" with
  | error error => rfl
  | ok idempotencyKey =>
    simp only [Except.map]
    rw [run_bind, run_lift]
    cases buildIdempotencyHash runtime request.input <;> rfl

theorem postTransaction_run (runtime : Runtime) (request : PostingRequest) (db : FinanceDb) :
    (postTransaction runtime request.context request.input).run db =
      match postingTexts request.input with
      | .error error => .error error
      | .ok (reference, description) =>
        match (lockIdempotencyKey runtime request.context request.input).run db with
        | .error error => .error error
        | .ok (record, middle) =>
          (answerLocked runtime request.context request.input reference description record
            fun db => findByReference db reference).run middle := by
  unfold postTransaction postingTexts
  rw [run_bind, run_lift]
  cases requireNonEmptyText request.input.reference "reference" with
  | error error => rfl
  | ok reference =>
    simp only [Except.map]
    rw [run_bind, run_lift]
    cases requireNonEmptyText request.input.description "description" with
    | error error => rfl
    | ok description =>
      simp only [Except.map]
      rw [run_bind]
      cases (lockIdempotencyKey runtime request.context request.input).run db <;> rfl

theorem lockedRecord_eq (runtime : Runtime) (request : PostingRequest) (db : FinanceDb) :
    lockedRecord runtime request db =
      match postingKeyLock runtime request with
      | .error error => .error error
      | .ok lock =>
        lockAnswer request.context.now request.context.newIdempotencyId lock
          (recordFor lock.scope lock.idempotencyKey db.idempotencyKeys)
          (∃ record ∈ db.idempotencyKeys, record.id = request.context.newIdempotencyId) := by
  unfold lockedRecord
  rw [lockIdempotencyKey_run]
  cases postingKeyLock runtime request with
  | error error => rfl
  | ok lock =>
    simp only
    rw [← lockRequest_answer]
    change Except.map Prod.fst (Except.map _ ((lockRequest _ _ lock).run db.idempotencyKeys)) = _
    cases (lockRequest request.context.now request.context.newIdempotencyId lock).run db.idempotencyKeys <;> rfl

theorem answerLocked_congr
    {first second : FinanceDb → Option FinancialTransactionEntity} (same : first db = second db) :
    (answerLocked runtime context input reference description record first).run db =
      (answerLocked runtime context input reference description record second).run db := by
  unfold answerLocked
  split
  · rfl
  · unfold postLocked
    rw [run_bind, run_bind, run_current]
    simp only [same]

theorem lockIdempotencyKey_put {middle : FinanceDb} (distinct : DistinctKeys db)
    (locked : (lockIdempotencyKey runtime request.context request.input).run db = .ok (record, middle)) :
    middle = { db with idempotencyKeys := putRecord record db.idempotencyKeys } := by
  obtain ⟨_, _, keys, -, -, answered, rfl⟩ := lockIdempotencyKey_ok locked
  rw [lockRequest_put distinct answered]

structure CallFrame (reference idempotencyKey id : String) (db after : FinanceDb) : Prop where
  chart : after.toChartOfAccounts = db.toChartOfAccounts
  references : ∀ other, other ≠ reference → findByReference after other = findByReference db other
  keys : OthersKept financeIdempotencyScope idempotencyKey id db.idempotencyKeys after.idempotencyKeys

theorem findByReference_append {row : FinancialTransactionEntity}
    (differs : row.reference ≠ reference) (ledgerEntries : List LedgerEntryEntity)
    (idempotencyKeys : List KeyRecord) :
    findByReference { db with transactions := db.transactions ++ [row], ledgerEntries, idempotencyKeys } reference =
      findByReference db reference := by
  unfold findByReference
  rw [List.find?_append]
  simp [differs]

theorem settles_frame
    {idempotencyKey : String} (id : String) (distinct : DistinctKeys db) (present : record ∈ db.idempotencyKeys)
    (own : record.idempotencyKey = idempotencyKey)
    (settles : Settles runtime context input reference description record db response after) :
    CallFrame reference idempotencyKey id db after := by
  cases settles with
  | reused postingPlan existing response =>
    exact ⟨rfl, fun _ _ => rfl, .update distinct present own fun _ => ⟨rfl, rfl, rfl⟩⟩
  | inserted postingPlan effectiveAt postedAt response =>
    refine ⟨rfl, fun other differs => ?_, .update distinct present own fun _ => ⟨rfl, rfl, rfl⟩⟩
    exact findByReference_append (fun same => differs same.symm) _ _

theorem postTransaction_frame (distinct : DistinctKeys db)
    (succeeded : (postTransaction runtime request.context request.input).run db = .ok (response, after)) :
    ∃ reference description lock, postingTexts request.input = .ok (reference, description) ∧
      postingKeyLock runtime request = .ok lock ∧
      CallFrame reference lock.idempotencyKey request.context.newIdempotencyId db after := by
  obtain ⟨reference, description, record, middle, referenced, described, locked, rest⟩ :=
    postTransaction_ok succeeded
  obtain ⟨idempotencyKey, requestHash, keys, named, hashed, answered, rfl⟩ := lockIdempotencyKey_ok locked
  obtain ⟨kept, present, own⟩ := lockRequest_kept distinct answered
  refine ⟨reference, description, requestLock runtime request.context idempotencyKey requestHash, ?_, ?_, ?_⟩
  · simp [postingTexts, referenced, described]
  · simp [postingKeyLock, named, hashed]
  · have first : CallFrame reference idempotencyKey request.context.newIdempotencyId db
        { db with idempotencyKeys := keys } := ⟨rfl, fun _ _ => rfl, kept⟩
    rcases rest with ⟨-, -, rfl⟩ | ⟨-, settles⟩
    · exact first
    · have between : DistinctKeys { db with idempotencyKeys := keys } := kept.distinct
      have second := settles_frame request.context.newIdempotencyId between present own.2 settles
      exact ⟨second.chart, second.references, kept.trans second.keys⟩

section Soundness

variable {runtime : Runtime} {request : PostingRequest} {db : FinanceDb}
  {error : Exception} {reference description : String} {stages : Nat} {lock : IdempotencyRequestLock}

def seen (runtime : Runtime) (request : PostingRequest) (stages : Nat) (db : FinanceDb) : PostingView :=
  observed (postingProtocol runtime) request stages db

theorem seen_zero : seen runtime request 0 db = .begun := by
  simp only [seen, observed, postingProtocol]

theorem seen_succ (stages : Nat) : seen runtime request (stages + 1) db =
    postingStage runtime request (seen runtime request stages db) db := by
  simp only [seen, observed]
  rw [postingProtocol_stage]

def settled (runtime : Runtime) (request : PostingRequest) (db : FinanceDb) : PostingView :=
  seen runtime request 3 db

theorem seen_of_badTexts (texts : postingTexts request.input = .error error)
    (stages : Nat) : seen runtime request (stages + 1) db = .failed error := by
  induction stages with
  | zero =>
    rw [seen_succ, seen_zero, postingStage_begun, texts]
  | succ stages ih =>
    rw [seen_succ, ih, postingStage_failed]

theorem seen_one (texts : postingTexts request.input = .ok (reference, description)) :
    seen runtime request 1 db = .holdsReference reference description := by
  rw [seen_succ, seen_zero, postingStage_begun, texts]

theorem seen_two (texts : postingTexts request.input = .ok (reference, description)) :
    seen runtime request 2 db =
      match lockedRecord runtime request db with
      | .ok record => .holdsKey reference description record
      | .error error => .failed error := by
  rw [seen_succ, seen_one texts, postingStage_holdsReference]

theorem settled_eq (texts : postingTexts request.input = .ok (reference, description)) :
    settled runtime request db =
      match lockedRecord runtime request db with
      | .ok record => .knowsReference reference description record (findByReference db reference)
      | .error error => .failed error := by
  rw [settled, seen_succ, seen_two texts]
  cases lockedRecord runtime request db with
  | ok record => exact postingStage_holdsKey record
  | error error => exact postingStage_failed error

theorem seen_settled (stages : Nat) : seen runtime request (stages + 3) db = settled runtime request db := by
  induction stages with
  | zero => rfl
  | succ stages ih =>
    rw [Nat.add_right_comm, seen_succ, ih]
    cases texts : postingTexts request.input with
    | error error => rw [settled, seen_of_badTexts texts, postingStage_failed]
    | ok both =>
      rw [settled_eq texts]
      cases lockedRecord runtime request db with
      | ok record => exact postingStage_knowsReference record _
      | error error => exact postingStage_failed error

theorem postAtomically_of_badTexts (texts : postingTexts request.input = .error error) :
    postAtomically runtime request db = (db, .error error) := by
  rw [postAtomically, attempt_error, postTransaction_run, texts]
  exact ⟨rfl, rfl⟩

theorem postAtomically_of_badKey
    (texts : postingTexts request.input = .ok (reference, description))
    (refused : lockedRecord runtime request db = .error error) :
    postAtomically runtime request db = (db, .error error) := by
  unfold lockedRecord at refused
  rw [postAtomically, attempt_error, postTransaction_run, texts]
  cases locked : (lockIdempotencyKey runtime request.context request.input).run db with
  | ok outcome => simp [locked, Except.map] at refused
  | error found =>
    simp only [locked, Except.map, Except.error.injEq] at refused
    exact ⟨by rw [refused], rfl⟩

theorem settlePosting_eq {record : KeyRecord}
    {existing : Option FinancialTransactionEntity} (distinct : DistinctKeys db)
    (texts : postingTexts request.input = .ok (reference, description))
    (locked : lockedRecord runtime request db = .ok record)
    (reads : existing = findByReference db reference ∨
      record.status = .completed ∧ record.responseBody.isSome = true) :
    attempt (settlePosting runtime request reference description record existing) db =
      postAtomically runtime request db := by
  apply attempt_congr
  unfold lockedRecord at locked
  rw [postTransaction_run, texts]
  cases answered : (lockIdempotencyKey runtime request.context request.input).run db with
  | error error => simp [answered, Except.map] at locked
  | ok outcome =>
    obtain ⟨found, middle⟩ := outcome
    simp only [answered, Except.map, Except.ok.injEq] at locked
    subst locked
    have written := lockIdempotencyKey_put distinct answered
    subst written
    change (answerLocked runtime request.context request.input reference description found fun _ => existing).run
      { db with idempotencyKeys := putRecord found db.idempotencyKeys } = _
    rcases reads with rfl | ⟨completed, body⟩
    · exact answerLocked_congr rfl
    · obtain ⟨response, stored⟩ := Option.isSome_iff_exists.mp body
      simp only [answerLocked, completed, stored]

theorem ready_stages
    (texts : postingTexts request.input = .ok (reference, description))
    (ready : postingReady (seen runtime request stages db) = true) : 2 ≤ stages := by
  by_contra early
  have one : stages = 0 ∨ stages = 1 := by omega
  rcases one with rfl | rfl
  · rw [seen_zero] at ready
    cases ready
  · rw [seen_one texts] at ready
    cases ready

theorem posting_complete (stages : Nat) (distinct : DistinctKeys db)
    (ready : postingReady (seen runtime request stages db) = true) :
    postingSettle runtime request (seen runtime request stages db) db = postAtomically runtime request db := by
  cases texts : postingTexts request.input with
  | error error =>
    cases stages with
    | zero => cases ready
    | succ stages =>
      rw [seen_of_badTexts texts, postAtomically_of_badTexts texts]
      rfl
  | ok both =>
    obtain ⟨reference, description⟩ := both
    have enough := ready_stages texts ready
    obtain ⟨rest, rfl⟩ := Nat.exists_eq_add_of_le' enough
    cases rest with
    | zero =>
      rw [Nat.zero_add, seen_two texts] at ready ⊢
      cases locked : lockedRecord runtime request db with
      | error error => exact (postAtomically_of_badKey texts locked).symm
      | ok record =>
        simp only [locked, postingReady, Bool.and_eq_true, decide_eq_true_eq] at ready
        exact settlePosting_eq distinct texts locked (.inr ready)
    | succ stages =>
      rw [Nat.add_right_comm, seen_settled, settled_eq texts]
      cases locked : lockedRecord runtime request db with
      | error error => exact (postAtomically_of_badKey texts locked).symm
      | ok record => exact settlePosting_eq distinct texts locked (.inl rfl)

theorem postingLocks_eq
    (texts : postingTexts request.input = .ok (reference, description))
    (keyed : postingKeyLock runtime request = .ok lock) (enough : 2 ≤ stages) :
    postingLocks runtime request stages =
      [.reference reference, .idempotencyKey lock.idempotencyKey,
        .idempotencyId request.context.newIdempotencyId] := by
  have notZero : stages ≠ 0 := by omega
  have notOne : stages ≠ 1 := by omega
  simp only [postingLocks, texts, keyed, if_neg notZero, if_neg notOne]

theorem reference_mem_locks
    (texts : postingTexts request.input = .ok (reference, description)) (enough : 2 ≤ stages) :
    .reference reference ∈ postingLocks runtime request stages := by
  cases keyed : postingKeyLock runtime request with
  | ok lock => simp [postingLocks_eq texts keyed enough]
  | error error =>
    have notZero : stages ≠ 0 := by omega
    have notOne : stages ≠ 1 := by omega
    simp [postingLocks, texts, keyed, notZero, notOne]

theorem lockedRecord_stable {theirs : PostingRequest} {after : FinanceDb} {theirStages : Nat} (enough : 2 ≤ stages)
    (texts : ∃ description, postingTexts request.input = .ok (reference, description))
    {theirReference theirDescription : String}
    (theirTexts : postingTexts theirs.input = .ok (theirReference, theirDescription))
    (theirKeyed : postingKeyLock runtime theirs = .ok lock) (theirEnough : 2 ≤ theirStages)
    (frame : CallFrame theirReference lock.idempotencyKey theirs.context.newIdempotencyId db after)
    (free : ∀ held ∈ postingLocks runtime request stages, held ∉ postingLocks runtime theirs theirStages) :
    lockedRecord runtime request after = lockedRecord runtime request db := by
  obtain ⟨description, texts⟩ := texts
  rw [lockedRecord_eq, lockedRecord_eq]
  cases keyed : postingKeyLock runtime request with
  | error error => rfl
  | ok mine =>
    rw [postingLocks_eq texts keyed enough, postingLocks_eq theirTexts theirKeyed theirEnough] at free
    have otherKey : mine.idempotencyKey ≠ lock.idempotencyKey := by
      intro same
      exact free (.idempotencyKey mine.idempotencyKey) (by simp) (by simp [same])
    have otherId : request.context.newIdempotencyId ≠ theirs.context.newIdempotencyId := by
      intro same
      exact free (.idempotencyId request.context.newIdempotencyId) (by simp) (by simp [same])
    have scope : mine.scope = financeIdempotencyScope := by
      simp only [postingKeyLock, Outcome.bind_ok, Outcome.pure_ok] at keyed
      obtain ⟨_, -, _, -, rfl⟩ := keyed
      rfl
    simp only
    rw [scope, frame.keys.answers mine.idempotencyKey otherKey]
    exact lockAnswer_congr (frame.keys.ids request.context.newIdempotencyId otherId)

theorem posting_stable (mine theirs : PostingRequest) (stages theirStages : Nat) (distinct : DistinctKeys db)
    (ready : postingReady (seen runtime theirs theirStages db) = true)
    (free : ∀ held ∈ postingLocks runtime mine stages, held ∉ postingLocks runtime theirs theirStages) :
    seen runtime mine stages (postAtomically runtime theirs db).1 = seen runtime mine stages db := by
  cases ran : (postTransaction runtime theirs.context theirs.input).run db with
  | error error =>
    have unchanged : postAtomically runtime theirs db = (db, .error error) := attempt_error.mpr ⟨ran, rfl⟩
    rw [unchanged]
  | ok outcome =>
    obtain ⟨response, after⟩ := outcome
    have changed : postAtomically runtime theirs db = (after, .ok response) := attempt_ok.mpr ran
    rw [changed]
    obtain ⟨theirReference, theirDescription, lock, theirTexts, theirKeyed, frame⟩ :=
      postTransaction_frame distinct ran
    have theirEnough := ready_stages theirTexts ready
    cases texts : postingTexts mine.input with
    | error error =>
      cases stages with
      | zero => rfl
      | succ stages => rw [seen_of_badTexts texts, seen_of_badTexts texts]
    | ok both =>
      obtain ⟨reference, description⟩ := both
      rcases Nat.lt_or_ge stages 2 with few | enough
      · have one : stages = 0 ∨ stages = 1 := by omega
        rcases one with rfl | rfl
        · rw [seen_zero, seen_zero]
        · rw [seen_one texts, seen_one texts]
      · have same := lockedRecord_stable enough ⟨_, texts⟩ theirTexts theirKeyed theirEnough frame free
        have other : reference ≠ theirReference := by
          intro same
          have held := free _ (reference_mem_locks texts enough)
          exact held (same ▸ reference_mem_locks theirTexts theirEnough)
        obtain ⟨rest, rfl⟩ := Nat.exists_eq_add_of_le' enough
        cases rest with
        | zero => rw [Nat.zero_add, seen_two texts, seen_two texts, same]
        | succ stages =>
          rw [Nat.add_right_comm, seen_settled, seen_settled, settled_eq texts, settled_eq texts, same,
            frame.references _ other]

end Soundness

theorem posting_sound (runtime : Runtime) :
    Sound (postingProtocol runtime) DistinctKeys (postAtomically runtime) where
  startsFree request := by
    rw [postingProtocol_held]
    unfold postingLocks
    split <;> rfl
  atomicGood request db distinct := by
    cases ran : (postTransaction runtime request.context request.input).run db with
    | error error =>
      have unchanged : postAtomically runtime request db = (db, .error error) := attempt_error.mpr ⟨ran, rfl⟩
      rwa [unchanged]
    | ok outcome =>
      have changed : postAtomically runtime request db = (outcome.2, .ok outcome.1) := attempt_ok.mpr ran
      obtain ⟨_, _, _, -, -, frame⟩ := postTransaction_frame distinct ran
      rw [changed]
      exact frame.keys.distinct
  complete request stages db distinct ready := by
    rw [postingProtocol_ready] at ready
    rw [postingProtocol_settle]
    exact posting_complete stages distinct ready
  stable mine stages theirs db distinct theirStages ready free := by
    rw [postingProtocol_ready] at ready
    rw [postingProtocol_held, postingProtocol_held] at free
    exact posting_stable mine theirs stages theirStages distinct ready free

end ShuleHub.Finance
