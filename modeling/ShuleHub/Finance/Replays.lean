import ShuleHub.Finance.Concurrency
import ShuleHub.Finance.StoredPayloads

/-! What a tenant's tables remember of the postings that succeeded, and what they therefore answer when
a key or a reference is used again. -/

namespace ShuleHub.Finance

open Transaction Idempotency Locking

variable (runtime : Runtime) (deadline : Int)

abbrev FinishedPosting := Finished FinanceDb PostingRequest (Except Exception PostedFinancialTransaction)

def idempotencyKeyOf (request : PostingRequest) : Except Exception String :=
  requireNonEmptyText request.input.idempotencyKey "idempotency_key"

def WithinTtl (start : Int) (request : PostingRequest) : Prop :=
  start ≤ request.context.now ∧ request.context.now < start + runtime.idempotencyTtlSeconds * 1000

structure RememberedAs (db : FinanceDb) (request : PostingRequest)
    (response : PostedFinancialTransaction) (idempotencyKey : String) (record : KeyRecord)
    (body : PostedFinancialTransaction) (payload : NormalizedPayload) (stored : FinancialTransactionEntity) :
    Prop where
  keyed : idempotencyKeyOf request = .ok idempotencyKey
  found : recordFor financeIdempotencyScope idempotencyKey db.idempotencyKeys = some record
  completed : record.status = .completed
  answered : record.responseBody = some body
  sameAnswer : body.transactionId = response.transactionId
  hashed : buildIdempotencyHash runtime request.input = .ok record.requestHash
  lasts : deadline ≤ record.expiresAt
  normal : normalizedPayload request.input = .ok payload
  present : stored ∈ db.transactions
  answers : stored.id = response.transactionId
  matching : MatchesStored db payload stored

/-- The tables hold the completed key of a request with its answer, and the transaction it asked for. -/
def Remembered (db : FinanceDb) (request : PostingRequest)
    (response : PostedFinancialTransaction) : Prop :=
  ∃ idempotencyKey record body payload stored,
    RememberedAs runtime deadline db request response idempotencyKey record body payload stored

structure RepliesKept (past : List FinishedPosting) (db : FinanceDb) :
    Prop where
  books : Books db
  distinct : DistinctKeys db
  remembered : ∀ done ∈ past, ∀ response, done.result = .ok response →
    Remembered runtime deadline db done.request response
  origin : ∀ record ∈ db.idempotencyKeys, ∃ done ∈ past,
    (∃ response, done.result = .ok response) ∧ idempotencyKeyOf done.request = .ok record.idempotencyKey
  rolledBack : ∀ done ∈ past, ∀ error, done.result = .error error → done.after = done.before

def SamePostings (db after : FinanceDb) : Prop :=
  after.accounts = db.accounts ∧ after.transactions = db.transactions ∧ after.ledgerEntries = db.ledgerEntries

section Calls

variable {runtime : Runtime} {deadline : Int} {past : List FinishedPosting} {db after : FinanceDb}
  {request : PostingRequest} {response : PostedFinancialTransaction} {idempotencyKey : String}

theorem repeated_key (injective : Function.Injective runtime.sha256)
    (kept : RepliesKept runtime deadline past db) (within : request.context.now < deadline)
    (keyed : idempotencyKeyOf request = .ok idempotencyKey)
    {earlier : FinishedPosting} {first : PostedFinancialTransaction} (member : earlier ∈ past)
    (succeededFirst : earlier.result = .ok first) (sameKey : idempotencyKeyOf earlier.request = .ok idempotencyKey)
    (succeeded : (postTransaction runtime request.context request.input).run db = .ok (response, after)) :
    after = db ∧ response.transactionId = first.transactionId ∧
      normalizedPayload request.input = normalizedPayload earlier.request.input ∧
      Remembered runtime deadline db request response := by
  obtain ⟨usedKey, record, body, payload, stored, known⟩ := kept.remembered earlier member first succeededFirst
  obtain rfl : usedKey = idempotencyKey := Except.ok.inj (known.keyed.symm.trans sameKey)
  obtain ⟨_, _, found, middle, -, -, locked, rest⟩ := postTransaction_ok succeeded
  obtain ⟨lockedKey, requestHash, keys, named, hashed, answered, rfl⟩ := lockIdempotencyKey_ok locked
  obtain rfl : usedKey = lockedKey := Except.ok.inj (keyed.symm.trans named)
  have alive : request.context.now < record.expiresAt := lt_of_lt_of_le within known.lasts
  obtain ⟨rfl, rfl, sameHash⟩ := lockRequest_completed known.found alive known.completed answered
  have hash : buildIdempotencyHash runtime request.input = .ok found.requestHash := by
    rw [hashed, sameHash]
    rfl
  obtain ⟨-, common, normal, usedNormal⟩ := buildIdempotencyHash_ok injective hash known.hashed
  obtain rfl : payload = common := Except.ok.inj (known.normal.symm.trans usedNormal)
  rcases rest with ⟨-, replayed, unchanged⟩ | ⟨open_, -⟩
  · obtain rfl : body = response := Option.some.inj (known.answered.symm.trans replayed)
    refine ⟨unchanged, known.sameAnswer, normal.trans usedNormal.symm, ?_⟩
    exact ⟨usedKey, found, body, payload, stored, {
      known with
      keyed
      sameAnswer := rfl
      hashed := hash
      normal
      answers := known.answers.trans known.sameAnswer.symm }⟩
  · rcases open_ with unfinished | unanswered
    · exact absurd known.completed unfinished
    · rw [known.answered] at unanswered
      cases unanswered

/-- A key row is added and nothing that was stored changes. -/
structure Grown (db after : FinanceDb) (record : KeyRecord) : Prop where
  keys : after.idempotencyKeys = db.idempotencyKeys ++ [record]
  transactions : ∀ stored ∈ db.transactions, stored ∈ after.transactions
  matching : ∀ stored ∈ db.transactions, ∀ payload, MatchesStored db payload stored → MatchesStored after payload stored

theorem Remembered.grow {record : KeyRecord} (remembered : Remembered runtime deadline db request response)
    (grown : Grown db after record) : Remembered runtime deadline after request response := by
  obtain ⟨idempotencyKey, own, body, payload, stored, known⟩ := remembered
  refine ⟨idempotencyKey, own, body, payload, stored, { known with
    found := ?_
    present := grown.transactions stored known.present
    matching := grown.matching stored known.present payload known.matching }⟩
  rw [grown.keys]
  exact recordFor_append_found known.found _

theorem remembered_of_complete {payload : NormalizedPayload} {stored : FinancialTransactionEntity}
    {requestHash : String} {code : Nat}
    (started : deadline ≤ request.context.now + runtime.idempotencyTtlSeconds * 1000)
    (keyed : idempotencyKeyOf request = .ok idempotencyKey)
    (hashed : buildIdempotencyHash runtime request.input = .ok requestHash)
    (normal : normalizedPayload request.input = .ok payload)
    (absent : recordFor financeIdempotencyScope idempotencyKey db.idempotencyKeys = none)
    (keys : after.idempotencyKeys = db.idempotencyKeys ++ [complete request.context.now code response
      (freshRecord request.context.now request.context.newIdempotencyId
        (requestLock runtime request.context idempotencyKey requestHash))])
    (present : stored ∈ after.transactions) (answers : stored.id = response.transactionId)
    (matching : MatchesStored after payload stored) : Remembered runtime deadline after request response := by
  let row : KeyRecord := freshRecord request.context.now request.context.newIdempotencyId
    (requestLock runtime request.context idempotencyKey requestHash)
  refine ⟨idempotencyKey, complete request.context.now code response row, response, payload, stored, {
    keyed
    found := ?_
    completed := rfl
    answered := rfl
    sameAnswer := rfl
    hashed
    lasts := started
    normal
    present
    answers
    matching }⟩
  rw [keys]
  exact recordFor_append_own absent ⟨rfl, rfl⟩

theorem first_use (books : Books db) (started : deadline ≤ request.context.now + runtime.idempotencyTtlSeconds * 1000)
    (keyed : idempotencyKeyOf request = .ok idempotencyKey)
    (absent : recordFor financeIdempotencyScope idempotencyKey db.idempotencyKeys = none)
    (succeeded : (postTransaction runtime request.context request.input).run db = .ok (response, after)) :
    ∃ record, Grown db after record ∧ record.idempotencyKey = idempotencyKey ∧
      Remembered runtime deadline after request response ∧
      ((∃ stored ∈ db.transactions,
        requireNonEmptyText request.input.reference "reference" = .ok stored.reference) → SamePostings db after) := by
  obtain ⟨reference, description, record, middle, referenced, described, locked, rest⟩ :=
    postTransaction_ok succeeded
  obtain ⟨lockedKey, requestHash, keys, named, hashed, answered, rfl⟩ := lockIdempotencyKey_ok locked
  obtain rfl : idempotencyKey = lockedKey := Except.ok.inj (keyed.symm.trans named)
  obtain ⟨rfl, rfl, unused⟩ := lockRequest_absent absent answered
  obtain ⟨payload, normal⟩ := normalizedPayload_total hashed
  let lock := requestLock runtime request.context idempotencyKey requestHash
  let fresh : KeyRecord := freshRecord request.context.now request.context.newIdempotencyId lock
  have answeredRow (code : Nat) := updateById_append_fresh (complete request.context.now code response) fresh unused
  rcases rest with ⟨completed, -⟩ | ⟨-, settles⟩
  · cases completed
  · cases settles with
    | reused postingPlan existing _ found hydrated compatible planned =>
      have present : existing ∈ db.transactions := List.mem_of_find?_eq_some found
      have sameReference : existing.reference = reference := by simpa using List.find?_some found
      have matching := matchesStored_of_reuse normal planned (sameReference ▸ referenced) described hydrated compatible
      have answers := (hydratePostedTransaction_ok hydrated).1
      refine ⟨complete request.context.now 200 response fresh, ⟨answeredRow 200, fun _ same => same, ?_⟩, rfl, ?_, ?_⟩
      · exact fun stored _ payload same => ⟨same.reference, same.description, same.total, same.entries⟩
      · exact remembered_of_complete started keyed hashed normal absent (answeredRow 200) present answers.symm
          ⟨matching.reference, matching.description, matching.total, matching.entries⟩
      · exact fun _ => ⟨rfl, rfl, rfl⟩
    | inserted postingPlan effectiveAt postedAt _ free freshId freshKey answers planned =>
      have unposted : ∀ entry ∈ db.ledgerEntries, entry.transactionId ≠ request.context.newTransactionId := by
        intro entry member same
        obtain ⟨transaction, present, known⟩ := books.owned entry member
        exact freshId transaction present (known.trans same)
      have matching := matchesStored_of_insert db fresh.id effectiveAt postedAt normal planned referenced described
        unposted (db.transactions ++ [transactionRow request.context request.input reference description postingPlan
          fresh.id effectiveAt postedAt]) (db.idempotencyKeys ++ [complete request.context.now 201 response fresh])
      refine ⟨complete request.context.now 201 response fresh, ⟨answeredRow 201, ?_, ?_⟩, rfl, ?_, ?_⟩
      · exact fun stored present => List.mem_append_left _ present
      · intro stored present payload same
        refine same.append (fun row added => ?_) _ _
        obtain ⟨_, -, rfl⟩ := List.mem_map.mp added
        exact fun equal => freshId stored present equal.symm
      · refine remembered_of_complete started keyed hashed normal absent (answeredRow 201)
          (List.mem_append_right _ List.mem_cons_self) answers.symm ?_
        exact ⟨matching.reference, matching.description, matching.total, matching.entries⟩
      · rintro ⟨stored, present, known⟩
        have same : stored.reference = reference := Except.ok.inj (known.symm.trans referenced)
        exact absurd same (by simpa using List.find?_eq_none.mp free stored present)

theorem success_keyed (succeeded : (postTransaction runtime request.context request.input).run db = .ok (response, after)) :
    ∃ idempotencyKey, idempotencyKeyOf request = .ok idempotencyKey := by
  obtain ⟨_, _, _, _, -, -, locked, -⟩ := postTransaction_ok succeeded
  obtain ⟨idempotencyKey, _, _, named, -⟩ := lockIdempotencyKey_ok locked
  exact ⟨idempotencyKey, named⟩

theorem success_kept (injective : Function.Injective runtime.sha256) (kept : RepliesKept runtime deadline past db)
    (started : deadline ≤ request.context.now + runtime.idempotencyTtlSeconds * 1000)
    (within : request.context.now < deadline)
    (succeeded : (postTransaction runtime request.context request.input).run db = .ok (response, after)) :
    RepliesKept runtime deadline (past ++ [⟨request, db, after, .ok response⟩]) after ∧
      ((∃ stored ∈ db.transactions,
        requireNonEmptyText request.input.reference "reference" = .ok stored.reference) → SamePostings db after) := by
  obtain ⟨idempotencyKey, keyed⟩ := success_keyed succeeded
  have books := postTransaction_books kept.books succeeded
  obtain ⟨_, _, _, -, -, frame⟩ := postTransaction_frame kept.distinct succeeded
  have failed : ∀ done ∈ past ++ [⟨request, db, after, .ok response⟩], ∀ error,
      done.result = .error error → done.after = done.before := by
    intro done member error refused
    rcases List.mem_append.mp member with old | new
    · exact kept.rolledBack done old error refused
    · rw [List.mem_singleton.mp new] at refused
      cases refused
  cases found : recordFor financeIdempotencyScope idempotencyKey db.idempotencyKeys with
  | some record =>
    obtain ⟨present, own⟩ := recordFor_isFor found
    obtain ⟨earlier, member, ⟨first, succeededFirst⟩, sameKey⟩ := kept.origin record present
    rw [own.2] at sameKey
    obtain ⟨rfl, -, -, remembered⟩ :=
      repeated_key injective kept within keyed member succeededFirst sameKey succeeded
    refine ⟨⟨books, frame.keys.distinct, ?_, ?_, failed⟩, fun _ => ⟨rfl, rfl, rfl⟩⟩
    · intro done member answer answered
      rcases List.mem_append.mp member with old | new
      · exact kept.remembered done old answer answered
      · rw [List.mem_singleton.mp new] at answered ⊢
        cases answered
        exact remembered
    · intro row stored
      obtain ⟨done, old, rest⟩ := kept.origin row stored
      exact ⟨done, List.mem_append_left _ old, rest⟩
  | none =>
    obtain ⟨record, grown, own, remembered, same⟩ := first_use kept.books started keyed found succeeded
    refine ⟨⟨books, frame.keys.distinct, ?_, ?_, failed⟩, same⟩
    · intro done member answer answered
      rcases List.mem_append.mp member with old | new
      · exact (kept.remembered done old answer answered).grow grown
      · rw [List.mem_singleton.mp new] at answered ⊢
        cases answered
        exact remembered
    · intro row stored
      rw [grown.keys] at stored
      rcases List.mem_append.mp stored with old | new
      · obtain ⟨done, member, rest⟩ := kept.origin row old
        exact ⟨done, List.mem_append_left _ member, rest⟩
      · rw [List.mem_singleton.mp new]
        refine ⟨_, List.mem_append_right _ List.mem_cons_self, ⟨response, rfl⟩, ?_⟩
        rw [own]
        exact keyed

theorem failure_kept {error : Exception} (kept : RepliesKept runtime deadline past db) :
    RepliesKept runtime deadline (past ++ [⟨request, db, db, .error error⟩]) db := by
  refine ⟨kept.books, kept.distinct, fun done member response answered => ?_, fun record stored => ?_,
    fun done member cause refused => ?_⟩
  · rcases List.mem_append.mp member with old | new
    · exact kept.remembered done old response answered
    · rw [List.mem_singleton.mp new] at answered
      cases answered
  · obtain ⟨done, member, rest⟩ := kept.origin record stored
    exact ⟨done, List.mem_append_left _ member, rest⟩
  · rcases List.mem_append.mp member with old | new
    · exact kept.rolledBack done old cause refused
    · rw [List.mem_singleton.mp new]

end Calls

def SameKey (first second : FinishedPosting) : Prop :=
  ∃ idempotencyKey, idempotencyKeyOf first.request = .ok idempotencyKey ∧
    idempotencyKeyOf second.request = .ok idempotencyKey

def Succeeded (done : FinishedPosting) : Prop := ∃ response, done.result = .ok response

structure AgreesOnKey (first second : FinishedPosting) : Prop where
  oneAnswer : ∀ answer, first.result = .ok answer → ∀ response, second.result = .ok response →
    response.transactionId = answer.transactionId
  oneInsert : first.after.transactions = first.before.transactions ∨
    second.after.transactions = second.before.transactions
  unchanged : Succeeded first → second.after = second.before
  refused : Succeeded first → normalizedPayload second.request.input ≠ normalizedPayload first.request.input →
    ¬ Succeeded second
  conflict : Succeeded first → normalizedPayload second.request.input ≠ normalizedPayload first.request.input →
    (∃ texts, postingTexts second.request.input = .ok texts) →
    (∃ payload, normalizedPayload second.request.input = .ok payload) →
    second.result = .error (.conflict "Idempotency key has already been used with a different request payload")

/-- A successful call on a reference that is already posted: the payload matches the stored
transaction, and nothing is posted. -/
structure ReusesReference (done : FinishedPosting) (stored : FinancialTransactionEntity)
    (response : PostedFinancialTransaction) : Prop where
  answers : response.transactionId = stored.id
  nothingPosted : SamePostings done.before done.after
  matching : ∃ payload, normalizedPayload done.request.input = .ok payload ∧
    MatchesStored done.before payload stored

def postingHistory (chart : ChartOfAccounts) (events : List (Event PostingRequest)) :
    List FinishedPosting :=
  (Runs.run (step (postingProtocol runtime)) (World.idle (FinanceDb.opened chart)) events).finished

section Interleavings

variable {runtime : Runtime} {start : Int}

def ttlEnd (runtime : Runtime) (start : Int) : Int := start + runtime.idempotencyTtlSeconds * 1000

theorem started_of_within {request : PostingRequest} (within : WithinTtl runtime start request) :
    ttlEnd runtime start ≤ request.context.now + runtime.idempotencyTtlSeconds * 1000 := by
  have begun := within.1
  unfold ttlEnd
  omega

theorem posting_kept (injective : Function.Injective runtime.sha256) (past : List FinishedPosting)
    (done : FinishedPosting) (within : WithinTtl runtime start done.request)
    (kept : RepliesKept runtime (ttlEnd runtime start) past done.before)
    (ran : postAtomically runtime done.request done.before = (done.after, done.result)) :
    RepliesKept runtime (ttlEnd runtime start) (past ++ [done]) done.after := by
  obtain ⟨request, before, after, result⟩ := done
  change WithinTtl runtime start request at within
  change RepliesKept runtime (ttlEnd runtime start) past before at kept
  change postAtomically runtime request before = (after, result) at ran
  change RepliesKept runtime (ttlEnd runtime start) (past ++ [⟨request, before, after, result⟩]) after
  cases result with
  | error error =>
    obtain ⟨-, rfl⟩ := attempt_error.mp ran
    exact failure_kept kept
  | ok response => exact (success_kept injective kept (started_of_within within) within.2 (attempt_ok.mp ran)).1

theorem conflict_of_reuse (injective : Function.Injective runtime.sha256) {past : List FinishedPosting}
    {earlier : FinishedPosting} {request : PostingRequest} {db : FinanceDb} {idempotencyKey : String}
    {first : PostedFinancialTransaction} {payload : NormalizedPayload} {texts : String × String}
    (kept : RepliesKept runtime (ttlEnd runtime start) past db) (within : WithinTtl runtime start request)
    (member : earlier ∈ past) (succeeded : earlier.result = .ok first)
    (sameKey : idempotencyKeyOf earlier.request = .ok idempotencyKey)
    (keyed : idempotencyKeyOf request = .ok idempotencyKey)
    (described : postingTexts request.input = .ok texts)
    (normal : normalizedPayload request.input = .ok payload)
    (differs : normalizedPayload request.input ≠ normalizedPayload earlier.request.input) :
    (postTransaction runtime request.context request.input).run db =
      .error (.conflict "Idempotency key has already been used with a different request payload") := by
  obtain ⟨usedKey, record, _, _, _, known⟩ := kept.remembered earlier member first succeeded
  obtain rfl : usedKey = idempotencyKey := Except.ok.inj (known.keyed.symm.trans sameKey)
  obtain ⟨hash, hashed⟩ := buildIdempotencyHash_total runtime normal
  have alive : request.context.now < record.expiresAt := lt_of_lt_of_le within.2 known.lasts
  have otherHash : record.requestHash ≠ hash := by
    intro same
    rw [← same] at hashed
    obtain ⟨-, common, mine, theirs⟩ := buildIdempotencyHash_ok injective hashed known.hashed
    exact differs (mine.trans theirs.symm)
  have lock : postingKeyLock runtime request = .ok (requestLock runtime request.context usedKey hash) := by
    unfold idempotencyKeyOf at keyed
    simp [postingKeyLock, keyed, hashed]
  have refused : (onKeys (lockRequest request.context.now request.context.newIdempotencyId
      (requestLock runtime request.context usedKey hash))).run db =
      .error (.conflict "Idempotency key has already been used with a different request payload") := by
    have answered := lockRequest_conflict request.context.newIdempotencyId
      (requestLock runtime request.context usedKey hash) known.found alive otherHash
    change Except.map _ ((lockRequest _ _ _).run db.idempotencyKeys) = _
    rw [answered]
    rfl
  rw [postTransaction_run, described, lockIdempotencyKey_run, lock]
  simp only [refused]

theorem posting_agrees (injective : Function.Injective runtime.sha256) (past : List FinishedPosting)
    (earlier done : FinishedPosting) (within : WithinTtl runtime start done.request)
    (kept : RepliesKept runtime (ttlEnd runtime start) past done.before) (member : earlier ∈ past)
    (ran : postAtomically runtime done.request done.before = (done.after, done.result)) :
    SameKey earlier done → AgreesOnKey earlier done := by
  rintro ⟨idempotencyKey, sameKey, keyed⟩
  have repeated {answer response : PostedFinancialTransaction} (first : earlier.result = .ok answer)
      (second : done.result = .ok response) :=
    repeated_key injective kept within.2 keyed member first sameKey (attempt_ok.mp (second ▸ ran))
  have unchanged : Succeeded earlier → done.after = done.before := by
    rintro ⟨answer, first⟩
    cases result : done.result with
    | ok response => exact (repeated first result).1
    | error error => exact (attempt_error.mp (result ▸ ran)).2
  constructor
  · exact fun answer first response second => (repeated first second).2.1
  · cases result : earlier.result with
    | ok answer => exact .inr (by rw [unchanged ⟨answer, result⟩])
    | error error => exact .inl (by rw [kept.rolledBack earlier member error result])
  · exact unchanged
  · rintro ⟨answer, first⟩ differs ⟨response, second⟩
    exact differs (repeated first second).2.2.1
  · rintro ⟨answer, first⟩ differs ⟨texts, described⟩ ⟨payload, normal⟩
    have refused := conflict_of_reuse injective kept within member first sameKey keyed described normal differs
    have outcome := attempt_error.mpr ⟨refused, rfl⟩
    exact (Prod.mk.inj (ran.symm.trans outcome)).2

theorem posting_reuses (injective : Function.Injective runtime.sha256) (past : List FinishedPosting)
    (done : FinishedPosting) (within : WithinTtl runtime start done.request)
    (kept : RepliesKept runtime (ttlEnd runtime start) past done.before)
    (ran : postAtomically runtime done.request done.before = (done.after, done.result))
    {stored : FinancialTransactionEntity} (present : stored ∈ done.before.transactions)
    (referenced : requireNonEmptyText done.request.input.reference "reference" = .ok stored.reference)
    {response : PostedFinancialTransaction} (succeeded : done.result = .ok response) :
    ReusesReference done stored response := by
  have ran := attempt_ok.mp (succeeded ▸ ran)
  obtain ⟨after, same⟩ := success_kept injective kept (started_of_within within) within.2 ran
  have nothing := same ⟨stored, present, referenced⟩
  obtain ⟨_, _, _, payload, found, known⟩ :=
    after.remembered _ (List.mem_append_right _ List.mem_cons_self) response rfl
  have old : found ∈ done.before.transactions := nothing.2.1 ▸ known.present
  have normal := known.normal
  have reference : found.reference = stored.reference := by
    have asked := known.matching.reference
    simp only [normalizedPayload, Outcome.bind_ok, Outcome.pure_ok] at normal
    obtain ⟨_, -, rfl⟩ := normal
    exact Except.ok.inj (asked.symm.trans referenced)
  obtain rfl : found = stored := List.inj_on_of_nodup_map kept.books.references old present reference
  refine ⟨known.answers.symm, nothing, payload, known.normal, ?_⟩
  have matching := known.matching
  have entries : findByTransactionId done.after found.id = findByTransactionId done.before found.id := by
    unfold findByTransactionId
    rw [nothing.2.2]
  exact ⟨matching.reference, matching.description, matching.total, entries ▸ matching.entries⟩

/-- In every interleaving of calls within the life of a key: calls on one key agree and post at most
once, another payload under a used key changes nothing and is refused, with a conflict if it can be
normalized at all, and a reference is used again only for the payload that is stored under it. -/
theorem interleaved_postings_are_idempotent (runtime : Runtime) (injective : Function.Injective runtime.sha256)
    (chart : ChartOfAccounts) (start : Int) (events : List (Event PostingRequest))
    (within : ∀ request, .begin request ∈ events → WithinTtl runtime start request) :
    (postingHistory runtime chart events).Pairwise
        (fun first second => SameKey first second → AgreesOnKey first second) ∧
      ∀ done ∈ postingHistory runtime chart events, ∀ stored ∈ done.before.transactions,
        requireNonEmptyText done.request.input.reference "reference" = .ok stored.reference →
        ∀ response, done.result = .ok response → ReusesReference done stored response := by
  have allowed := run_requests (postingProtocol runtime) within (FinanceDb.opened chart)
  have empty : RepliesKept runtime (ttlEnd runtime start) [] (FinanceDb.opened chart) :=
    ⟨books_opened chart, by simp [DistinctKeys, FinanceDb.opened], by simp, by simp [FinanceDb.opened], by simp⟩
  have serial := run_serial (posting_sound runtime) empty.distinct events
  constructor
  · exact serial_pairwise (posting_kept injective) (posting_agrees injective) serial allowed empty
  · intro done member stored present referenced response succeeded
    obtain ⟨past, rest, split⟩ := List.append_of_mem member
    obtain ⟨kept, ran⟩ := serial_split (posting_kept injective) serial allowed empty split
    exact posting_reuses injective past done (allowed done member) kept ran present referenced succeeded

end Interleavings

def sampleRuntime : Runtime where
  tenantId := "school"
  sha256 := id
  parseDate _ := none
  localeLe left right := Json.utf16Units left ≤ Json.utf16Units right
  idempotencyTtlSeconds := 60

def sampleAccount (id : String) (normalBalance : EntryDirection) : AccountEntity where
  id
  code := id
  name := id
  normalBalance
  currencyCode := "KES"
  allowManualEntries := true
  isActive := true
  currencyFormat := by decide

def sampleChart : ChartOfAccounts where
  accounts := [sampleAccount "cash" .debit, sampleAccount "fees" .credit]
  accountsDistinct := by decide

def samplePosting (ids description : String) : PostingRequest where
  context := {
    now := 0
    userId := none
    requestId := none
    newIdempotencyId := ids
    newTransactionId := ids
    newEntryId := fun line => ids ++ toString line }
  input := {
    idempotencyKey := "receipt-1"
    reference := "RCT-1"
    description
    effectiveAt := none
    postedAt := none
    metadata := none
    entries := [⟨"cash", .debit, "500", none, none, none⟩, ⟨"fees", .credit, " 500", some "kes", none, none⟩] }

theorem simultaneous_calls_share_one_posting :
    let events := [.begin (samplePosting "a" "Fees"), .begin (samplePosting "b" "Fees"), .advance 0, .advance 1,
      .advance 0, .advance 0, .finish 0, .advance 0, .advance 0, .finish 0]
    (postingHistory sampleRuntime sampleChart events).Pairwise fun first second =>
      SameKey first second → AgreesOnKey first second :=
  (interleaved_postings_are_idempotent sampleRuntime Function.injective_id sampleChart 0 _
    (by simp [WithinTtl, samplePosting, sampleRuntime])).1

/-- A used key with a blank description is refused as a bad request, before the key is looked at. -/
theorem blank_description_is_no_conflict :
    let events := [.begin (samplePosting "a" "Fees"), .advance 0, .advance 0, .advance 0, .finish 0,
      .begin (samplePosting "b" " "), .advance 0, .finish 0]
    (postingHistory sampleRuntime sampleChart events).map (fun done =>
      (done.request.input.idempotencyKey, done.request.input.description, done.result.map (·.transactionId))) =
      [("receipt-1", "Fees", .ok "a"),
        ("receipt-1", " ", .error (.badRequest "Financial transaction description is required"))] := by
  decide +kernel

end ShuleHub.Finance
