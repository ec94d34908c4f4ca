import ShuleHub.Finance.Posting

/-! An idempotency key whose time is over, and a posting that uses it again. -/

namespace Transaction

variable {Db Error A : Type}

def Goes (action : Transaction Db Error A) (db : Db) (good : A → Db → Prop) : Prop :=
  ∃ result after, action.run db = .ok (result, after) ∧ good result after

instance (action : Transaction Db Error A) (db : Db) (good : A → Db → Prop)
    [∀ result after, Decidable (good result after)] : Decidable (action.Goes db good) :=
  match ran : action.run db with
  | .ok (result, after) =>
    decidable_of_iff (good result after) ⟨fun holds => ⟨result, after, ran, holds⟩, fun ⟨_, _, same, holds⟩ => by
      cases ran.symm.trans same
      exact holds⟩
  | .error _ => isFalse fun ⟨_, _, same, _⟩ => Outcome.error_ne_ok (ran.symm.trans same)

end Transaction

namespace ShuleHub

namespace Idempotency

open Transaction

variable {Body : Type} {now : Int} {newId : String} {input : IdempotencyRequestLock}
  {records after : List (IdempotencyRecord Body)} {record : IdempotencyRecord Body}

structure Lapsed (now : Int) (scope idempotencyKey : String) (records : List (IdempotencyRecord Body))
    (record : IdempotencyRecord Body) : Prop where
  found : recordFor scope idempotencyKey records = some record
  completed : record.status = .completed
  expired : record.expiresAt ≤ now

instance [DecidableEq Body] (now : Int) (scope idempotencyKey : String) (records : List (IdempotencyRecord Body))
    (record : IdempotencyRecord Body) : Decidable (Lapsed now scope idempotencyKey records record) :=
  decidable_of_iff (recordFor scope idempotencyKey records = some record ∧ record.status = .completed ∧
    record.expiresAt ≤ now) ⟨fun ⟨found, completed, expired⟩ => ⟨found, completed, expired⟩,
      fun ⟨found, completed, expired⟩ => ⟨found, completed, expired⟩⟩

def withoutKey (scope idempotencyKey : String) (records : List (IdempotencyRecord Body)) :
    List (IdempotencyRecord Body) :=
  records.filter fun record => ¬ IsFor scope idempotencyKey record

theorem recordFor_withoutKey (scope idempotencyKey : String) (records : List (IdempotencyRecord Body)) :
    recordFor scope idempotencyKey (withoutKey scope idempotencyKey records) = none := by
  apply List.find?_eq_none.mpr
  intro record member
  simpa [withoutKey] using (List.mem_filter.mp member).2

theorem lockRequest_withoutKey
    (locked : (lockRequest now newId input).run (withoutKey input.scope input.idempotencyKey records) =
      .ok (record, after)) : record = freshRecord now newId input :=
  (lockRequest_absent (recordFor_withoutKey _ _ _) locked).1

theorem lockRequest_lapsed (newId : String) (lapsed : Lapsed now input.scope input.idempotencyKey records record) :
    (lockRequest now newId input).run records =
      .ok (resetExpired now input record, updateById record.id (resetExpired now input) records) := by
  rw [lockRequest_run]
  simp only [lapsed.found, if_pos lapsed.expired]

end Idempotency

namespace Finance

open Transaction Idempotency

variable {runtime : Runtime} {context : CallContext} {input : PostFinancialTransactionInput}
  {reference description : String} {record other : IdempotencyRecord PostedFinancialTransaction}
  {db after : FinanceDb} {response : PostedFinancialTransaction}

def PostsAnew (runtime : Runtime) (context : CallContext) (input : PostFinancialTransactionInput) (db : FinanceDb) :
    Prop :=
  (postTransaction runtime context input).Goes db fun response after =>
    ∃ row ∈ after.transactions, after.transactions = db.transactions ++ [row] ∧ row.id = response.transactionId
deriving Decidable

def KeyPosted (keyId : String) (db : FinanceDb) : Prop :=
  ∃ transaction ∈ db.transactions, transaction.idempotencyKeyId = keyId
deriving Decidable

theorem createTransaction_of_fresh {row : FinancialTransactionEntity}
    (freshId : ∀ other ∈ db.transactions, other.id ≠ row.id) (freshKey : ¬ KeyPosted row.idempotencyKeyId db)
    (freshReference : ∀ other ∈ db.transactions, other.reference ≠ row.reference)
    (small : row.totalAmountMinor < bigintLimit) :
    (createTransaction row).run db = .ok ((), { db with transactions := db.transactions ++ [row] }) := by
  simp only [createTransaction, run_bind_ok, run_current_ok, run_failIf_ok, run_write_ok]
  have freshId : ¬ ∃ other ∈ db.transactions, other.id = row.id := by simpa using freshId
  have freshReference : ¬ ∃ other ∈ db.transactions, other.reference = row.reference := by simpa using freshReference
  exact ⟨db, db, ⟨rfl, rfl⟩, (), db, ⟨freshId, rfl⟩, (), db, ⟨freshKey, rfl⟩, (), db, ⟨freshReference, rfl⟩, (), db,
    ⟨Nat.not_le.mpr small, rfl⟩, rfl⟩

theorem insertEntries_same {transactionId : String} {entries : List ValidatedLedgerEntry}
    {rows : List LedgerEntryEntity} {beside : FinanceDb} (same : beside.ledgerEntries = db.ledgerEntries)
    (inserted : (insertEntries context transactionId entries).run db = .ok (rows, after)) :
    (insertEntries context transactionId entries).run beside =
      .ok (rows, { beside with ledgerEntries := beside.ledgerEntries ++ rows }) := by
  simp only [insertEntries, run_bind_ok, run_current_ok, run_failIf_ok, run_write_ok, run_pure_ok] at inserted ⊢
  obtain ⟨_, _, ⟨rfl, rfl⟩, _, _, ⟨distinct, rfl⟩, _, _, ⟨lines, rfl⟩, _, _, rfl, rfl, rfl⟩ := inserted
  rw [← same] at distinct lines
  exact ⟨beside, beside, ⟨rfl, rfl⟩, (), beside, ⟨distinct, rfl⟩, (), beside, ⟨lines, rfl⟩, (), _, rfl, rfl, rfl⟩

theorem insertPosting_rekey {accounts : List AccountEntity} {postingPlan : LedgerPostingPlan}
    (keys : List (IdempotencyRecord PostedFinancialTransaction)) (unposted : ¬ KeyPosted other.id db)
    (posted : (insertPosting runtime context input reference description accounts postingPlan record).run db =
      .ok (response, after)) :
    ∃ last, (insertPosting runtime context input reference description accounts postingPlan other).run
      { db with idempotencyKeys := keys } = .ok (response, last) := by
  simp only [insertPosting, onKeys, markCompleted, run_bind_ok, run_current_ok, run_lift_ok, run_zoom_ok,
    run_write_ok, run_pure_ok] at posted ⊢
  obtain ⟨effectiveAt, _, ⟨effective, rfl⟩, postedAt, _, ⟨stamped, rfl⟩, _, _, created, rows, _, inserted,
    _, _, ⟨rfl, rfl⟩, _, _, ⟨answered, rfl⟩, _, _, ⟨_, rfl, rfl⟩, _, _, ⟨balanced, rfl⟩, rfl, rfl⟩ := posted
  obtain ⟨freshId, -, freshReference, small, rfl⟩ := createTransaction_ok created
  let row := transactionRow context input reference description postingPlan other.id effectiveAt postedAt
  let beside : FinanceDb := { db with idempotencyKeys := keys }
  have recreated : (createTransaction row).run beside =
      .ok ((), { beside with transactions := beside.transactions ++ [row] }) :=
    createTransaction_of_fresh freshId unposted freshReference small
  let written : FinanceDb := { beside with transactions := beside.transactions ++ [row] }
  have reinserted : (insertEntries context row.id postingPlan.entries).run written =
      .ok (rows, { written with ledgerEntries := written.ledgerEntries ++ rows }) :=
    insertEntries_same (by rfl) inserted
  obtain ⟨rfl, rfl⟩ := insertEntries_ok inserted
  exact ⟨_, effectiveAt, _, ⟨effective, rfl⟩, postedAt, _, ⟨stamped, rfl⟩, (), _, recreated, _, _, reinserted, _, _,
    ⟨rfl, rfl⟩, _, _, ⟨answered, rfl⟩, (), _, ⟨_, rfl, rfl⟩, (), _, ⟨balanced, rfl⟩, rfl, rfl⟩

theorem Settles.unposted {middle : FinanceDb}
    (settles : Settles runtime context input reference description record middle response after)
    {row : FinancialTransactionEntity} (added : after.transactions = middle.transactions ++ [row]) :
    findByReference middle reference = none ∧ ¬ KeyPosted record.id middle := by
  cases settles with
  | reused postingPlan existing _ found hydrated compatible planned =>
    exact absurd added (by simp)
  | inserted postingPlan effectiveAt postedAt _ absent freshId freshKey answers planned =>
    exact ⟨absent, fun ⟨transaction, member, same⟩ => freshKey transaction member same⟩

theorem Settles.row {middle : FinanceDb}
    (settles : Settles runtime context input reference description record middle response after)
    (absent : findByReference middle reference = none) :
    ∃ row, after.transactions = middle.transactions ++ [row] ∧ row.id = response.transactionId := by
  cases settles with
  | reused postingPlan existing _ found hydrated compatible planned =>
    rw [absent] at found
    cases found
  | inserted postingPlan effectiveAt postedAt _ absent freshId freshKey answers planned =>
    exact ⟨_, rfl, answers.symm⟩

theorem postLocked_of_absent {lookup : FinanceDb → Option FinancialTransactionEntity} (absent : lookup db = none) :
    (postLocked runtime context input reference description record lookup).run db = .ok (response, after) ↔
      ∃ postingPlan, buildPostingPlan input (accountsByIds db (sortedDistinct (input.entries.map (·.accountId)))) =
          .ok postingPlan ∧
        (accountsByIds db (sortedDistinct (input.entries.map (·.accountId)))).length =
          (sortedDistinct (input.entries.map (·.accountId))).length ∧
        (insertPosting runtime context input reference description
          (accountsByIds db (sortedDistinct (input.entries.map (·.accountId)))) postingPlan record).run db =
          .ok (response, after) := by
  simp only [postLocked, run_bind_ok, run_current_ok, run_lift_ok, run_failIf_ok, not_not]
  constructor
  · rintro ⟨_, _, ⟨rfl, rfl⟩, postingPlan, _, ⟨planned, rfl⟩, _, _, ⟨lockable, rfl⟩, posted⟩
    rw [absent] at posted
    exact ⟨postingPlan, planned, lockable, posted⟩
  · rintro ⟨postingPlan, planned, lockable, posted⟩
    refine ⟨db, db, ⟨rfl, rfl⟩, postingPlan, db, ⟨planned, rfl⟩, (), db, ⟨lockable, rfl⟩, ?_⟩
    rw [absent]
    exact posted

def takenOver (runtime : Runtime) (context : CallContext) (idempotencyKey requestHash : String)
    (record : IdempotencyRecord PostedFinancialTransaction) : IdempotencyRecord PostedFinancialTransaction :=
  resetExpired context.now (requestLock runtime context idempotencyKey requestHash) record

theorem lockIdempotencyKey_lapsed {idempotencyKey requestHash : String}
    (keyed : requireNonEmptyText input.idempotencyKey "idempotency_key" = .ok idempotencyKey)
    (hashed : buildIdempotencyHash runtime input = .ok requestHash)
    (lapsed : Lapsed context.now financeIdempotencyScope idempotencyKey db.idempotencyKeys record) :
    (lockIdempotencyKey runtime context input).run db =
      .ok (takenOver runtime context idempotencyKey requestHash record, { db with
        idempotencyKeys := updateById record.id (takenOver runtime context idempotencyKey requestHash)
          db.idempotencyKeys }) := by
  simp only [lockIdempotencyKey, onKeys, run_bind_ok, run_lift_ok, run_zoom_ok]
  exact ⟨idempotencyKey, db, ⟨keyed, rfl⟩, requestHash, db, ⟨hashed, rfl⟩, _,
    lockRequest_lapsed context.newIdempotencyId lapsed, rfl⟩

theorem trim_of_required {value fieldName text : String} (required : requireNonEmptyText value fieldName = .ok text) :
    text = JsText.trim value := by
  simp only [requireNonEmptyText, Outcome.bind_ok, Outcome.failIf_ok, Outcome.pure_ok] at required
  obtain ⟨_, -, rfl⟩ := required
  rfl

theorem postsAnew_lapsed_iff
    (lapsed : Lapsed context.now financeIdempotencyScope (JsText.trim input.idempotencyKey) db.idempotencyKeys record)
    (valid : PostsAnew runtime context input { db with
      idempotencyKeys := withoutKey financeIdempotencyScope (JsText.trim input.idempotencyKey) db.idempotencyKeys }) :
    PostsAnew runtime context input db ↔ ¬ KeyPosted record.id db := by
  constructor
  · rintro ⟨response, after, posted, row, -, added, -⟩
    obtain ⟨reference, description, locked, middle, -, -, lock, rest⟩ := postTransaction_ok posted
    obtain ⟨key, requestHash, keys, known, -, ran, rfl⟩ := lockIdempotencyKey_ok lock
    obtain rfl := trim_of_required known
    rw [lockRequest_lapsed _ lapsed] at ran
    cases ran
    rcases rest with ⟨completed, -, -⟩ | ⟨-, settles⟩
    · cases completed
    · exact (Settles.unposted settles added).2
  · intro unposted
    obtain ⟨response, after, posted, row, -, added, -⟩ := valid
    simp only [postTransaction, run_bind_ok, run_lift_ok] at posted
    obtain ⟨reference, _, ⟨referenced, rfl⟩, description, _, ⟨described, rfl⟩, fresh, middle, lock, posted⟩ := posted
    obtain ⟨key, requestHash, keys, keyed, hashed, ran, rfl⟩ := lockIdempotencyKey_ok lock
    obtain rfl := trim_of_required keyed
    obtain rfl := lockRequest_withoutKey ran
    have anew := Settles.unposted (postLocked_ok posted) added
    obtain ⟨postingPlan, planned, lockable, inserted⟩ := (postLocked_of_absent anew.1).mp posted
    have reset := lockIdempotencyKey_lapsed keyed hashed lapsed
    let taken := takenOver runtime context (JsText.trim input.idempotencyKey) requestHash
    have free : ¬ KeyPosted (taken record).id { db with idempotencyKeys := keys } := unposted
    obtain ⟨last, rekeyed⟩ := insertPosting_rekey (updateById record.id taken db.idempotencyKeys) free inserted
    have reposted : (postLocked runtime context input reference description (taken record)
        fun db => findByReference db reference).run { db with
          idempotencyKeys := updateById record.id taken db.idempotencyKeys } = .ok (response, last) :=
      (postLocked_of_absent anew.1).mpr ⟨postingPlan, planned, lockable, rekeyed⟩
    have ran : (postTransaction runtime context input).run db = .ok (response, last) := by
      simp only [postTransaction, run_bind_ok, run_lift_ok]
      exact ⟨reference, db, ⟨referenced, rfl⟩, description, db, ⟨described, rfl⟩, _, _, reset, reposted⟩
    obtain ⟨row, added, answers⟩ := Settles.row (postLocked_ok reposted) anew.1
    exact ⟨response, last, ran, row, by simp [added], added, answers⟩

end Finance

end ShuleHub
