import ShuleHub.Finance.StoredPayloads

/-! What a posting adds to the books when nothing uses its key and its reference yet. -/

namespace ShuleHub.Finance

open Transaction Idempotency

variable {runtime : Runtime} {context : CallContext} {input : PostFinancialTransactionInput} {db after : FinanceDb}
  {response : PostedFinancialTransaction}

def EntryDirection.opposite : EntryDirection → EntryDirection
  | .debit => .credit
  | .credit => .debit

structure Movement where
  accountId : String
  direction : EntryDirection
  amountMinor : Nat
  currencyCode : String

namespace Movement

def mirror (movement : Movement) : Movement := { movement with direction := movement.direction.opposite }

def signed (accountId : String) (movement : Movement) : Int :=
  if movement.accountId = accountId then
    match movement.direction with
    | .debit => movement.amountMinor
    | .credit => -movement.amountMinor
  else 0

theorem signed_mirror (accountId : String) (movement : Movement) :
    movement.mirror.signed accountId = -movement.signed accountId := by
  unfold signed mirror
  cases movement.direction <;> simp [EntryDirection.opposite] <;> split <;> simp

theorem sum_signed_mirror (accountId : String) (movements : List Movement) :
    ((movements.map mirror).map (signed accountId)).sum = -(movements.map (signed accountId)).sum := by
  induction movements with
  | nil => rfl
  | cons movement movements ih =>
    simp only [List.map_cons, List.sum_cons, signed_mirror, ih]
    omega

end Movement

def LedgerEntryEntity.movement (entry : LedgerEntryEntity) : Movement where
  accountId := entry.accountId
  direction := entry.direction
  amountMinor := entry.amountMinor
  currencyCode := entry.currencyCode

def movements (db : FinanceDb) (transactionId : String) : List Movement :=
  (findByTransactionId db transactionId).map (·.movement)

structure Moves (requested : LedgerPostingEntryInput) (movement : Movement) : Prop where
  account : movement.accountId = requested.accountId
  direction : movement.direction = requested.direction
  amount : normalizeLedgerAmount requested.amountMinor = .ok movement.amountMinor
  currency : ∀ code, requested.currencyCode = some code → normalizeCurrency code = movement.currencyCode

theorem moves_of_valid {accounts : List AccountEntity} {requested : List LedgerPostingEntryInput} {line : Nat}
    {entries : List ValidatedLedgerEntry} (context : CallContext) (transactionId : String)
    (valid : List.Forall₂ (fun pair entry => ValidEntry accounts pair.1 pair.2 entry)
      (requested.zip (List.range' line requested.length)) entries) :
    List.Forall₂ Moves requested (entries.map fun entry => (entryRow context transactionId entry).movement) := by
  induction requested generalizing line entries with
  | nil =>
    cases valid
    exact .nil
  | cons first requested ih =>
    rw [List.length_cons, List.range'_succ, List.zip_cons_cons] at valid
    cases valid with
    | cons head rest =>
      refine .cons ?_ (ih rest)
      exact ⟨head.account, head.direction, head.amount, head.currency⟩

structure NewPosting (input : PostFinancialTransactionInput) (key : String)
    (transaction : FinancialTransactionEntity) (db after : FinanceDb) : Prop where
  chart : after.toChartOfAccounts = db.toChartOfAccounts
  transactions : after.transactions = db.transactions ++ [transaction]
  fresh : ∀ other ∈ db.transactions, other.id ≠ transaction.id
  metadata : transaction.metadata = input.metadata.getD (.obj [])
  keys : ∀ record ∈ after.idempotencyKeys, record ∈ db.idempotencyKeys ∨ record.idempotencyKey = key
  own : List.Forall₂ Moves input.entries (movements after transaction.id)
  others : ∀ transactionId, transactionId ≠ transaction.id → movements after transactionId = movements db transactionId

theorem postTransaction_moves {transaction : FinancialTransactionEntity}
    (books : Books db) (succeeded : (postTransaction runtime context input).run db = .ok (response, after))
    (posted : transaction ∈ after.transactions) (new : transaction ∉ db.transactions) :
    List.Forall₂ Moves input.entries (movements after transaction.id) := by
  obtain ⟨reference, description, record, middle, -, -, locked, rest⟩ := postTransaction_ok succeeded
  obtain ⟨key, requestHash, keys, -, -, -, rfl⟩ := lockIdempotencyKey_ok locked
  rcases rest with ⟨-, -, rfl⟩ | ⟨-, settles⟩
  · exact absurd posted new
  · cases settles with
    | reused => exact absurd posted new
    | inserted postingPlan effectiveAt postedAt _ absent freshId freshKey answers planned =>
      have fresh : ∀ entry ∈ db.ledgerEntries, entry.transactionId ≠ context.newTransactionId := by
        intro entry member same
        obtain ⟨other, present, known⟩ := books.owned entry member
        exact freshId other present (known.trans same)
      rcases List.mem_append.mp posted with old | own
      · exact absurd old new
      · cases List.mem_singleton.mp own
        change List.Forall₂ Moves input.entries ((findByTransactionId _ context.newTransactionId).map _)
        rw [findByTransactionId_inserted planned.lineNumbers fresh, List.map_map]
        exact moves_of_valid context context.newTransactionId planned.entries

theorem postTransaction_new {key reference : String} (books : Books db)
    (succeeded : (postTransaction runtime context input).run db = .ok (response, after))
    (keyed : requireNonEmptyText input.idempotencyKey "idempotency_key" = .ok key)
    (referenced : requireNonEmptyText input.reference "reference" = .ok reference)
    (unused : recordFor financeIdempotencyScope key db.idempotencyKeys = none)
    (unreferenced : findByReference db reference = none) :
    ∃ transaction, NewPosting input key transaction db after ∧ transaction.reference = reference ∧
      transaction.id = response.transactionId := by
  obtain ⟨reference', description, record, middle, referenced', -, locked, rest⟩ := postTransaction_ok succeeded
  obtain ⟨key', requestHash, keys, keyed', -, lockedRow, rfl⟩ := lockIdempotencyKey_ok locked
  rw [referenced] at referenced'
  rw [keyed] at keyed'
  cases referenced'
  cases keyed'
  obtain ⟨rfl, rfl, free⟩ := lockRequest_absent unused lockedRow
  rcases rest with ⟨completed, -⟩ | ⟨-, settles⟩
  · cases completed
  · cases settles with
    | reused postingPlan existing _ found =>
      have absent : findByReference db reference = some existing := found
      rw [unreferenced] at absent
      cases absent
    | inserted postingPlan effectiveAt postedAt _ absent freshId freshKey answers planned =>
      have fresh : ∀ entry ∈ db.ledgerEntries, entry.transactionId ≠ context.newTransactionId := by
        intro entry member same
        obtain ⟨transaction, present, known⟩ := books.owned entry member
        exact freshId transaction present (known.trans same)
      refine ⟨_, ⟨rfl, rfl, freshId, rfl, ?_, ?_, ?_⟩, rfl, answers.symm⟩
      · intro record member
        simp only at member
        rw [updateById_append_fresh _ _ free] at member
        rcases List.mem_append.mp member with old | new
        · exact .inl old
        · rw [List.mem_singleton.mp new]
          exact .inr rfl
      · change List.Forall₂ Moves input.entries ((findByTransactionId _ context.newTransactionId).map _)
        rw [findByTransactionId_inserted planned.lineNumbers fresh, List.map_map]
        exact moves_of_valid context context.newTransactionId planned.entries
      · intro transactionId differs
        refine congrArg (List.map LedgerEntryEntity.movement) (findByTransactionId_other ?_ _ _)
        intro row member same
        obtain ⟨entry, -, rfl⟩ := List.mem_map.mp member
        exact differs same.symm

end ShuleHub.Finance
