import ShuleHub.Finance.Posting
import ShuleHub.Lib.Runs

/-! What holds of the books after any sequence of postings. -/

namespace ShuleHub.Finance

open Runs Transaction Idempotency Table

variable {accounts : List AccountEntity} {ledgerEntries : List LedgerEntryEntity}
  {transaction : FinancialTransactionEntity} {db after : FinanceDb} {context : CallContext}
  {input : PostFinancialTransactionInput} {reference description : String} {runtime : Runtime}
  {response : PostedFinancialTransaction}

/-- A stored transaction and its entries: two or more, numbered from one, in one currency that is
also the currency of their accounts, the debits and the credits each adding up to its total. -/
structure Posted (accounts : List AccountEntity) (ledgerEntries : List LedgerEntryEntity)
    (transaction : FinancialTransactionEntity) : Prop where
  atLeastTwo : 2 ≤ transaction.entryCount
  lineNumbers : ((ledgerEntries.filter fun entry => entry.transactionId = transaction.id).map
    (·.lineNumber)) = List.range' 1 transaction.entryCount
  currency : ∀ entry ∈ ledgerEntries, entry.transactionId = transaction.id →
    entry.currencyCode = transaction.currencyCode ∧ ∃ account ∈ accounts,
      account.id = entry.accountId ∧ account.currencyCode = transaction.currencyCode
  debits : Table.total (fun entry => entry.transactionId = transaction.id ∧ entry.direction = .debit)
    (·.amountMinor) ledgerEntries = transaction.totalAmountMinor
  credits : Table.total (fun entry => entry.transactionId = transaction.id ∧ entry.direction = .credit)
    (·.amountMinor) ledgerEntries = transaction.totalAmountMinor
  positive : 0 < transaction.totalAmountMinor

theorem Posted.entryCount_eq (posted : Posted accounts ledgerEntries transaction) :
    transaction.entryCount =
      (ledgerEntries.filter fun entry => entry.transactionId = transaction.id).length := by
  have lengths := congrArg List.length posted.lineNumbers
  simpa [eq_comm] using lengths

structure Books (db : FinanceDb) : Prop where
  ids : (db.transactions.map (·.id)).Nodup
  references : (db.transactions.map (·.reference)).Nodup
  posted : ∀ transaction ∈ db.transactions, Posted db.accounts db.ledgerEntries transaction
  owned : ∀ entry ∈ db.ledgerEntries, ∃ transaction ∈ db.transactions, transaction.id = entry.transactionId

theorem Posted.append {rows : List LedgerEntryEntity} (posted : Posted accounts ledgerEntries transaction)
    (others : ∀ row ∈ rows, row.transactionId ≠ transaction.id) :
    Posted accounts (ledgerEntries ++ rows) transaction := by
  have none : (rows.filter fun entry => entry.transactionId = transaction.id) = [] :=
    List.filter_eq_nil_iff.mpr (by simpa using others)
  refine { posted with lineNumbers := ?_, currency := ?_, debits := ?_, credits := ?_ }
  · rw [List.filter_append, none, List.append_nil]
    exact posted.lineNumbers
  · intro entry member same
    rcases List.mem_append.mp member with old | new
    · exact posted.currency entry old same
    · exact absurd same (others entry new)
  · rw [total_append, posted.debits, total_eq_zero (fun row member both => others row member both.1),
      Nat.add_zero]
  · rw [total_append, posted.credits, total_eq_zero (fun row member both => others row member both.1),
      Nat.add_zero]

theorem total_entryRows (context : CallContext) (transactionId : String) (direction : EntryDirection)
    (entries : List ValidatedLedgerEntry) :
    total (fun entry => entry.transactionId = transactionId ∧ entry.direction = direction)
      (·.amountMinor) (entries.map (entryRow context transactionId)) = directionTotal direction entries := by
  unfold directionTotal
  induction entries with
  | nil => rfl
  | cons entry entries ih =>
    rw [List.map_cons, total_cons, total_cons, ih]
    simp [entryRow]

theorem posted_of_plan {accountIds : List String} {postingPlan : LedgerPostingPlan}
    {keyId : String} {effectiveAt postedAt : Int}
    (planned : ValidPlan (accountsByIds db accountIds) input postingPlan)
    (fresh : ∀ entry ∈ db.ledgerEntries, entry.transactionId ≠ context.newTransactionId) :
    Posted db.accounts
      (db.ledgerEntries ++ postingPlan.entries.map (entryRow context context.newTransactionId))
      (transactionRow context input reference description postingPlan keyId effectiveAt postedAt) := by
  have old : (db.ledgerEntries.filter fun entry => entry.transactionId = context.newTransactionId) = [] :=
    List.filter_eq_nil_iff.mpr (by simpa using fresh)
  have new : (postingPlan.entries.map (entryRow context context.newTransactionId)).filter
      (fun entry => entry.transactionId = context.newTransactionId) =
      postingPlan.entries.map (entryRow context context.newTransactionId) :=
    List.filter_eq_self.mpr (by simp [entryRow])
  have total (direction : EntryDirection) :
      total (fun entry => entry.transactionId = context.newTransactionId ∧ entry.direction = direction)
        (·.amountMinor)
        (db.ledgerEntries ++ postingPlan.entries.map (entryRow context context.newTransactionId)) =
        directionTotal direction postingPlan.entries := by
    rw [total_append, total_eq_zero (fun row member both => fresh row member both.1),
      total_entryRows, Nat.zero_add]
  constructor
  · change 2 ≤ postingPlan.entryCount
    exact planned.entryCount.symm ▸ planned.atLeastTwo
  · change ((db.ledgerEntries ++ _).filter fun entry => entry.transactionId = context.newTransactionId).map _ = _
    rw [List.filter_append, old, new, List.nil_append, List.map_map]
    change postingPlan.entries.map (·.lineNumber) = List.range' 1 postingPlan.entryCount
    rw [planned.entryCount, planned.lineNumbers]
  · intro entry member same
    rcases List.mem_append.mp member with earlier | now
    · exact absurd same (fresh entry earlier)
    · obtain ⟨requested, present, rfl⟩ := List.mem_map.mp now
      obtain ⟨-, currency, account, found, known, code⟩ := planned.entry_valid present
      refine ⟨currency, account, ?_, known, code⟩
      have row : account ∈ db.accounts.filter fun account => account.id ∈ accountIds :=
        (List.mem_insertionSort _).mp found
      exact List.mem_of_mem_filter row
  · exact (total .debit).trans planned.debits
  · exact (total .credit).trans planned.credits
  · exact planned.total_pos

theorem settles_books {record : IdempotencyRecord PostedFinancialTransaction} (books : Books db)
    (settles : Settles runtime context input reference description record db response after) : Books after := by
  cases settles with
  | reused => exact ⟨books.ids, books.references, books.posted, books.owned⟩
  | inserted postingPlan effectiveAt postedAt response absent freshId freshKey answers planned =>
    have fresh : ∀ entry ∈ db.ledgerEntries, entry.transactionId ≠ context.newTransactionId := by
      intro entry member same
      obtain ⟨transaction, present, known⟩ := books.owned entry member
      exact freshId transaction present (known.trans same)
    have freshReference : ∀ other ∈ db.transactions, other.reference ≠ reference := by
      simpa [findByReference] using absent
    constructor
    · rw [List.map_append]
      refine List.nodup_append.mpr ⟨books.ids, by simp, ?_⟩
      rintro id old _ new rfl
      obtain ⟨other, present, rfl⟩ := List.mem_map.mp old
      exact freshId other present (by simpa [transactionRow] using new)
    · rw [List.map_append]
      refine List.nodup_append.mpr ⟨books.references, by simp, ?_⟩
      rintro id old _ new rfl
      obtain ⟨other, present, rfl⟩ := List.mem_map.mp old
      exact freshReference other present (by simpa [transactionRow] using new)
    · intro transaction member
      rcases List.mem_append.mp member with old | new
      · refine (books.posted transaction old).append ?_
        intro row added same
        obtain ⟨_, -, rfl⟩ := List.mem_map.mp added
        exact freshId transaction old same.symm
      · rw [List.mem_singleton.mp new]
        exact posted_of_plan planned fresh
    · intro entry member
      rcases List.mem_append.mp member with old | new
      · obtain ⟨transaction, present, known⟩ := books.owned entry old
        exact ⟨transaction, List.mem_append_left _ present, known⟩
      · obtain ⟨_, -, rfl⟩ := List.mem_map.mp new
        exact ⟨_, List.mem_append_right _ List.mem_cons_self, rfl⟩

theorem postTransaction_books
    (books : Books db)
    (succeeded : (postTransaction runtime context input).run db = .ok (response, after)) : Books after := by
  obtain ⟨_, _, record, middle, -, -, locked, rest⟩ := postTransaction_ok succeeded
  obtain ⟨_, _, keys, -, -, -, rfl⟩ := lockIdempotencyKey_ok locked
  have between : Books { db with idempotencyKeys := keys } :=
    ⟨books.ids, books.references, books.posted, books.owned⟩
  rcases rest with ⟨-, -, rfl⟩ | ⟨-, settles⟩
  · exact between
  · exact settles_books between settles

inductive Call where
  | post (context : CallContext) (input : PostFinancialTransactionInput)
  | create (context : CallContext) (input : CreateLedgerTransactionInput)

def perform (runtime : Runtime) (db : FinanceDb) : Call → FinanceDb
  | .post context input => commit (postTransaction runtime context input) db
  | .create context input => commit (createLedgerTransaction runtime context input) db

def FinanceDb.opened (chart : ChartOfAccounts) : FinanceDb where
  toChartOfAccounts := chart
  transactions := []
  ledgerEntries := []
  idempotencyKeys := []

theorem books_opened (chart : ChartOfAccounts) : Books (FinanceDb.opened chart) := by
  constructor <;> simp [FinanceDb.opened]

theorem perform_books (runtime : Runtime) (db : FinanceDb) (call : Call) (books : Books db) :
    Books (perform runtime db call) := by
  cases call with
  | post context input =>
    exact commit_preserves books fun _ _ succeeded => postTransaction_books books succeeded
  | create context input =>
    refine commit_preserves books fun _ _ succeeded => ?_
    simp only [createLedgerTransaction, run_bind_ok, run_lift_ok] at succeeded
    obtain ⟨_, _, ⟨-, rfl⟩, succeeded⟩ := succeeded
    exact postTransaction_books books succeeded

def currencyTotal (direction : EntryDirection) (currencyCode : String) (db : FinanceDb) : Nat :=
  ((db.accounts.filter fun account => account.currencyCode = currencyCode).map fun account =>
    entryTotal direction account.id db.ledgerEntries).sum

theorem filtered_ids_nodup {Row : Type} {rows : List Row} {id : Row → String} (condition : Row → Bool)
    (distinct : (rows.map id).Nodup) : ((rows.filter condition).map id).Nodup :=
  distinct.sublist (List.filter_sublist.map _)

theorem entry_currency_iff (books : Books db) (currencyCode : String)
    {entry : LedgerEntryEntity} (member : entry ∈ db.ledgerEntries) :
    entry.accountId ∈ (db.accounts.filter fun account => account.currencyCode = currencyCode).map (·.id) ↔
      entry.transactionId ∈
        (db.transactions.filter fun transaction => transaction.currencyCode = currencyCode).map (·.id) := by
  obtain ⟨transaction, present, known⟩ := books.owned entry member
  obtain ⟨-, account, found, same, code⟩ := (books.posted transaction present).currency entry member known.symm
  simp only [List.mem_map, List.mem_filter, decide_eq_true_eq]
  constructor
  · rintro ⟨other, ⟨listed, currency⟩, otherId⟩
    have one : other = account :=
      List.inj_on_of_nodup_map db.accountsDistinct listed found (otherId.trans same.symm)
    exact ⟨transaction, ⟨present, by rw [← code, ← one, currency]⟩, known⟩
  · rintro ⟨other, ⟨listed, currency⟩, otherId⟩
    have one : other = transaction :=
      List.inj_on_of_nodup_map books.ids listed present (otherId.trans known.symm)
    exact ⟨account, ⟨found, by rw [code, ← one, currency]⟩, same⟩

theorem currencyTotal_eq (books : Books db) (direction : EntryDirection)
    (currencyCode : String)
    (stored : ∀ transaction ∈ db.transactions,
      total (fun entry => entry.transactionId = transaction.id ∧ entry.direction = direction)
        (·.amountMinor) db.ledgerEntries = transaction.totalAmountMinor) :
    currencyTotal direction currencyCode db =
      ((db.transactions.filter fun transaction => transaction.currencyCode = currencyCode).map
        (·.totalAmountMinor)).sum := by
  have byAccount := sum_total (filtered_ids_nodup
    (fun account => account.currencyCode = currencyCode) db.accountsDistinct)
    LedgerEntryEntity.accountId (fun entry => entry.direction = direction) (·.amountMinor) db.ledgerEntries
  have byTransaction := sum_total (filtered_ids_nodup
    (fun transaction => transaction.currencyCode = currencyCode) books.ids)
    LedgerEntryEntity.transactionId (fun entry => entry.direction = direction) (·.amountMinor) db.ledgerEntries
  rw [List.map_map] at byAccount byTransaction
  have totals : (db.transactions.filter fun transaction => transaction.currencyCode = currencyCode).map
      ((fun wanted => total (fun entry : LedgerEntryEntity => entry.transactionId = wanted ∧
        entry.direction = direction) (·.amountMinor) db.ledgerEntries) ∘ (·.id)) =
      (db.transactions.filter fun transaction => transaction.currencyCode = currencyCode).map
        (·.totalAmountMinor) :=
    List.map_congr_left fun transaction member => stored transaction (List.mem_of_mem_filter member)
  calc
    currencyTotal direction currencyCode db =
        total (fun entry => entry.accountId ∈
          (db.accounts.filter fun account => account.currencyCode = currencyCode).map (·.id) ∧
          entry.direction = direction) (·.amountMinor) db.ledgerEntries := byAccount
    _ = total (fun entry => entry.transactionId ∈
          (db.transactions.filter fun transaction => transaction.currencyCode = currencyCode).map (·.id) ∧
          entry.direction = direction) (·.amountMinor) db.ledgerEntries :=
      total_congr fun entry member => and_congr_left' (entry_currency_iff books currencyCode member)
    _ = _ := by rw [← byTransaction, totals]

theorem trial_balance (books : Books db) (currencyCode : String) :
    currencyTotal .debit currencyCode db = currencyTotal .credit currencyCode db := by
  rw [currencyTotal_eq books .debit currencyCode fun transaction member => (books.posted transaction member).debits,
    currencyTotal_eq books .credit currencyCode fun transaction member => (books.posted transaction member).credits]

/-- After any calls on any chart of accounts, every stored transaction is a balanced posting in one
currency, references are unique, and the trial balance of every currency balances. -/
theorem books_balance_after_calls (runtime : Runtime) (chart : ChartOfAccounts) (calls : List Call) :
    let db := run (perform runtime) (FinanceDb.opened chart) calls
    (∀ transaction ∈ db.transactions, Posted db.accounts db.ledgerEntries transaction ∧
        transaction.entryCount =
          (db.ledgerEntries.filter fun entry => entry.transactionId = transaction.id).length) ∧
      (db.transactions.map (·.reference)).Nodup ∧
      ∀ currencyCode, currencyTotal .debit currencyCode db = currencyTotal .credit currencyCode db := by
  have books := run_preserves (perform_books runtime) calls (books_opened chart)
  refine ⟨fun transaction member => ?_, books.references, trial_balance books⟩
  exact ⟨books.posted transaction member, (books.posted transaction member).entryCount_eq⟩

end ShuleHub.Finance
